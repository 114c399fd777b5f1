import NmOpenvpn3.Rust.Str

/-!
# Paths

`std::path::Path` on Unix, as far as its components are looked at. A relative path that is joined to
a directory adds its components to those of the directory, `components_join`.
-/

namespace NmOpenvpn3

namespace Rust

/-- `std::path::Component`. -/
inductive Component where
  | rootDir
  | curDir
  | parentDir
  | normal (name : List Char)
  deriving DecidableEq

/-- The component of a part between slashes. -/
def partComponent (part : List Char) : Option Component :=
  if part = [] ∨ part = ['.'] then none
  else if part = ['.', '.'] then some .parentDir
  else some (.normal part)

/-- `Path::components`. A dot counts only where it begins the path. -/
def components (path : List Char) : List Component :=
  let parts := path.splitOnP (· == '/')
  (if path.head? = some '/' then [.rootDir]
    else if parts.head? = some ['.'] then [.curDir]
    else []) ++
    parts.filterMap partComponent

/-- `Path::join`, of a relative path. -/
def join (dir path : List Char) : List Char :=
  if dir = [] ∨ dir.getLast? = some '/' then dir ++ path else dir ++ '/' :: path

/-- A single name, whatever slashes and dots are behind it. -/
def isBareName (path : List Char) : Bool :=
  match components path with
  | [.normal _] => true
  | _ => false

theorem isBareName_iff {path : List Char} :
    isBareName path = true ↔ ∃ name, components path = [.normal name] := by
  rw [isBareName]
  split
  · rename_i name h
    exact ⟨fun _ ↦ ⟨name, h⟩, fun _ ↦ rfl⟩
  · rename_i h
    exact ⟨fun hf ↦ absurd hf Bool.false_ne_true, fun ⟨name, hname⟩ ↦ absurd hname (h name)⟩

/-- The parts of a path that goes on behind a slash. -/
theorem splitOnP_append_slash (l r : List Char) :
    (l ++ '/' :: r).splitOnP (· == '/') = l.splitOnP (· == '/') ++ r.splitOnP (· == '/') :=
  List.splitOnP_append_cons _ _ (by simp)

/-- How a path begins does not depend on what is behind it. -/
theorem components_append_slash {l : List Char} (hl : l ≠ []) (r : List Char) :
    components (l ++ '/' :: r) =
      components l ++ (r.splitOnP (· == '/')).filterMap partComponent := by
  have hhead : (l ++ '/' :: r).head? = l.head? := List.head?_append_of_ne_nil _ hl
  have hparts : (l.splitOnP (· == '/') ++ r.splitOnP (· == '/')).head? =
      (l.splitOnP (· == '/')).head? :=
    List.head?_append_of_ne_nil _ (List.splitOnP_ne_nil _ l)
  simp only [components]
  rw [splitOnP_append_slash, hhead, hparts, List.filterMap_append, List.append_assoc]

theorem components_slash (r : List Char) :
    components ('/' :: r) = .rootDir :: (r.splitOnP (· == '/')).filterMap partComponent := by
  have hparts := splitOnP_append_slash [] r
  rw [List.nil_append] at hparts
  simp [components, hparts, partComponent]

/-- The components of a bare name are those of its parts. -/
theorem filterMap_partComponent_of_bareName {path name : List Char}
    (h : components path = [.normal name]) :
    (path.splitOnP (· == '/')).filterMap partComponent = [.normal name] := by
  simp only [components] at h
  split_ifs at h
  · simp at h
  · simp at h
  · exact h

/-- A bare name is a name of the directory that it is joined to. -/
theorem components_join {dir path name : List Char} (h : components path = [.normal name]) :
    components (join dir path) = components dir ++ [.normal name] := by
  have hparts := filterMap_partComponent_of_bareName h
  rw [join]
  split_ifs with hdir
  · obtain rfl | hlast := hdir
    · exact h
    · obtain ⟨l, rfl⟩ := List.getLast?_eq_some_iff.mp hlast
      by_cases hl : l = []
      · subst hl
        exact (components_slash path).trans (congrArg _ hparts)
      · rw [List.append_assoc, List.singleton_append, components_append_slash hl,
          components_append_slash hl, hparts]
        simp [partComponent]
  · rw [components_append_slash (by tauto), hparts]

end Rust

end NmOpenvpn3
