import NmOpenvpn3.AuthDialog.Dialog

/-!
# The prompt in the key file

The prompt may be text of the server. It is written on one line of the key file, escaped, and
decides about nothing else there (`euiLines_description`). A reader that undoes the escapes has the
prompt (`unescape_escape`).
-/

namespace NmOpenvpn3

namespace AuthDialog

open Rust Ovpn

/-- What a reader of key files makes of the escapes. -/
def unescape : List Char → List Char
  | '\\' :: '\\' :: l => '\\' :: unescape l
  | '\\' :: 'n' :: l => '\n' :: unescape l
  | '\\' :: 'r' :: l => '\r' :: unescape l
  | '\\' :: 't' :: l => '\t' :: unescape l
  | c :: l => c :: unescape l
  | [] => []

theorem unescape_escapeChar (c : Char) (l : List Char) :
    unescape (escapeChar c ++ l) = c :: unescape l := by
  unfold escapeChar
  split
  case h_5 hslash _ _ _ =>
    rw [List.singleton_append, unescape]
    all_goals rintro - rfl
    all_goals exact absurd rfl hslash
  all_goals rfl

/-- The escapes can be undone. -/
theorem unescape_escape (s : String) : unescape (escape s).toList = s.toList := by
  rw [escape, String.toList_ofList]
  induction s.toList with
  | nil => rfl
  | cons c l ih => rw [List.flatMap_cons, unescape_escapeChar, ih]

section KeyFile

variable (tr : String → String) (isEncrypted : String → Bool)

/-- The words in front of the prompt. -/
def descriptionWord : List Char := "Description=".toList

/-- The lines in front of the prompt. -/
def linesBefore : List String := ["[VPN Plugin UI]", "Version=2"]

/-- The lines behind the prompt. -/
def linesBehind (needed : Needed) (allow : Bool) : List String :=
  ("Title=" ++ escape (tr "Authentication required")) ::
    (entries tr needed allow).flatMap Entry.lines

theorem euiLines_eq (prompt : String) (needed : Needed) (allow : Bool) :
    euiLines tr prompt needed allow =
      linesBefore ++ ("Description=" ++ escape prompt) :: linesBehind tr needed allow := rfl

/-- The text of the key file, split at its line feeds. -/
theorem splitOn_linesText_euiLines (prompt : String) (needed : Needed) (allow : Bool) :
    (linesText (euiLines tr prompt needed allow)).toList.splitOn '\n' =
      linesBefore.map String.toList ++ (descriptionWord ++ (escape prompt).toList) ::
        ((linesBehind tr needed allow).map String.toList ++ [[]]) := by
  have hline : ("Description=" ++ escape prompt).toList =
      descriptionWord ++ (escape prompt).toList := String.toList_append
  have hlines : ∀ l ∈ (euiLines tr prompt needed allow).map String.toList, '\n' ∉ l := by
    intro l hl
    obtain ⟨s, hs, rfl⟩ := List.mem_map.mp hl
    exact (oneLine_of_mem_euiLines tr hs).1
  rw [linesText, String.toList_ofList, splitOn_flatMap_newline hlines, euiLines_eq, List.map_append,
    List.map_cons, hline, List.append_assoc, List.cons_append]

/-- No other line is taken for the description. -/
theorem not_description {needed : Needed} {allow : Bool} {l : List Char}
    (h : l ∈ linesBefore.map String.toList ++
      ((linesBehind tr needed allow).map String.toList ++ [[]])) :
    ¬descriptionWord <+: l := by
  -- The first letter tells most lines apart.
  have hword : descriptionWord = 'D' :: "escription=".toList := by decide
  have hhead {l : List Char} (hl : l.head? ≠ some 'D') : ¬descriptionWord <+: l := by
    rintro ⟨t, rfl⟩
    rw [hword, List.cons_append, List.head?_cons] at hl
    exact hl rfl
  simp only [linesBefore, linesBehind, List.mem_append, List.mem_map, List.mem_cons,
    List.not_mem_nil, or_false, List.mem_flatMap] at h
  obtain ⟨s, rfl | rfl, rfl⟩ | ⟨s, rfl | ⟨e, -, hs⟩, rfl⟩ | rfl := h
  · exact hhead (by decide)
  · exact hhead (by decide)
  · exact hhead (by simp)
  · simp only [Entry.lines, List.mem_cons, List.not_mem_nil, or_false] at hs
    obtain rfl | rfl | rfl | rfl | rfl | rfl | rfl := hs <;> exact hhead (by simp)
  · exact hhead (by simp)

/-- **The prompt decides about one line of the key file**, which holds it escaped. -/
theorem euiLines_description (args : Args) (data : VpnData) (allow : Bool) :
    ∃ (pre post : List (List Char)) (text : List Char),
      (linesText (euiLines tr (promptText tr args (needs isEncrypted data args.hints))
        (needs isEncrypted data args.hints) allow)).toList.splitOn '\n' =
          pre ++ (descriptionWord ++ text) :: post ∧
      (linesText (euiLines tr "" (needs isEncrypted data args.hints) allow)).toList.splitOn '\n' =
          pre ++ descriptionWord :: post ∧
      (∀ l ∈ pre ++ post, ¬descriptionWord <+: l) ∧
      '\n' ∉ text ∧ '\r' ∉ text ∧ '\t' ∉ text ∧
      String.ofList (unescape text) = promptText tr args (needs isEncrypted data args.hints) := by
  set needed := needs isEncrypted data args.hints
  set prompt := promptText tr args needed
  refine ⟨linesBefore.map String.toList, (linesBehind tr needed allow).map String.toList ++ [[]],
    (escape prompt).toList, splitOn_linesText_euiLines tr prompt needed allow, ?_,
    fun l hl ↦ not_description tr hl, not_mem_escape (.inl rfl) prompt,
    not_mem_escape (.inr (.inl rfl)) prompt,
    not_mem_escape (.inr (.inr rfl)) prompt, ?_⟩
  · rw [splitOn_linesText_euiLines]
    simp [escape]
  · rw [unescape_escape, String.ofList_toList]

end KeyFile

/-- A server message cannot add an entry. -/
example : escape "evil\nShouldAsk=true" = "evil\\nShouldAsk=true" := by decide

end AuthDialog

end NmOpenvpn3
