import NmOpenvpn3.Ovpn.RoundTrip

/-!
# Concatenated texts

Whatever the parser takes from a text that ends with a line, it takes from that text alone: it ends
outside of any blob, and the lines that follow are read as they would be on their own. The line
numbers differ, but only errors carry them (`parseLines_append`).
-/

namespace NmOpenvpn3

namespace Ovpn

open Rust

/-! ## Lines -/

theorem linesFrom_append {a : List Char} (acc b : List Char) :
    linesFrom acc (a ++ '\n' :: b) = linesFrom acc (a ++ ['\n']) ++ lines b := by
  induction a generalizing acc with
  | nil => simp [linesFrom, lines]
  | cons c a ih =>
    rw [List.cons_append, List.cons_append, linesFrom, linesFrom]
    split_ifs
    · rw [ih, List.cons_append]
    · exact ih (c :: acc)

/-- A text that a line feed ends, or an empty one, shares no line with what follows. -/
def EndsLine (a : List Char) : Prop := a = [] ∨ a.getLast? = some '\n'

theorem lines_append {a : List Char} (h : EndsLine a) (b : List Char) :
    lines (a ++ b) = lines a ++ lines b := by
  obtain rfl | hlast := h
  · rfl
  · obtain ⟨s, rfl⟩ : ∃ s, a = s ++ ['\n'] :=
      ⟨_, (List.dropLast_append_getLast? _ hlast).symm⟩
    rw [List.append_assoc, List.singleton_append, lines, linesFrom_append]
    rfl

theorem physicalLines_of_head {text : String} (h : text.toList.head? ≠ some bom) :
    physicalLines text = lines text.toList := by
  have hstrip : stripPrefix [bom] text.toList = none := by
    rw [Option.eq_none_iff_forall_ne_some]
    rintro t ht
    rw [stripPrefix_eq_some.mp ht] at h
    exact h rfl
  rw [physicalLines, hstrip, Option.getD_none]

/-- A byte order mark counts at the beginning of the first text only. -/
theorem physicalLines_append {a b : String} (ha : EndsLine a.toList)
    (hb : b.toList.head? ≠ some bom) :
    physicalLines (a ++ b) = physicalLines a ++ physicalLines b := by
  rw [physicalLines_of_head hb, physicalLines, physicalLines, String.toList_append]
  cases hbom : stripPrefix [bom] a.toList with
  | some t =>
    have hat : a.toList = bom :: t := stripPrefix_eq_some.mp hbom
    have hcat : stripPrefix [bom] (bom :: (t ++ b.toList)) = some (t ++ b.toList) :=
      stripPrefix_eq_some.mpr rfl
    rw [hat, List.cons_append, hcat, Option.getD_some, Option.getD_some]
    refine lines_append ?_ _
    rw [hat] at ha
    obtain h | h := ha
    · simp at h
    · cases t with
      | nil => exact .inl rfl
      | cons c t => exact .inr (by simpa [List.getLast?_cons_cons] using h)
  | none =>
    have hcat : stripPrefix [bom] (a.toList ++ b.toList) = none := by
      rw [Option.eq_none_iff_forall_ne_some] at hbom ⊢
      intro t ht
      rw [stripPrefix_eq_some] at ht
      cases hat : a.toList with
      | nil =>
        rw [hat, List.nil_append] at ht
        rw [ht] at hb
        exact hb rfl
      | cons c s =>
        rw [hat, List.cons_append, List.singleton_append, List.cons.injEq] at ht
        exact hbom s (stripPrefix_eq_some.mpr (by rw [hat, ht.1, List.singleton_append]))
    rw [hcat, Option.getD_none, Option.getD_none, lines_append ha]

/-! ## The loop -/

/-- Lines that were accepted are read as the same directives in front of other accepted lines, at
whatever line numbers. -/
theorem parseLines_append {rest : List (List Char)} {B : List Directive}
    (hrest : ∀ m, parseLines none m rest = .ok B) {ls : List (List Char)} {o : Option OpenBlob}
    {n : ℕ} {A : List Directive} (h : parseLines o n ls = .ok A) (start n' : ℕ) :
    parseLines (o.map fun b ↦ { b with lineno := start }) n' (ls ++ rest) = .ok (A ++ B) := by
  induction ls generalizing o n A start n' with
  | nil =>
    cases o with
    | none =>
      obtain rfl : [] = A := by simpa [parseLines] using h
      exact hrest n'
    | some b => simp [parseLines] at h
  | cons line ls ih =>
    cases o with
    | some b =>
      rw [parseLines] at h
      rw [Option.map_some, List.cons_append, parseLines]
      by_cases hclose : trim line = b.close
      · rw [if_pos hclose] at h
        rw [if_pos (by exact hclose)]
        split_ifs at h with hname
        obtain ⟨A', hA', rfl⟩ := exists_of_map_eq_ok h
        rw [if_pos hname, show parseLines none (n' + 1) (ls ++ rest) = _ from ih hA' start _]
        rfl
      · rw [if_neg hclose] at h
        rw [if_neg (by exact hclose)]
        exact ih h start _
    | none =>
      rw [parseLines] at h
      rw [Option.map_none, List.cons_append, parseLines]
      split_ifs at h ⊢ with hblank
      · exact ih h start _
      · cases htok : tokenize (trimStart line) with
        | error e => simp [htok] at h
        | ok toks =>
          rw [htok] at h
          cases toks with
          | nil => exact ih h start _
          | cons tok args =>
            simp only at h ⊢
            cases htag : blobTag (optionName tok) with
            | some inner =>
              rw [htag] at h
              exact ih h n' _
            | none =>
              rw [htag] at h
              obtain ⟨A', hA', rfl⟩ := exists_of_map_eq_ok h
              simp only
              rw [show parseLines none (n' + 1) (ls ++ rest) = _ from ih hA' start _]
              rfl

/-- The line numbers do not matter to what is accepted. -/
theorem parseLines_lineno {ls : List (List Char)} {n : ℕ} {A : List Directive}
    (h : parseLines none n ls = .ok A) (n' : ℕ) : parseLines none n' ls = .ok A := by
  have hnil : ∀ m, parseLines none m [] = .ok [] := fun _ ↦ rfl
  have := parseLines_append hnil h 0 n'
  rwa [List.append_nil, List.append_nil] at this

/-- **Parsing is compositional**: the directives of a text whose parts are accepted are those of its
parts. -/
theorem parse_append (a b : String) (A B : OvpnConfig) (ha : EndsLine a.toList)
    (hbom : b.toList.head? ≠ some bom) (hA : OvpnConfig.parse a = .ok A)
    (hB : OvpnConfig.parse b = .ok B) :
    OvpnConfig.parse (a ++ b) = .ok ⟨A.directives ++ B.directives⟩ := by
  have hlines : parseLines none 1 (physicalLines (a ++ b)) =
      .ok (A.directives ++ B.directives) := by
    rw [physicalLines_append ha hbom]
    exact parseLines_append (parseLines_lineno (parseLines_of_parse hB))
      (parseLines_of_parse hA) 0 1
  have hvalid : validateAll (A.directives ++ B.directives) = .ok () := by
    rw [validateAll_eq_ok, List.forall_mem_append]
    exact ⟨validateAll_eq_ok.mp (validate_of_parse hA), validateAll_eq_ok.mp (validate_of_parse hB)⟩
  rw [physicalLines] at hlines
  rw [OvpnConfig.parse, hlines]
  change (validateAll (A.directives ++ B.directives)).bind _ = _
  rw [hvalid]
  rfl

/-- A comment and a blob, and what comes after them. -/
theorem parse_append_blob :
    OvpnConfig.parse ("# 'c\n<ca>\nx\n</ca>\n" ++ "remote 'a b' 1194") =
      .ok ⟨[.blob "ca" "x\n", .option "remote" ["a b", "1194"]]⟩ :=
  parse_append "# 'c\n<ca>\nx\n</ca>\n" "remote 'a b' 1194" ⟨[.blob "ca" "x\n"]⟩
    ⟨[.option "remote" ["a b", "1194"]]⟩ (.inr (by decide)) (by decide) (by rfl) (by rfl)

/-! ## Comments -/

/-- Lines of comment in front of a text. -/
def withComments (cs : List String) (text : String) : String :=
  cs.foldr (fun c rest ↦ "#" ++ c ++ "\n" ++ rest) text

theorem withComments_cons (c : String) (cs : List String) (text : String) :
    withComments (c :: cs) text = "#" ++ c ++ "\n" ++ withComments cs text := rfl

theorem head?_withComments {cs : List String} {text : String}
    (h : text.toList.head? ≠ some bom) : (withComments cs text).toList.head? ≠ some bom := by
  cases cs with
  | nil => exact h
  | cons c cs => simp [withComments_cons, bom]

/-- A line that begins with a number sign does so without its carriage return. -/
theorem head?_chopCr_comment (c : List Char) : (chopCr ('#' :: c)).head? = some '#' := by
  by_cases hlast : ('#' :: c).getLast? = some '\r'
  · obtain ⟨t, ht⟩ : ∃ t, '#' :: c = t ++ ['\r'] :=
      ⟨_, (List.dropLast_append_getLast? _ hlast).symm⟩
    cases t with
    | nil => simp at ht
    | cons d t =>
      obtain ⟨rfl, -⟩ := List.cons.inj ht
      rw [ht]
      simp [chopCr, stripCr]
  · rw [chopCr_eq_self_iff.mpr hlast]
    rfl

theorem parseLines_comment {c : List Char} {n : ℕ} {rest : List (List Char)} :
    parseLines none n (chopCr ('#' :: c) :: rest) = parseLines none (n + 1) rest := by
  obtain ⟨t, ht⟩ := List.head?_eq_some_iff.mp (head?_chopCr_comment c)
  have hstart : trimStart ('#' :: t) = '#' :: t := by rfl
  rw [ht, parseLines, hstart, if_pos (.inr (.inr rfl))]

theorem parse_eq_ok_iff {text : String} {c : OvpnConfig} : OvpnConfig.parse text = .ok c ↔
    parseLines none 1 (physicalLines text) = .ok c.directives ∧ c.validate = .ok () := by
  refine ⟨fun h ↦ ⟨parseLines_of_parse h, validate_of_parse h⟩, ?_⟩
  rintro ⟨hlines, hvalid⟩
  rw [physicalLines] at hlines
  rw [OvpnConfig.parse, hlines]
  change c.validate.bind _ = _
  rw [hvalid]
  rfl

/-- Comments in front of a text do not matter to what is accepted. -/
theorem parse_withComments {cs : List String} (hcs : ∀ c ∈ cs, '\n' ∉ c.toList) {text : String}
    (hbom : text.toList.head? ≠ some bom) (c : OvpnConfig) :
    OvpnConfig.parse (withComments cs text) = .ok c ↔ OvpnConfig.parse text = .ok c := by
  induction cs with
  | nil => rfl
  | cons x cs ih =>
    rw [List.forall_mem_cons] at hcs
    have hrest : (withComments cs text).toList.head? ≠ some bom := head?_withComments hbom
    have hlines : physicalLines (withComments (x :: cs) text) =
        chopCr ('#' :: x.toList) :: physicalLines (withComments cs text) := by
      rw [physicalLines_of_head (head?_withComments hbom), physicalLines_of_head hrest]
      have hsharp : '\n' ∉ '#' :: x.toList := by simpa using hcs.1
      have happend := linesFrom_append_newline hsharp [] (withComments cs text).toList
      rw [List.append_nil] at happend
      rw [lines, withComments_cons]
      simpa [chopCr] using happend
    rw [← ih hcs.2, parse_eq_ok_iff, parse_eq_ok_iff, hlines, parseLines_comment]
    exact and_congr_left' ⟨fun h ↦ parseLines_lineno h 1, fun h ↦ parseLines_lineno h _⟩

end Ovpn

end NmOpenvpn3
