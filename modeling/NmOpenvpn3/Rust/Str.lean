import NmOpenvpn3.Rust.Char
import Mathlib.Data.List.DropRight

/-!
# String slices

The methods of Rust's `str` that split and trim text, on lists of characters. Splitting at a
predicate is `List.splitOnP`; what is added here are the derived iterators `lines` and
`split_whitespace`, the bounded splits, and the facts that make them computable on text that was
assembled from known pieces.

`words p` is the common core of `split_whitespace` and of any tokenizer that separates at `p`: the
maximal non-empty runs free of `p`. Its three equations (empty text, a run, two texts around a
separator) determine it, and `words_induction` is the matching induction principle.
-/

namespace NmOpenvpn3

namespace Rust

/-! ## Trimming -/

/-- `str::trim_start`. -/
def trimStart (l : List Char) : List Char := l.dropWhile isWhitespace

/-- `str::trim`. -/
def trim (l : List Char) : List Char := (trimStart l).rdropWhile isWhitespace

theorem trimStart_eq_self {c : Char} {l : List Char} (h : isWhitespace c = false) :
    trimStart (c :: l) = c :: l := by
  rw [trimStart, List.dropWhile_cons_of_neg (by simp [h])]

theorem rdropWhile_append_singleton {p : Char → Bool} {l : List Char} {c : Char}
    (h : p c = false) : (l ++ [c]).rdropWhile p = l ++ [c] :=
  List.rdropWhile_concat_neg _ _ _ (by simp [h])

/-- Text that begins and ends outside white space is its own trim. -/
theorem trim_eq_self {l : List Char} (hhead : ∀ c, l.head? = some c → isWhitespace c = false)
    (hlast : ∀ c, l.getLast? = some c → isWhitespace c = false) : trim l = l := by
  cases l with
  | nil => rfl
  | cons a t =>
    rw [trim, trimStart_eq_self (hhead a rfl)]
    obtain ⟨s, b, hs⟩ : ∃ s b, a :: t = s ++ [b] :=
      ⟨_, _, (List.dropLast_append_getLast (List.cons_ne_nil a t)).symm⟩
    rw [hs] at hlast ⊢
    exact rdropWhile_append_singleton (hlast b (by simp))

/-- White space at the end is trimmed. -/
theorem trim_append_of_isWhitespace (l : List Char) {c : Char} (h : isWhitespace c = true) :
    trim (l ++ [c]) = trim l := by
  by_cases hl : ∀ d ∈ l, isWhitespace d = true
  · have hnil : trimStart l = [] := List.dropWhile_eq_nil_iff.mpr hl
    have hnil' : trimStart (l ++ [c]) = [] := by
      refine List.dropWhile_eq_nil_iff.mpr fun d hd ↦ ?_
      rcases List.mem_append.mp hd with hd | hd
      · exact hl d hd
      · exact List.mem_singleton.mp hd ▸ h
    rw [trim, trim, hnil, hnil']
  · have hkeep : trimStart (l ++ [c]) = trimStart l ++ [c] := by
      have hne : l.dropWhile isWhitespace ≠ [] := fun e ↦ hl (List.dropWhile_eq_nil_iff.mp e)
      rw [trimStart, List.dropWhile_append, if_neg (by simpa using hne)]
      rfl
    rw [trim, hkeep, List.rdropWhile_concat_pos _ _ _ h]
    rfl

/-- Nothing trimmed begins with white space. -/
theorem isWhitespace_head_trim {l : List Char} {c : Char} (h : (trim l).head? = some c) :
    isWhitespace c = false := by
  obtain ⟨s, hs⟩ : trim l <+: trimStart l := List.rdropWhile_prefix _ (trimStart l)
  have hhead : (trimStart l).head? = some c := by
    rw [← hs, List.head?_append, h, Option.some_or]
  rw [trimStart] at hhead
  have := List.head?_dropWhile_not isWhitespace l
  rw [hhead] at this
  simpa using this

/-- Nothing trimmed ends in white space. -/
theorem isWhitespace_getLast_trim {l : List Char} {c : Char} (h : (trim l).getLast? = some c) :
    isWhitespace c = false := by
  have hne : trim l ≠ [] := by
    intro h0
    rw [h0] at h
    simp at h
  have hnot := List.rdropWhile_last_not isWhitespace (trimStart l) hne
  rw [List.getLast?_eq_getLast_of_ne_nil hne, Option.some_inj] at h
  rw [← h]
  exact eq_false_of_ne_true hnot

theorem trim_sublist (l : List Char) : (trim l).Sublist l :=
  (List.rdropWhile_prefix _ _).sublist.trans (List.dropWhile_suffix _).sublist

/-! ## Lines -/

/-- Drop a carriage return from the front of a reversed line. -/
def stripCr : List Char → List Char
  | '\r' :: l => l
  | l => l

/-- The lines of the remaining text, given the reversed beginning of the current one. A line that
the text ends without a line feed keeps a trailing carriage return. -/
def linesFrom : List Char → List Char → List (List Char)
  | acc, [] => if acc.isEmpty then [] else [acc.reverse]
  | acc, c :: cs =>
    if c = '\n' then (stripCr acc).reverse :: linesFrom [] cs else linesFrom (c :: acc) cs

/-- `str::lines`. -/
def lines (l : List Char) : List (List Char) := linesFrom [] l

theorem stripCr_of_head_ne {l : List Char} (h : l.head? ≠ some '\r') : stripCr l = l := by
  unfold stripCr
  split
  · simp at h
  · rfl

theorem linesFrom_append_newline {l : List Char} (h : '\n' ∉ l) (acc rest : List Char) :
    linesFrom acc (l ++ '\n' :: rest) = (stripCr (l.reverse ++ acc)).reverse :: lines rest := by
  induction l generalizing acc with
  | nil => simp [linesFrom, lines]
  | cons c l ih =>
    have hc : c ≠ '\n' := fun e ↦ h (e ▸ List.mem_cons_self)
    have hl : '\n' ∉ l := fun m ↦ h (List.mem_cons_of_mem _ m)
    rw [List.cons_append, linesFrom, if_neg hc, ih hl]
    simp

@[simp] theorem lines_nil : lines [] = [] := rfl

/-- One line ended by a line feed, which it neither contains nor precedes by a carriage return. -/
theorem lines_append_newline {l : List Char} (h : '\n' ∉ l) (hcr : l.getLast? ≠ some '\r')
    (rest : List Char) : lines (l ++ '\n' :: rest) = l :: lines rest := by
  rw [lines, linesFrom_append_newline h, List.append_nil, stripCr_of_head_ne, List.reverse_reverse]
  rwa [List.head?_reverse]

/-- A line without the carriage return that it may end in. -/
def chopCr (l : List Char) : List Char := (stripCr l.reverse).reverse

theorem chopCr_eq_self_iff {l : List Char} : chopCr l = l ↔ l.getLast? ≠ some '\r' := by
  constructor
  · rintro h hlast
    obtain ⟨t, rfl⟩ : ∃ t, l = t ++ ['\r'] :=
      ⟨_, (List.dropLast_append_getLast? _ hlast).symm⟩
    have hlen := congrArg List.length h
    simp [chopCr, stripCr] at hlen
  · intro h
    rw [chopCr, stripCr_of_head_ne (by rwa [List.head?_reverse]), List.reverse_reverse]

theorem not_mem_chopCr {l : List Char} {c : Char} (h : c ∉ l) : c ∉ chopCr l := by
  rw [← List.mem_reverse] at h
  rw [chopCr, List.mem_reverse]
  unfold stripCr
  split <;> simp_all

/-- No line holds a line feed. -/
theorem newline_not_mem_of_mem_lines {l line : List Char} (h : line ∈ lines l) : '\n' ∉ line := by
  have key : ∀ acc : List Char, '\n' ∉ acc → line ∈ linesFrom acc l → '\n' ∉ line := by
    clear h
    induction l with
    | nil =>
      intro acc hacc h
      rw [linesFrom] at h
      split_ifs at h
      · simp at h
      · rw [List.mem_singleton.mp h]
        simpa using hacc
    | cons c cs ih =>
      intro acc hacc h
      rw [linesFrom] at h
      split_ifs at h with hc
      · rcases List.mem_cons.mp h with rfl | h
        · rw [← List.reverse_reverse acc]
          exact not_mem_chopCr (by simpa using hacc)
        · exact ih [] (by simp) h
      · exact ih (c :: acc) (by simp [hacc, Ne.symm hc]) h
  exact key [] (by simp) h

/-- Lines that were each ended by a line feed lose a carriage return before it. -/
theorem lines_flatMap_newline_append {ls : List (List Char)} (h : ∀ l ∈ ls, '\n' ∉ l)
    (rest : List Char) :
    lines (ls.flatMap (· ++ ['\n']) ++ rest) = ls.map chopCr ++ lines rest := by
  induction ls with
  | nil => rfl
  | cons l ls ih =>
    rw [List.flatMap_cons, List.append_assoc, List.append_assoc, List.singleton_append, lines,
      linesFrom_append_newline (h l List.mem_cons_self), List.append_nil,
      ih fun l' m ↦ h l' (List.mem_cons_of_mem _ m)]
    rfl

/-- Lines that were each ended by a line feed are read back as they are. -/
theorem lines_flatMap_newline {ls : List (List Char)}
    (h : ∀ l ∈ ls, '\n' ∉ l ∧ l.getLast? ≠ some '\r') :
    lines (ls.flatMap (· ++ ['\n'])) = ls := by
  induction ls with
  | nil => rfl
  | cons l ls ih =>
    obtain ⟨hn, hcr⟩ := h l List.mem_cons_self
    rw [List.flatMap_cons, List.append_assoc, List.singleton_append, lines_append_newline hn hcr,
      ih fun l' m ↦ h l' (List.mem_cons_of_mem _ m)]

/-- Splitting at line feeds gives the lines that were each ended by one, and the empty rest. -/
theorem splitOn_flatMap_newline {ls : List (List Char)} (h : ∀ l ∈ ls, '\n' ∉ l) :
    (ls.flatMap (· ++ ['\n'])).splitOn '\n' = ls ++ [[]] := by
  induction ls with
  | nil => rfl
  | cons l ls ih =>
    have hl : l.splitOnP (· == '\n') = [l] := List.splitOnP_eq_singleton fun c hc ↦ by
      rw [beq_eq_false_iff_ne]
      rintro rfl
      exact h l List.mem_cons_self hc
    rw [List.splitOn] at ih ⊢
    rw [List.flatMap_cons, List.append_assoc, List.singleton_append,
      List.splitOnP_append_cons _ _ (by simp), hl, ih fun l' m ↦ h l' (List.mem_cons_of_mem _ m)]
    rfl

/-- The carriage return before a line feed is trimmed anyway. -/
theorem trim_chopCr (l : List Char) : trim (chopCr l) = trim l := by
  by_cases hlast : l.getLast? = some '\r'
  · obtain ⟨t, rfl⟩ : ∃ t, l = t ++ ['\r'] :=
      ⟨_, (List.dropLast_append_getLast? _ hlast).symm⟩
    have hchop : chopCr (t ++ ['\r']) = t := by simp [chopCr, stripCr]
    rw [hchop, trim_append_of_isWhitespace t (by decide)]
  · rw [chopCr_eq_self_iff.mpr hlast]

/-! ## Words -/

/-- The maximal non-empty runs of characters outside `p`. -/
def words (p : Char → Bool) (l : List Char) : List (List Char) :=
  (l.splitOnP p).filter fun w ↦ !w.isEmpty

/-- `str::split_whitespace`. -/
def splitWhitespace (l : List Char) : List (List Char) := words isWhitespace l

@[simp] theorem words_nil (p : Char → Bool) : words p [] = [] := rfl

theorem words_append_sep {p : Char → Bool} (l : List Char) {c : Char} (hc : p c = true)
    (r : List Char) : words p (l ++ c :: r) = words p l ++ words p r := by
  rw [words, List.splitOnP_append_cons _ _ hc, List.filter_append, words, words]

theorem words_run {p : Char → Bool} {l : List Char} (hne : l ≠ []) (h : ∀ c ∈ l, p c = false) :
    words p l = [l] := by
  rw [words, List.splitOnP_eq_singleton h]
  simp [hne]

/-- Every text is empty, a run, or two shorter texts around a separator. -/
theorem words_induction {p : Char → Bool} {motive : List Char → Prop} (nil : motive [])
    (run : ∀ l, l ≠ [] → (∀ c ∈ l, p c = false) → motive l)
    (sep : ∀ l c r, p c = true → motive l → motive r → motive (l ++ c :: r)) :
    ∀ l, motive l := by
  intro l
  induction hn : l.length using Nat.strong_induction_on generalizing l with
  | _ n ih =>
    by_cases h : ∃ c ∈ l, p c = true
    · obtain ⟨c, hc, hp⟩ := h
      obtain ⟨a, b, rfl⟩ := List.append_of_mem hc
      rw [List.length_append, List.length_cons] at hn
      exact sep a c b hp (ih _ (by omega) a rfl) (ih _ (by omega) b rfl)
    · by_cases hl : l = []
      · exact hl ▸ nil
      · refine run l hl fun c hc ↦ ?_
        by_contra hp
        exact h ⟨c, hc, by simpa using hp⟩

/-- No piece of a split holds a separator. -/
theorem not_sep_of_mem_splitOnP {p : Char → Bool} {l w : List Char} (h : w ∈ l.splitOnP p) :
    ∀ c ∈ w, p c = false := by
  induction l using words_induction (p := p) with
  | nil =>
    obtain rfl : w = [] := by simpa using h
    simp
  | run l hne hl =>
    rw [List.splitOnP_eq_singleton hl, List.mem_singleton] at h
    exact h ▸ hl
  | sep l c r hc ihl ihr =>
    rw [List.splitOnP_append_cons _ _ hc, List.mem_append] at h
    exact h.elim ihl ihr

/-- Text that begins outside the separators begins with its first word. -/
theorem words_cons_run {p : Char → Bool} {c : Char} (hc : p c = false) (t : List Char) :
    ∃ w ws, words p (c :: t) = (c :: w) :: ws := by
  generalize hl : c :: t = l
  induction l using words_induction (p := p) generalizing t with
  | nil => simp at hl
  | run l hne h => exact ⟨t, [], by rw [words_run hne h, hl]⟩
  | sep l d r hd ihl ihr =>
    cases l with
    | nil =>
      obtain ⟨rfl, -⟩ := List.cons.inj hl
      rw [hc] at hd
      exact absurd hd (by simp)
    | cons e l =>
      obtain ⟨rfl, -⟩ := List.cons.inj hl
      obtain ⟨w, ws, hw⟩ := ihl l rfl
      exact ⟨w, ws ++ words p r, by rw [words_append_sep _ hd, hw, List.cons_append]⟩

/-- Text that ends outside the separators ends with its last word. -/
theorem words_concat_run {p : Char → Bool} {c : Char} (hc : p c = false) (t : List Char) :
    ∃ ws w, words p (t ++ [c]) = ws ++ [w ++ [c]] := by
  generalize hl : t ++ [c] = l
  induction l using words_induction (p := p) generalizing t with
  | nil => simp at hl
  | run l hne h => exact ⟨[], t, by rw [words_run hne h, hl, List.nil_append]⟩
  | sep l d r hd ihl ihr =>
    rcases List.eq_nil_or_concat r with rfl | ⟨r, e, rfl⟩
    · obtain ⟨-, he⟩ := List.append_inj' hl rfl
      obtain rfl : c = d := by simpa using he
      rw [hc] at hd
      exact absurd hd (by simp)
    · have he : t ++ [c] = (l ++ d :: r) ++ [e] := by simpa using hl
      obtain ⟨-, he⟩ := List.append_inj' he rfl
      obtain rfl : c = e := by simpa using he
      obtain ⟨ws, w, hw⟩ := ihr r (List.concat_eq_append).symm
      exact ⟨words p l ++ ws, w, by rw [words_append_sep _ hd, hw, List.append_assoc]⟩

theorem mem_words {p : Char → Bool} {l w : List Char} (h : w ∈ words p l) :
    w ≠ [] ∧ ∀ c ∈ w, p c = false ∧ c ∈ l := by
  induction l using words_induction (p := p) with
  | nil => simp at h
  | run l hne hl =>
    rw [words_run hne hl, List.mem_singleton] at h
    subst h
    exact ⟨hne, fun c hc ↦ ⟨hl c hc, hc⟩⟩
  | sep l c r hc ihl ihr =>
    rw [words_append_sep l hc, List.mem_append] at h
    rcases h with h | h
    · obtain ⟨hne, hw⟩ := ihl h
      exact ⟨hne, fun d hd ↦ ⟨(hw d hd).1, List.mem_append_left _ (hw d hd).2⟩⟩
    · obtain ⟨hne, hw⟩ := ihr h
      exact ⟨hne, fun d hd ↦
        ⟨(hw d hd).1, List.mem_append_right _ (List.mem_cons_of_mem _ (hw d hd).2)⟩⟩

theorem exists_mem_words {p : Char → Bool} {l : List Char} {c : Char} (hc : c ∈ l)
    (hp : p c = false) : ∃ w ∈ words p l, c ∈ w := by
  induction l using words_induction (p := p) with
  | nil => simp at hc
  | run l hne hl => exact ⟨l, by rw [words_run hne hl]; exact List.mem_singleton_self l, hc⟩
  | sep l d r hd ihl ihr =>
    rw [words_append_sep l hd]
    rcases List.mem_append.mp hc with h | h
    · obtain ⟨w, hw, hcw⟩ := ihl h
      exact ⟨w, List.mem_append_left _ hw, hcw⟩
    · rcases List.mem_cons.mp h with rfl | h
      · rw [hd] at hp
        exact absurd hp (by simp)
      · obtain ⟨w, hw, hcw⟩ := ihr h
        exact ⟨w, List.mem_append_right _ hw, hcw⟩

/-- Splitting at a larger class refines splitting at a smaller one. -/
theorem words_flatMap_words {p q : Char → Bool} (hpq : ∀ c, p c = true → q c = true)
    (l : List Char) : (words p l).flatMap (words q) = words q l := by
  induction l using words_induction (p := p) with
  | nil => rfl
  | run l hne hl => rw [words_run hne hl, List.flatMap_singleton]
  | sep l c r hc ihl ihr =>
    rw [words_append_sep l hc, List.flatMap_append, ihl, ihr, words_append_sep l (hpq c hc)]

/-- Classes that agree on the characters of a text split it alike. -/
theorem words_congr {p q : Char → Bool} {l : List Char} (h : ∀ c ∈ l, p c = q c) :
    words p l = words q l := by
  induction l using words_induction (p := p) with
  | nil => rfl
  | run l hne hl => rw [words_run hne hl, words_run hne fun c hc ↦ (h c hc) ▸ hl c hc]
  | sep l c r hc ihl ihr =>
    have hcq : q c = true := (h c (by simp)) ▸ hc
    rw [words_append_sep l hc, words_append_sep l hcq,
      ihl fun d hd ↦ h d (List.mem_append_left _ hd),
      ihr fun d hd ↦ h d (List.mem_append_right _ (List.mem_cons_of_mem _ hd))]

theorem words_intercalate {p : Char → Bool} {c : Char} (hc : p c = true)
    (ls : List (List Char)) : words p ([c].intercalate ls) = ls.flatMap (words p) := by
  induction ls with
  | nil => rfl
  | cons l ls ih =>
    cases ls with
    | nil => rw [List.intercalate_singleton, List.flatMap_singleton]
    | cons l' ls =>
      rw [List.intercalate_cons_cons, List.append_assoc, List.singleton_append,
        words_append_sep _ hc, ih, ← List.flatMap_cons]

/-- Words joined by a separator are read back as they are. -/
theorem words_intercalate_words {p : Char → Bool} {c : Char} (hc : p c = true)
    {ls : List (List Char)} (h : ∀ l ∈ ls, l ≠ [] ∧ ∀ d ∈ l, p d = false) :
    words p ([c].intercalate ls) = ls := by
  rw [words_intercalate hc]
  induction ls with
  | nil => rfl
  | cons l ls ih =>
    obtain ⟨hne, hl⟩ := h l List.mem_cons_self
    rw [List.flatMap_cons, words_run hne hl, ih fun x m ↦ h x (List.mem_cons_of_mem _ m),
      List.singleton_append]

/-- The characters of a joined text come from a piece or are the separator. -/
theorem mem_intercalate_singleton {s c : Char} {ls : List (List Char)}
    (h : c ∈ [s].intercalate ls) : c = s ∨ ∃ l ∈ ls, c ∈ l := by
  induction ls with
  | nil => simp at h
  | cons l ls ih =>
    cases ls with
    | nil =>
      rw [List.intercalate_singleton] at h
      exact .inr ⟨l, List.mem_cons_self, h⟩
    | cons l' ls =>
      rw [List.intercalate_cons_cons, List.mem_append, List.mem_append, List.mem_singleton] at h
      rcases h with (h | h) | h
      · exact .inr ⟨l, List.mem_cons_self, h⟩
      · exact .inl h
      · exact (ih h).imp_right fun ⟨x, hx, hc⟩ ↦ ⟨x, List.mem_cons_of_mem _ hx, hc⟩

/-- A joined text ends as its last piece does, if that is not empty. -/
theorem getLast?_intercalate {sep l : List Char} {ls : List (List Char)}
    (h : ls.getLast? = some l) (hne : l ≠ []) : (sep.intercalate ls).getLast? = l.getLast? := by
  induction ls with
  | nil => simp at h
  | cons l' ls ih =>
    cases ls with
    | nil =>
      obtain rfl : l' = l := by simpa using h
      rw [List.intercalate_singleton]
    | cons l'' ls =>
      rw [List.getLast?_cons_cons] at h
      have hlast := ih h
      have hsome : l.getLast?.isSome := by
        rw [List.getLast?_eq_some_getLast hne]
        rfl
      rw [List.intercalate_cons_cons, List.getLast?_append, hlast, Option.or_of_isSome hsome]

/-- Pieces free of separators, joined by one, are what the split gives back. -/
theorem splitOnP_intercalate {p : Char → Bool} {c : Char} (hc : p c = true)
    {ls : List (List Char)} (hne : ls ≠ []) (h : ∀ l ∈ ls, ∀ d ∈ l, p d = false) :
    ([c].intercalate ls).splitOnP p = ls := by
  induction ls with
  | nil => exact absurd rfl hne
  | cons l ls ih =>
    have hl : l.splitOnP p = [l] := List.splitOnP_eq_singleton (h l List.mem_cons_self)
    cases ls with
    | nil => rw [List.intercalate_singleton, hl]
    | cons l' ls =>
      rw [List.intercalate_cons_cons, List.append_assoc, List.singleton_append,
        List.splitOnP_append_cons _ _ hc, hl, ih (by simp) fun x m ↦ h x (List.mem_cons_of_mem _ m),
        List.singleton_append]

/-! ## Bounded splits -/

/-- `str::split_once` at a character. -/
def splitOnce (c : Char) : List Char → Option (List Char × List Char)
  | [] => none
  | d :: l => if d = c then some ([], l) else (splitOnce c l).map fun p ↦ (d :: p.1, p.2)

/-- `str::splitn` at a character. -/
def splitn (c : Char) : ℕ → List Char → List (List Char)
  | 0, _ => []
  | 1, l => [l]
  | n + 2, l =>
    match splitOnce c l with
    | none => [l]
    | some (a, b) => a :: splitn c (n + 1) b

theorem splitOnce_of_not_mem {c : Char} {l : List Char} (h : c ∉ l) : splitOnce c l = none := by
  induction l with
  | nil => rfl
  | cons d l ih =>
    have hd : d ≠ c := fun e ↦ h (e ▸ List.mem_cons_self)
    rw [splitOnce, if_neg hd, ih fun m ↦ h (List.mem_cons_of_mem _ m), Option.map_none]

theorem splitOnce_append {c : Char} {l : List Char} (h : c ∉ l) (r : List Char) :
    splitOnce c (l ++ c :: r) = some (l, r) := by
  induction l with
  | nil => simp [splitOnce]
  | cons d l ih =>
    have hd : d ≠ c := fun e ↦ h (e ▸ List.mem_cons_self)
    rw [List.cons_append, splitOnce, if_neg hd, ih fun m ↦ h (List.mem_cons_of_mem _ m),
      Option.map_some]

theorem eq_append_of_splitOnce {c : Char} {l a b : List Char}
    (h : splitOnce c l = some (a, b)) : c ∉ a ∧ l = a ++ c :: b := by
  induction l generalizing a with
  | nil => simp [splitOnce] at h
  | cons d l ih =>
    rw [splitOnce] at h
    by_cases hd : d = c
    · rw [if_pos hd, Option.some_inj, Prod.mk.injEq] at h
      obtain ⟨rfl, rfl⟩ := h
      exact ⟨by simp, by simp [hd]⟩
    · rw [if_neg hd, Option.map_eq_some_iff] at h
      obtain ⟨⟨a', b'⟩, hp, he⟩ := h
      rw [Prod.mk.injEq] at he
      obtain ⟨rfl, rfl⟩ := he
      obtain ⟨hc, rfl⟩ := ih hp
      exact ⟨by simp [hc, Ne.symm hd], rfl⟩

theorem splitn_of_not_mem {c : Char} {l : List Char} (h : c ∉ l) (n : ℕ) :
    splitn c (n + 1) l = [l] := by
  cases n with
  | zero => rfl
  | succ n => rw [splitn, splitOnce_of_not_mem h]

theorem splitn_append {c : Char} {l : List Char} (h : c ∉ l) (r : List Char) (n : ℕ) :
    splitn c (n + 2) (l ++ c :: r) = l :: splitn c (n + 1) r := by
  rw [splitn, splitOnce_append h]

/-- `str::rsplit_once` at a character. -/
def rsplitOnce (c : Char) (l : List Char) : Option (List Char × List Char) :=
  (splitOnce c l.reverse).map fun p ↦ (p.2.reverse, p.1.reverse)

theorem rsplitOnce_of_not_mem {c : Char} {l : List Char} (h : c ∉ l) : rsplitOnce c l = none := by
  rw [rsplitOnce, splitOnce_of_not_mem (by simpa using h), Option.map_none]

theorem rsplitOnce_append {c : Char} (l : List Char) {r : List Char} (h : c ∉ r) :
    rsplitOnce c (l ++ c :: r) = some (l, r) := by
  rw [rsplitOnce, List.reverse_append, List.reverse_cons, List.append_assoc,
    List.singleton_append, splitOnce_append (by simpa using h), Option.map_some,
    List.reverse_reverse, List.reverse_reverse]

/-! ## Prefixes and suffixes -/

/-- `str::strip_prefix`. -/
def stripPrefix (p l : List Char) : Option (List Char) :=
  if p.isPrefixOf l then some (l.drop p.length) else none

/-- `str::strip_suffix`. -/
def stripSuffix (s l : List Char) : Option (List Char) :=
  if s.isSuffixOf l then some (l.take (l.length - s.length)) else none

theorem stripPrefix_eq_some {p l t : List Char} : stripPrefix p l = some t ↔ l = p ++ t := by
  rw [stripPrefix, Option.ite_none_right_eq_some, List.isPrefixOf_iff_prefix, Option.some_inj]
  constructor
  · rintro ⟨⟨u, rfl⟩, h⟩
    rw [← h, List.drop_left]
  · rintro rfl
    exact ⟨List.prefix_append p t, List.drop_left⟩

theorem stripSuffix_eq_some {s l t : List Char} : stripSuffix s l = some t ↔ l = t ++ s := by
  rw [stripSuffix, Option.ite_none_right_eq_some, List.isSuffixOf_iff_suffix, Option.some_inj]
  constructor
  · rintro ⟨⟨u, rfl⟩, h⟩
    rw [← h]
    simp
  · rintro rfl
    exact ⟨List.suffix_append t s, by simp⟩

/-! ## UTF-8 -/

/-- `String::from_utf8`. -/
def decodeUtf8 (bytes : List UInt8) : Option String := String.fromUTF8? ⟨bytes.toArray⟩

/-- `str::as_bytes`. -/
def encodeUtf8 (text : String) : List UInt8 := text.toByteArray.data.toList

theorem encodeUtf8_of_decodeUtf8 {bytes : List UInt8} {text : String}
    (h : decodeUtf8 bytes = some text) : encodeUtf8 text = bytes := by
  rw [decodeUtf8, String.fromUTF8?] at h
  split_ifs at h
  obtain rfl := Option.some_inj.mp h
  rfl

theorem decodeUtf8_encodeUtf8 (text : String) : decodeUtf8 (encodeUtf8 text) = some text := by
  rw [decodeUtf8, String.fromUTF8?]
  have hbytes : (⟨(encodeUtf8 text).toArray⟩ : ByteArray) = text.toByteArray := rfl
  rw [dif_pos (by rw [hbytes]; exact text.isValidUTF8)]
  rfl

end Rust

end NmOpenvpn3
