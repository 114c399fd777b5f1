import NmOpenvpn3.Rust.Str

/-!
# Shell words

The word syntax of an `.ovpn` line: the tokenizer that the importer reads it with, and the quoting
that both emitters write it with. The main result, `tokenize_wordsLine`, is that quoting is
inverted: a line of escaped words is read back as those words, whatever characters they hold.

## The tokenizer as a machine

The source walks a peekable iterator through nested loops, one for each kind of word. Here the place
in those loops is a `Mode`, and reading a character is one equation. A word under construction is
kept reversed.
-/

namespace NmOpenvpn3

namespace Ovpn

open Rust

/-! ## Tokenizing -/

/-- Where the tokenizer stands: between words, inside a quoted word, inside a bare word, or behind
the backslash of an escape in one of the two. -/
inductive Mode where
  | gap
  | quoted (quote : Char) (acc : List Char)
  | quotedEscape (acc : List Char)
  | bare (acc : List Char)
  | bareEscape (acc : List Char)

/-- The escapes of a double-quoted word. -/
def unescape : Char → Char
  | 'n' => '\n'
  | 't' => '\t'
  | c => c

/-- The word whose reversed characters were collected. -/
def token (acc : List Char) : String := String.ofList acc.reverse

/-- Tokenize from inside a word. -/
def tokenizeFrom : Mode → List Char → Except String (List String)
  | .gap, [] => .ok []
  | .gap, c :: cs =>
    if isAsciiWhitespace c then tokenizeFrom .gap cs
    else if c = ';' ∨ c = '#' then .ok []
    else if c = '"' ∨ c = '\'' then tokenizeFrom (.quoted c []) cs
    else if c = '\\' then tokenizeFrom (.bareEscape []) cs
    else tokenizeFrom (.bare [c]) cs
  | .quoted quote _, [] =>
    .error ("unterminated " ++ (if quote = '"' then "double" else "single") ++ " quote")
  | .quoted quote acc, c :: cs =>
    if c = quote then (token acc :: ·) <$> tokenizeFrom .gap cs
    else if quote = '"' ∧ c = '\\' then tokenizeFrom (.quotedEscape acc) cs
    else tokenizeFrom (.quoted quote (c :: acc)) cs
  | .quotedEscape _, [] => .error "trailing escape backslash inside double-quoted token"
  | .quotedEscape acc, c :: cs => tokenizeFrom (.quoted '"' (unescape c :: acc)) cs
  | .bare acc, [] => .ok [token acc]
  | .bare acc, c :: cs =>
    if isAsciiWhitespace c then (token acc :: ·) <$> tokenizeFrom .gap cs
    else if c = '\\' then tokenizeFrom (.bareEscape acc) cs
    else tokenizeFrom (.bare (c :: acc)) cs
  | .bareEscape _, [] => .error "trailing escape backslash"
  | .bareEscape acc, c :: cs => tokenizeFrom (.bare (c :: acc)) cs

/-- Split a line into shell-style words. -/
def tokenize (line : List Char) : Except String (List String) := tokenizeFrom .gap line

/-! ## Escaping -/

/-- The characters that need no quotes. -/
def isBenign (c : Char) : Bool :=
  isAsciiAlphanumeric c || c == '_' || c == '-' || c == ':' || c == '/'

/-- One character of a double-quoted word. -/
def escapeChar (c : Char) : List Char :=
  if c = '\n' then ['\\', 'n'] else if c = '\\' ∨ c = '"' then ['\\', c] else [c]

/-- What `push_escaped` appends: the word itself, single-quoted, or double-quoted with escapes. -/
def escapeArg (value : List Char) : List Char :=
  if value.isEmpty then ['\'', '\'']
  else if value.all isBenign then value
  else if value.any fun c ↦ c == '\'' || c == '\n' then
    '"' :: value.flatMap escapeChar ++ ['"']
  else '\'' :: value ++ ['\'']

/-- One emitted option line, without its line feed. -/
def wordsLine (ws : List String) : List Char :=
  [' '].intercalate (ws.map fun w ↦ escapeArg w.toList)

/-! ## Reading escaped words back -/

/-- A word may be followed by the end of the line or by white space. -/
def EndsWord (rest : List Char) : Prop := ∀ c, rest.head? = some c → isAsciiWhitespace c = true

theorem isBenign_not_special {c : Char} (h : isBenign c = true) :
    isAsciiWhitespace c = false ∧ c ≠ ';' ∧ c ≠ '#' ∧ c ≠ '"' ∧ c ≠ '\'' ∧ c ≠ '\\' ∧ c ≠ '\n' := by
  have hw : isAsciiWhitespace c = false := by
    by_contra hc
    rw [Bool.not_eq_false] at hc
    simp only [isAsciiWhitespace, isBenign, isAsciiAlphanumeric, Bool.or_eq_true, Bool.and_eq_true,
      decide_eq_true_eq, beq_iff_eq] at hc h
    rcases h with ((((h | rfl) | rfl) | rfl) | rfl)
    · omega
    all_goals exact absurd hc (by decide)
  refine ⟨hw, ?_, ?_, ?_, ?_, ?_, ?_⟩ <;> rintro rfl <;> exact absurd h (by decide)

theorem tokenizeFrom_bare {rest : List Char} (hrest : EndsWord rest) (acc : List Char) :
    tokenizeFrom (.bare acc) rest = (token acc :: ·) <$> tokenizeFrom .gap rest := by
  cases rest with
  | nil => rfl
  | cons c cs =>
    have hc := hrest c rfl
    rw [tokenizeFrom, if_pos hc, tokenizeFrom, if_pos hc]

theorem tokenizeFrom_bare_benign {v : List Char} (hv : ∀ c ∈ v, isBenign c = true)
    (acc rest : List Char) :
    tokenizeFrom (.bare acc) (v ++ rest) = tokenizeFrom (.bare (v.reverse ++ acc)) rest := by
  induction v generalizing acc with
  | nil => rfl
  | cons c v ih =>
    obtain ⟨hw, -, -, -, -, hbs, -⟩ := isBenign_not_special (hv c List.mem_cons_self)
    rw [List.cons_append, tokenizeFrom, if_neg (by simp [hw]), if_neg hbs,
      ih fun d hd ↦ hv d (List.mem_cons_of_mem _ hd)]
    simp

theorem tokenizeFrom_single {v : List Char} (hv : '\'' ∉ v) (acc rest : List Char) :
    tokenizeFrom (.quoted '\'' acc) (v ++ '\'' :: rest) =
      (token (v.reverse ++ acc) :: ·) <$> tokenizeFrom .gap rest := by
  induction v generalizing acc with
  | nil => rw [List.nil_append, tokenizeFrom, if_pos rfl, List.reverse_nil, List.nil_append]
  | cons c v ih =>
    have hc : c ≠ '\'' := fun e ↦ hv (e ▸ List.mem_cons_self)
    rw [List.cons_append, tokenizeFrom, if_neg hc, if_neg (by simp),
      ih fun m ↦ hv (List.mem_cons_of_mem _ m)]
    simp

/-- Each escape of `escapeChar` is undone by the double-quoted mode. -/
theorem tokenizeFrom_escapeChar (c : Char) (acc rest : List Char) :
    tokenizeFrom (.quoted '"' acc) (escapeChar c ++ rest) =
      tokenizeFrom (.quoted '"' (c :: acc)) rest := by
  unfold escapeChar
  by_cases hn : c = '\n'
  · subst hn
    rfl
  · rw [if_neg hn]
    by_cases hq : c = '\\' ∨ c = '"'
    · rw [if_pos hq]
      rcases hq with rfl | rfl <;> rfl
    · rw [if_neg hq, List.singleton_append, tokenizeFrom, if_neg fun e ↦ hq (.inr e),
        if_neg fun e ↦ hq (.inl e.2)]

theorem tokenizeFrom_double (v acc rest : List Char) :
    tokenizeFrom (.quoted '"' acc) (v.flatMap escapeChar ++ '"' :: rest) =
      (token (v.reverse ++ acc) :: ·) <$> tokenizeFrom .gap rest := by
  induction v generalizing acc with
  | nil =>
    rw [List.flatMap_nil, List.nil_append, tokenizeFrom, if_pos rfl, List.reverse_nil,
      List.nil_append]
  | cons c v ih =>
    rw [List.flatMap_cons, List.append_assoc, tokenizeFrom_escapeChar, ih]
    simp

/-- **An escaped word is read back.** -/
theorem tokenizeFrom_escapeArg (v : List Char) {rest : List Char} (hrest : EndsWord rest) :
    tokenizeFrom .gap (escapeArg v ++ rest) =
      (String.ofList v :: ·) <$> tokenizeFrom .gap rest := by
  unfold escapeArg
  -- The four forms of an escaped word: an empty one, a bare one, and one in either kind of quotes.
  by_cases hnil : v.isEmpty = true
  · rw [if_pos hnil, List.isEmpty_iff.mp hnil]
    exact tokenizeFrom_single (v := []) (by simp) [] rest
  rw [if_neg hnil]
  by_cases hb : v.all isBenign = true
  · rw [if_pos hb]
    rw [List.all_eq_true] at hb
    cases v with
    | nil => exact absurd rfl hnil
    | cons c v =>
      obtain ⟨hw, h1, h2, h3, h4, h5, -⟩ := isBenign_not_special (hb c List.mem_cons_self)
      rw [List.cons_append, tokenizeFrom, if_neg (by simp [hw]), if_neg (by simp [h1, h2]),
        if_neg (by simp [h3, h4]), if_neg h5,
        tokenizeFrom_bare_benign (fun d hd ↦ hb d (List.mem_cons_of_mem _ hd)),
        tokenizeFrom_bare hrest]
      simp [token]
  rw [if_neg hb]
  by_cases hq : (v.any fun c ↦ c == '\'' || c == '\n') = true
  · rw [if_pos hq]
    have := tokenizeFrom_double v [] rest
    rw [List.append_nil, token, List.reverse_reverse] at this
    rw [← this]
    simp [tokenizeFrom, isAsciiWhitespace]
  · rw [if_neg hq]
    have hv : '\'' ∉ v := fun m ↦ hq (List.any_eq_true.mpr ⟨'\'', m, by simp⟩)
    have := tokenizeFrom_single hv [] rest
    rw [List.append_nil, token, List.reverse_reverse] at this
    rw [← this]
    simp [tokenizeFrom, isAsciiWhitespace]

theorem endsWord_nil : EndsWord [] := by
  intro c hc
  simp at hc

theorem endsWord_space (l : List Char) : EndsWord (' ' :: l) := by
  intro c hc
  obtain rfl : ' ' = c := by simpa using hc
  decide

theorem wordsLine_cons_cons (w w' : String) (ws : List String) :
    wordsLine (w :: w' :: ws) = escapeArg w.toList ++ ' ' :: wordsLine (w' :: ws) := by
  simp [wordsLine, List.intercalate_cons_cons]

theorem wordsLine_singleton (w : String) : wordsLine [w] = escapeArg w.toList := by
  simp [wordsLine, List.intercalate_singleton]

/-- **A line of escaped words is read back**, whatever the words are. -/
theorem tokenize_wordsLine (ws : List String) : tokenize (wordsLine ws) = .ok ws := by
  induction ws with
  | nil => rfl
  | cons w ws ih =>
    cases ws with
    | nil =>
      rw [wordsLine_singleton, tokenize, ← List.append_nil (escapeArg w.toList),
        tokenizeFrom_escapeArg _ endsWord_nil, String.ofList_toList]
      rfl
    | cons w' ws =>
      rw [wordsLine_cons_cons, tokenize, tokenizeFrom_escapeArg _ (endsWord_space _),
        String.ofList_toList, tokenizeFrom, if_pos (by decide)]
      rw [tokenize] at ih
      rw [ih]
      rfl

/-! ## The shape of an escaped word -/

/-- The characters that an escaped word begins and ends with. -/
def IsWordEdge (c : Char) : Prop := isBenign c = true ∨ c = '\'' ∨ c = '"'

/-- The text begins and ends in the edge of a word, and holds no line feed. -/
def WordShape (l : List Char) : Prop :=
  (∃ c, l.head? = some c ∧ IsWordEdge c) ∧ (∃ c, l.getLast? = some c ∧ IsWordEdge c) ∧ '\n' ∉ l

theorem newline_not_mem_escapeChar (c : Char) : '\n' ∉ escapeChar c := by
  unfold escapeChar
  split_ifs with h1 h2
  · decide
  · rcases h2 with rfl | rfl <;> decide
  · simpa using Ne.symm h1

theorem wordShape_escapeArg (v : List Char) : WordShape (escapeArg v) := by
  have hsingle : IsWordEdge '\'' := .inr (.inl rfl)
  have hdouble : IsWordEdge '"' := .inr (.inr rfl)
  unfold escapeArg
  by_cases hnil : v.isEmpty = true
  · rw [if_pos hnil]
    exact ⟨⟨_, rfl, hsingle⟩, ⟨_, rfl, hsingle⟩, by decide⟩
  rw [if_neg hnil]
  by_cases hb : v.all isBenign = true
  · rw [if_pos hb]
    rw [List.all_eq_true] at hb
    have hne : v ≠ [] := by simpa using hnil
    refine ⟨⟨v.head hne, List.head?_eq_some_head hne, .inl (hb _ (List.head_mem hne))⟩,
      ⟨v.getLast hne, List.getLast?_eq_some_getLast hne, .inl (hb _ (List.getLast_mem hne))⟩, ?_⟩
    intro hn
    exact absurd (hb _ hn) (by decide)
  rw [if_neg hb]
  by_cases hq : (v.any fun c ↦ c == '\'' || c == '\n') = true
  · rw [if_pos hq]
    refine ⟨⟨_, rfl, hdouble⟩, ⟨'"', List.getLast?_concat, hdouble⟩, ?_⟩
    simp [newline_not_mem_escapeChar]
  · rw [if_neg hq]
    have hn : '\n' ∉ v := fun m ↦ hq (List.any_eq_true.mpr ⟨'\n', m, by simp⟩)
    exact ⟨⟨_, rfl, hsingle⟩, ⟨'\'', List.getLast?_concat, hsingle⟩, by simp [hn]⟩

theorem wordShape_wordsLine {ws : List String} (hne : ws ≠ []) : WordShape (wordsLine ws) := by
  induction ws with
  | nil => exact absurd rfl hne
  | cons w ws ih =>
    obtain ⟨⟨c, hc, hcc⟩, hlast, hn⟩ := wordShape_escapeArg w.toList
    cases ws with
    | nil => exact wordsLine_singleton w ▸ ⟨⟨c, hc, hcc⟩, hlast, hn⟩
    | cons w' ws =>
      obtain ⟨-, ⟨d, hd, hdd⟩, hn'⟩ := ih (by simp)
      rw [wordsLine_cons_cons]
      refine ⟨⟨c, by rw [List.head?_append, hc, Option.some_or], hcc⟩, ⟨d, ?_, hdd⟩, ?_⟩
      · rw [List.getLast?_append, List.getLast?_cons, hd]
        rfl
      · simp [hn, hn']

theorem isWhitespace_of_isWordEdge {c : Char} (h : IsWordEdge c) : isWhitespace c = false := by
  rcases h with h | rfl | rfl
  · simp only [isBenign, Bool.or_eq_true, beq_iff_eq] at h
    rcases h with (((h | rfl) | rfl) | rfl) | rfl
    · exact isWhitespace_eq_false_of_isAsciiAlphanumeric h
    all_goals decide
  all_goals decide

end Ovpn

end NmOpenvpn3
