import NmOpenvpn3.Ovpn.Config

/-!
# Emitted text read back

`emit` writes what `parse` reads, so an accepted file should parse to the same directives again
after it was emitted. Three kinds of directives do not: an option whose name still begins with `--`
after the prefix was taken off, which loses two more dashes; an empty blob, which is emitted with an
empty line in it; and a blob with a line that ends in a carriage return, which the line end takes
along.

`Directive.Kept` excludes these three, and `parseLines_emit_iff` says that they are all there are.
`readsBack` finds them in the text, line by line, so that `parse_emit_iff_readsBack` says of a text
whether it survives. Quoting itself loses nothing: `tokenize_escaped` holds of all words.
-/

namespace NmOpenvpn3

namespace Ovpn

open Rust

/-! ## Words -/

/-- **Quoting is inverted by the tokenizer**, and escaped words stay on one line. -/
theorem tokenize_escaped (ws : List String) :
    '\n' ∉ wordsLine ws ∧ tokenize (wordsLine ws) = .ok ws := by
  refine ⟨?_, tokenize_wordsLine ws⟩
  cases ws with
  | nil => decide
  | cons w ws => exact (wordShape_wordsLine (by simp)).2.2

/-! ## Directives that were read -/

/-- The line that ends the blob `name`. -/
def closeTag (name : List Char) : List Char := '<' :: '/' :: name ++ ['>']

/-- The lines of a blob body, which end neither the text of the body nor the blob. -/
def IsBodyLine (name : List Char) (line : List Char) : Prop :=
  '\n' ∉ line ∧ trim line ≠ closeTag name

/-- What a directive is that the parser has read. -/
def Directive.WasRead : Directive → Prop
  | .option name _ => blobTag name.toList = none
  | .blob name body => name ∈ inlineBlobNames ∧
      ∃ ls : List (List Char), body.toList = ls.flatMap (· ++ ['\n']) ∧
        ∀ l ∈ ls, IsBodyLine name.toList l

/-- A directive whose text reads as the directive itself. -/
def Directive.Kept : Directive → Prop
  | .option name _ => ¬ ['-', '-'] <+: name.toList
  | .blob _ body => ∃ ls : List (List Char), ls ≠ [] ∧ body.toList = ls.flatMap (· ++ ['\n']) ∧
      ∀ l ∈ ls, '\n' ∉ l ∧ l.getLast? ≠ some '\r'

/-- The lines of a text that consists of whole lines are determined by it. -/
theorem eq_of_flatMap_newline_eq {ls ls' : List (List Char)} (h : ∀ l ∈ ls, '\n' ∉ l)
    (h' : ∀ l ∈ ls', '\n' ∉ l) (heq : ls.flatMap (· ++ ['\n']) = ls'.flatMap (· ++ ['\n'])) :
    ls = ls' := by
  have := congrArg (List.splitOn '\n') heq
  rw [splitOn_flatMap_newline h, splitOn_flatMap_newline h'] at this
  exact List.append_cancel_right this

/-- Of a blob with known lines, what is kept is read off the lines. -/
theorem kept_blob_iff {name : String} {ls : List (List Char)} (h : ∀ l ∈ ls, '\n' ∉ l) :
    (Directive.blob name (String.ofList (ls.flatMap (· ++ ['\n'])))).Kept ↔
      ls ≠ [] ∧ ∀ l ∈ ls, l.getLast? ≠ some '\r' := by
  simp only [Directive.Kept, String.toList_ofList]
  constructor
  · rintro ⟨ls', hne, heq, hls'⟩
    obtain rfl := eq_of_flatMap_newline_eq h (fun l hl ↦ (hls' l hl).1) heq
    exact ⟨hne, fun l hl ↦ (hls' l hl).2⟩
  · rintro ⟨hne, hcr⟩
    exact ⟨ls, hne, rfl, fun l hl ↦ ⟨h l hl, hcr l hl⟩⟩

/-! ## The text of one directive -/

/-- The name of an option that is kept is taken as it is. -/
theorem optionName_eq_iff {name : String} :
    optionName name = name.toList ↔ ¬ ['-', '-'] <+: name.toList := by
  unfold optionName stripPrefix
  simp only [List.isPrefixOf_iff_prefix]
  split_ifs with h
  · obtain ⟨t, ht⟩ := h
    have hlen : t ≠ ['-', '-'] ++ t := by
      intro e
      have := congrArg List.length e
      simp at this
      omega
    simpa [← ht] using hlen
  · simp [h]

theorem parseLines_emit_option (name : String) (args : List String) (lineno : ℕ)
    (rest : List Char) :
    parseLines none lineno (lines ((Directive.option name args).emit ++ rest)) =
      parseWords lineno name args (lines rest) := by
  obtain ⟨⟨c, hc, hw, h1, h2, -⟩, hcr⟩ := edges_wordsLine name args
  rw [Directive.emit, List.append_assoc, List.singleton_append,
    lines_append_newline (wordShape_wordsLine (by simp)).2.2 hcr,
    parseLines_cons_words ⟨c, hc, hw, h1, h2⟩ (tokenize_wordsLine _)]

/-- The lines of an open blob are collected until its closing tag. -/
theorem parseLines_body {start : ℕ} {inner : List Char} {ls : List (List Char)}
    (h : ∀ l ∈ ls, trim l ≠ closeTag inner) (body : List Char) (lineno : ℕ)
    (rest : List (List Char)) :
    parseLines (some ⟨start, inner, body⟩) lineno (ls ++ rest) =
      parseLines (some ⟨start, inner, body ++ ls.flatMap (· ++ ['\n'])⟩) (lineno + ls.length)
        rest := by
  induction ls generalizing body lineno with
  | nil => simp
  | cons l ls ih =>
    have hl : trim l ≠ (OpenBlob.mk start inner body).close := h l List.mem_cons_self
    rw [List.cons_append, parseLines, if_neg hl, ih fun l' m ↦ h l' (List.mem_cons_of_mem _ m)]
    simp [Nat.add_comm, Nat.add_left_comm]

/-- The tag of a blob name. -/
def openTag (name : List Char) : List Char := '<' :: name ++ ['>']

theorem blobTag_openTag (name : List Char) : blobTag (openTag name) = some name := by
  have hlast : (openTag name).getLast? = some '>' := List.getLast?_concat
  rw [blobTag, if_pos ⟨rfl, hlast⟩]
  simp [openTag]

theorem tokenize_openTag {name : String} (h : name ∈ inlineBlobNames) :
    tokenize (openTag name.toList) = .ok [String.ofList (openTag name.toList)] := by
  have hall : ∀ name ∈ inlineBlobNames,
      (openTag name.toList).all (fun c ↦ !isAsciiWhitespace c && isPlain c) = true := by decide
  have hplain : ∀ c ∈ openTag name.toList, isAsciiWhitespace c = false ∧ isPlain c = true := by
    simpa using hall name h
  have := tokenizeFrom_run (by simp [openTag]) hplain endsWord_nil
  rw [List.append_nil] at this
  rw [tokenize, this]
  rfl

/-- The lines of a body as they are emitted: at least one, if only an empty one. -/
def emittedBody (ls : List (List Char)) : List (List Char) := if ls = [] then [[]] else ls

/-- The emitted lines are the lines of the body, unless there are none or one loses its end. -/
theorem map_chopCr_emittedBody_iff {ls : List (List Char)} :
    (emittedBody ls).map chopCr = ls ↔ ls ≠ [] ∧ ∀ l ∈ ls, l.getLast? ≠ some '\r' := by
  unfold emittedBody
  split_ifs with hnil
  · simp [hnil]
  · rw [and_iff_right hnil]
    simp only [← chopCr_eq_self_iff]
    constructor
    · intro h
      exact List.map_inj_left.mp (h.trans (List.map_id ls).symm)
    · intro h
      exact (List.map_inj_left.mpr h).trans (List.map_id ls)

theorem emit_blob (name : String) (ls : List (List Char)) :
    (Directive.blob name (String.ofList (ls.flatMap (· ++ ['\n'])))).emit =
      (openTag name.toList ::
        (emittedBody ls ++ [closeTag name.toList])).flatMap (· ++ ['\n']) := by
  rcases List.eq_nil_or_concat ls with rfl | ⟨init, last, rfl⟩
  · simp [Directive.emit, emittedBody, openTag, closeTag]
  · rw [emittedBody, if_neg (by simp)]
    simp [Directive.emit, openTag, closeTag]

/-- **A blob is read with the lines of its body as they are emitted**, less a carriage return at the
end of a line. -/
theorem parseLines_emit_blob {name : String} (hname : name ∈ inlineBlobNames)
    {ls : List (List Char)} (h : ∀ l ∈ ls, IsBodyLine name.toList l) (lineno : ℕ)
    (rest : List Char) :
    ∃ lineno', parseLines none lineno
        (lines ((Directive.blob name (String.ofList (ls.flatMap (· ++ ['\n'])))).emit ++ rest)) =
      (.blob name (String.ofList (((emittedBody ls).map chopCr).flatMap (· ++ ['\n']))) :: ·) <$>
        parseLines none lineno' (lines rest) := by
  have hedges : ∀ name ∈ inlineBlobNames,
      ('\n' ∉ openTag name.toList ∧ '\n' ∉ closeTag name.toList) ∧
        trim (closeTag name.toList) = closeTag name.toList := by decide
  obtain ⟨⟨hopen, hclose⟩, htrim⟩ := hedges name hname
  have hbody : ∀ l ∈ emittedBody ls, IsBodyLine name.toList l := by
    unfold emittedBody
    split_ifs
    · rintro l hl
      rw [List.mem_singleton.mp hl]
      exact ⟨by simp, by simp [trim, trimStart, closeTag]⟩
    · exact h
  -- The emitted lines are read back one by one, and neither tag ends in a carriage return.
  have hlines : lines ((openTag name.toList ::
      (emittedBody ls ++ [closeTag name.toList])).flatMap (· ++ ['\n']) ++ rest) =
        openTag name.toList ::
          ((emittedBody ls).map chopCr ++ closeTag name.toList :: lines rest) := by
    have hchop : ∀ l : List Char, chopCr (l ++ ['>']) = l ++ ['>'] := fun l ↦
      chopCr_eq_self_iff.mpr (by simp)
    rw [lines_flatMap_newline_append, List.map_cons, List.map_append, List.map_singleton, openTag,
      closeTag, hchop, hchop, List.cons_append, List.append_assoc, List.singleton_append]
    simp only [List.forall_mem_cons, List.forall_mem_append, List.not_mem_nil, false_implies,
      implies_true, and_true]
    exact ⟨hopen, fun l hl ↦ (hbody l hl).1, hclose⟩
  have hopt : blobTag (optionName (String.ofList (openTag name.toList))) = some name.toList := by
    have : optionName (String.ofList (openTag name.toList)) = openTag name.toList := by
      simp [optionName, stripPrefix, openTag]
    rw [this, blobTag_openTag]
  have htrims : ∀ l ∈ (emittedBody ls).map chopCr, trim l ≠ closeTag name.toList := by
    simp only [List.forall_mem_map, trim_chopCr]
    exact fun l hl ↦ (hbody l hl).2
  refine ⟨lineno + 1 + ((emittedBody ls).map chopCr).length + 1, ?_⟩
  rw [emit_blob, hlines,
    parseLines_cons_words ⟨'<', rfl, by decide, by decide, by decide⟩ (tokenize_openTag hname),
    parseWords, hopt]
  simp only
  rw [parseLines_body htrims, parseLines, if_pos (by exact htrim),
    if_pos (by simpa using hname), List.nil_append, String.ofList_toList]

theorem exists_of_map_eq_ok {α β : Type} {f : α → β} {x : Except String α} {b : β}
    (h : f <$> x = .ok b) : ∃ a, x = .ok a ∧ f a = b := by
  cases x with
  | error e => simp [Functor.map, Except.map] at h
  | ok a => exact ⟨a, rfl, by simpa [Functor.map, Except.map] using h⟩

/-- Behind an opened blob the first directive is that blob. -/
theorem exists_blob_of_parseLines {b : OpenBlob} {lineno : ℕ} {ls : List (List Char)}
    {ds : List Directive} (h : parseLines (some b) lineno ls = .ok ds) :
    ∃ body ds', ds = .blob (String.ofList b.inner) body :: ds' := by
  induction ls generalizing b lineno with
  | nil => simp [parseLines] at h
  | cons l ls ih =>
    rw [parseLines] at h
    split_ifs at h
    · obtain ⟨ds', -, rfl⟩ := exists_of_map_eq_ok h
      exact ⟨_, ds', rfl⟩
    · exact ih (b := { b with body := b.body ++ l ++ ['\n'] }) h

/-! ## The text of all directives -/

/-- A directive that is kept reads as itself. -/
theorem Directive.Kept.parseLines_emit {d : Directive} (hread : d.WasRead) (h : d.Kept)
    (lineno : ℕ) (rest : List Char) :
    ∃ lineno', parseLines none lineno (lines (d.emit ++ rest)) =
      (d :: ·) <$> parseLines none lineno' (lines rest) := by
  cases d with
  | option name args =>
    refine ⟨lineno + 1, ?_⟩
    rw [parseLines_emit_option, parseWords, optionName_eq_iff.mpr h,
      show blobTag name.toList = none from hread, String.ofList_toList]
  | blob name body =>
    obtain ⟨hname, ls, hbody, hls⟩ := hread
    obtain rfl : body = String.ofList (ls.flatMap (· ++ ['\n'])) := by
      rw [← hbody, String.ofList_toList]
    obtain ⟨hne, hcr⟩ := (kept_blob_iff fun l hl ↦ (hls l hl).1).mp h
    obtain ⟨lineno', hparse⟩ := parseLines_emit_blob hname hls lineno rest
    exact ⟨lineno', by rw [hparse, map_chopCr_emittedBody_iff.mpr ⟨hne, hcr⟩]⟩

/-- A directive that is not kept reads as something else, or not at all. -/
theorem parseLines_emit_ne {d : Directive} (hread : d.WasRead) (h : ¬ d.Kept)
    (lineno : ℕ) (rest : List Char) (ds : List Directive) :
    parseLines none lineno (lines (d.emit ++ rest)) ≠ .ok (d :: ds) := by
  intro hparse
  cases d with
  | option name args =>
    rw [parseLines_emit_option, parseWords] at hparse
    cases htag : blobTag (optionName name) with
    | some inner =>
      rw [htag] at hparse
      obtain ⟨body, ds', hds⟩ := exists_blob_of_parseLines hparse
      simp at hds
    | none =>
      rw [htag] at hparse
      obtain ⟨ds', -, hds⟩ := exists_of_map_eq_ok hparse
      simp only [List.cons.injEq, Directive.option.injEq, and_true] at hds
      exact h (optionName_eq_iff.mp (by simpa using congrArg String.toList hds.1))
  | blob name body =>
    obtain ⟨hname, ls, hbody, hls⟩ := hread
    obtain rfl : body = String.ofList (ls.flatMap (· ++ ['\n'])) := by
      rw [← hbody, String.ofList_toList]
    obtain ⟨lineno', hparse'⟩ := parseLines_emit_blob hname hls lineno rest
    rw [hparse'] at hparse
    obtain ⟨ds', -, hds⟩ := exists_of_map_eq_ok hparse
    simp only [List.cons.injEq, Directive.blob.injEq, true_and, String.ofList_inj] at hds
    have hline : ∀ l ∈ (emittedBody ls).map chopCr, '\n' ∉ l := by
      simp only [List.forall_mem_map]
      intro l hl
      refine not_mem_chopCr ?_
      rw [emittedBody] at hl
      split_ifs at hl
      · simp [List.mem_singleton.mp hl]
      · exact (hls l hl).1
    have := eq_of_flatMap_newline_eq hline (fun l hl ↦ (hls l hl).1) hds.1
    exact h ((kept_blob_iff fun l hl ↦ (hls l hl).1).mpr (map_chopCr_emittedBody_iff.mp this))

/-- **The directives that were read are read again from their text exactly when all are kept.** -/
theorem parseLines_emit_iff {ds : List Directive} (h : ∀ d ∈ ds, d.WasRead) (lineno : ℕ) :
    parseLines none lineno (lines (ds.flatMap Directive.emit)) = .ok ds ↔ ∀ d ∈ ds, d.Kept := by
  induction ds generalizing lineno with
  | nil => simp [parseLines]
  | cons d ds ih =>
    rw [List.forall_mem_cons] at h
    rw [List.flatMap_cons, List.forall_mem_cons]
    by_cases hkept : d.Kept
    · obtain ⟨lineno', hparse⟩ := hkept.parseLines_emit h.1 lineno (ds.flatMap Directive.emit)
      rw [hparse, ← ih h.2 lineno', and_iff_right hkept]
      constructor
      · intro hmap
        obtain ⟨ds', hds', he⟩ := exists_of_map_eq_ok hmap
        rw [hds', (List.cons.inj he).2]
      · intro hds
        rw [hds]
        rfl
    · exact ⟨fun hparse ↦ absurd hparse (parseLines_emit_ne h.1 hkept _ _ _),
        fun hall ↦ absurd hall.1 hkept⟩

/-! ## The lines of the text -/

/-- The lines that a text is read by: a byte order mark is not part of the first one. -/
def physicalLines (input : String) : List (List Char) :=
  lines ((stripPrefix [bom] input.toList).getD input.toList)

/-- The first word of a line that is neither blank nor a comment. -/
def firstWord (line : List Char) : Option String :=
  if (trimStart line).isEmpty ∨ (trimStart line).head? = some ';' ∨
      (trimStart line).head? = some '#' then none
  else match tokenize (trimStart line) with
    | .ok (tok :: _) => some tok
    | _ => none

/-- Lines that read back as they are. Outside of blobs no first word begins with four dashes; a blob
has lines, and none of them ends in a carriage return. The state is the name of the blob that is
open, with a mark that says whether it has lines already. -/
def readsBack : Option (List Char × Bool) → List (List Char) → Bool
  | _, [] => true
  | some (inner, hasLines), line :: rest =>
    if trim line = closeTag inner then hasLines && readsBack none rest
    else line.getLast? != some '\r' && readsBack (some (inner, true)) rest
  | none, line :: rest =>
    match firstWord line with
    | none => readsBack none rest
    | some tok =>
      match blobTag (optionName tok) with
      | some inner => readsBack (some (inner, false)) rest
      | none => !(['-', '-', '-', '-'].isPrefixOf tok.toList) && readsBack none rest

/-- What the parser does at a line outside of blobs, by the line's first word. -/
theorem parseLines_none_cons {lineno : ℕ} {line : List Char} {rest : List (List Char)}
    {ds : List Directive} (h : parseLines none lineno (line :: rest) = .ok ds) :
    (firstWord line = none ∧ parseLines none (lineno + 1) rest = .ok ds) ∨
      ∃ tok args, firstWord line = some tok ∧ parseWords lineno tok args rest = .ok ds := by
  rw [parseLines] at h
  split_ifs at h with hblank
  · exact .inl ⟨by rw [firstWord, if_pos hblank], h⟩
  · rw [firstWord, if_neg hblank]
    cases htok : tokenize (trimStart line) with
    | error e =>
      rw [htok] at h
      simp at h
    | ok toks =>
      rw [htok] at h
      cases toks with
      | nil => exact .inl ⟨rfl, h⟩
      | cons tok args => exact .inr ⟨tok, args, rfl, h⟩

/-- A first word is kept as an option name if the parser finds no second prefix to take off. -/
theorem kept_option_iff {tok : String} {args : List String} :
    (Directive.option (String.ofList (optionName tok)) args).Kept ↔
      (!(['-', '-', '-', '-'].isPrefixOf tok.toList)) = true := by
  have hfour : ∀ t, ['-', '-', '-', '-'] <+: '-' :: '-' :: t ↔ ['-', '-'] <+: t := fun t ↦ by
    simp [List.cons_prefix_cons]
  rw [Bool.not_eq_true', ← Bool.not_eq_true, List.isPrefixOf_iff_prefix, Directive.Kept,
    String.toList_ofList, not_iff_not]
  by_cases h : ['-', '-'] <+: tok.toList
  · obtain ⟨t, ht⟩ := h
    have hname : optionName tok = t := by
      simp [optionName, stripPrefix, ← ht]
    rw [hname, ← ht]
    exact (hfour t).symm
  · rw [optionName_eq_iff.mpr h]
    exact ⟨fun hp ↦ absurd hp h, fun hp ↦ absurd (.trans ⟨['-', '-'], rfl⟩ hp) h⟩

/-- The walk over the lines and the directives that are read from them agree on what is kept,
outside of blobs and in a blob with the lines `bl`. -/
theorem readsBack_iff {ls : List (List Char)} (hls : ∀ l ∈ ls, '\n' ∉ l) :
    (∀ lineno ds, parseLines none lineno ls = .ok ds →
      (∀ d ∈ ds, d.WasRead) ∧ (readsBack none ls = true ↔ ∀ d ∈ ds, d.Kept)) ∧
    ∀ lineno start inner (bl : List (List Char)) ds, (∀ l ∈ bl, IsBodyLine inner l) →
      parseLines (some ⟨start, inner, bl.flatMap (· ++ ['\n'])⟩) lineno ls = .ok ds →
      (∀ d ∈ ds, d.WasRead) ∧ (readsBack (some (inner, !bl.isEmpty)) ls = true ∧
        (∀ l ∈ bl, l.getLast? ≠ some '\r') ↔ ∀ d ∈ ds, d.Kept) := by
  induction ls with
  | nil =>
    constructor
    · intro lineno ds h
      obtain rfl : [] = ds := by simpa [parseLines] using h
      simp [readsBack]
    · intro lineno start inner bl ds _ h
      simp [parseLines] at h
  | cons line rest ih =>
    rw [List.forall_mem_cons] at hls
    obtain ⟨ihnone, ihsome⟩ := ih hls.2
    constructor
    · intro lineno ds h
      obtain ⟨hword, h⟩ | ⟨tok, args, hword, h⟩ := parseLines_none_cons h
      · rw [readsBack, hword]
        exact ihnone _ _ h
      · rw [parseWords] at h
        cases htag : blobTag (optionName tok) with
        | some inner =>
          rw [htag] at h
          have := ihsome _ _ _ [] ds (by simp) h
          simpa [readsBack, hword, htag] using this
        | none =>
          rw [htag] at h
          obtain ⟨ds', hds', rfl⟩ := exists_of_map_eq_ok h
          obtain ⟨hread, hkept⟩ := ihnone _ _ hds'
          have hopt : (Directive.option (String.ofList (optionName tok)) args).WasRead := by
            simpa [Directive.WasRead] using htag
          have hstep : readsBack none (line :: rest) =
              (!(['-', '-', '-', '-'].isPrefixOf tok.toList) && readsBack none rest) := by
            simp only [readsBack, hword, htag]
          rw [hstep, List.forall_mem_cons, List.forall_mem_cons, Bool.and_eq_true, hkept,
            kept_option_iff]
          exact ⟨⟨hopt, hread⟩, Iff.rfl⟩
    · intro lineno start inner bl ds hbl h
      rw [readsBack]
      rw [parseLines] at h
      by_cases hclose : trim line = closeTag inner
      · -- The blob is closed, with the lines that were collected.
        rw [if_pos (by exact hclose)] at h
        split_ifs at h with hname
        obtain ⟨ds', hds', rfl⟩ := exists_of_map_eq_ok h
        obtain ⟨hread, hkept⟩ := ihnone _ _ hds'
        have hblob : (Directive.blob (String.ofList inner)
            (String.ofList (bl.flatMap (· ++ ['\n'])))).WasRead := by
          refine ⟨by simpa using hname, bl, String.toList_ofList, ?_⟩
          simpa using hbl
        rw [if_pos hclose, List.forall_mem_cons, List.forall_mem_cons, Bool.and_eq_true, hkept,
          kept_blob_iff fun l hl ↦ (hbl l hl).1]
        refine ⟨⟨hblob, hread⟩, ?_⟩
        simp only [Bool.not_eq_true', List.isEmpty_eq_false_iff]
        tauto
      · rw [if_neg (by exact hclose)] at h
        have hbody : bl.flatMap (· ++ ['\n']) ++ line ++ ['\n'] =
            (bl ++ [line]).flatMap (· ++ ['\n']) := by simp
        have hlines : ∀ l ∈ bl ++ [line], IsBodyLine inner l := by
          simp only [List.forall_mem_append, List.forall_mem_singleton]
          exact ⟨hbl, hls.1, hclose⟩
        simp only [hbody] at h
        obtain ⟨hread, hkept⟩ := ihsome _ _ _ _ ds hlines h
        have hmark : (!(bl ++ [line]).isEmpty) = true := by simp
        refine ⟨hread, ?_⟩
        rw [if_neg hclose, ← hkept, hmark, Bool.and_eq_true, bne_iff_ne]
        simp only [List.forall_mem_append, List.forall_mem_singleton]
        tauto

/-! ## Round trips -/

/-- What was accepted was read from its lines. -/
theorem parseLines_of_parse {text : String} {c : OvpnConfig} (h : OvpnConfig.parse text = .ok c) :
    parseLines none 1 (physicalLines text) = .ok c.directives := by
  rw [OvpnConfig.parse] at h
  cases hds : parseLines none 1 (physicalLines text) with
  | error e =>
    rw [physicalLines] at hds
    simp [hds, bind, Except.bind] at h
  | ok ds =>
    rw [physicalLines] at hds
    simp only [hds, bind, Except.bind, pure, Except.pure] at h
    cases hv : OvpnConfig.validate ⟨ds⟩ with
    | error e => simp [hv] at h
    | ok u =>
      simp only [hv, Except.ok.injEq] at h
      rw [← h]

theorem wasRead_of_parse {text : String} {c : OvpnConfig} (h : OvpnConfig.parse text = .ok c) :
    ∀ d ∈ c.directives, d.WasRead :=
  ((readsBack_iff fun _ ↦ newline_not_mem_of_mem_lines).1 1 _ (parseLines_of_parse h)).1

/-- Emitted text begins with no byte order mark. -/
theorem physicalLines_emit (c : OvpnConfig) :
    physicalLines c.emit = lines (c.directives.flatMap Directive.emit) := by
  have hbom : stripPrefix [bom] (c.directives.flatMap Directive.emit) = none := by
    cases hds : c.directives with
    | nil => rfl
    | cons d ds =>
      obtain ⟨e, t, ht, he⟩ : ∃ e t, d.emit = e :: t ∧ e ≠ bom := by
        cases d with
        | option name args =>
          obtain ⟨⟨e, hhead, -, -, -, he⟩, -⟩ := edges_wordsLine name args
          obtain ⟨t, ht⟩ := List.head?_eq_some_iff.mp hhead
          exact ⟨e, t ++ ['\n'], by rw [Directive.emit, ht, List.cons_append], he⟩
        | blob name body => exact ⟨'<', _, rfl, by decide⟩
      rw [List.flatMap_cons, ht]
      simp [stripPrefix, he.symm]
  rw [physicalLines, OvpnConfig.emit, String.toList_ofList, hbom, Option.getD_none]

/-- **What was read is read again from the text that is emitted for it** exactly when the lines of
the original text read back as they are. -/
theorem parse_emit_iff_readsBack {text : String} {c : OvpnConfig}
    (h : OvpnConfig.parse text = .ok c) :
    OvpnConfig.parse c.emit = .ok c ↔ readsBack none (physicalLines text) = true := by
  have hlines : ∀ l ∈ physicalLines text, '\n' ∉ l := fun l hl ↦ newline_not_mem_of_mem_lines hl
  obtain ⟨hread, hkept⟩ := (readsBack_iff hlines).1 1 _ (parseLines_of_parse h)
  rw [hkept, ← parseLines_emit_iff hread 1]
  constructor
  · intro hemit
    rw [← physicalLines_emit c]
    exact parseLines_of_parse hemit
  · intro hparse
    have hvalid := validate_of_parse h
    rw [← physicalLines_emit c, physicalLines] at hparse
    rw [OvpnConfig.parse, hparse]
    change (c.validate.bind fun _ ↦ .ok (OvpnConfig.mk c.directives)) = _
    rw [hvalid]
    rfl

/-- A file with a comment, a quoted word and a blob survives. -/
theorem parse_emit_readsBack_sample :
    OvpnConfig.parse (OvpnConfig.mk [.option "remote" ["a b"], .blob "ca" "x\n"]).emit =
      .ok ⟨[.option "remote" ["a b"], .blob "ca" "x\n"]⟩ :=
  (parse_emit_iff_readsBack (show OvpnConfig.parse "# c\n--remote 'a b'\n<ca>\nx\n</ca>\n" =
    .ok ⟨[.option "remote" ["a b"], .blob "ca" "x\n"]⟩ by rfl)).mpr (by rfl)

/-- A name behind four dashes is emitted as another option, here as one that runs a script. -/
theorem parse_emit_dashes : ¬ ∀ (text : String) (c : OvpnConfig), OvpnConfig.parse text = .ok c →
    OvpnConfig.parse c.emit = .ok c := by
  intro h
  have := h "----up /tmp/hook" ⟨[.option "--up" ["/tmp/hook"]]⟩ (by rfl)
  revert this
  decide

end Ovpn

end NmOpenvpn3
