import NmOpenvpn3.Ovpn.Words

/-!
# Values with a syntax of their own

Three kinds of `vpn.data` text that the emitters look into: the paths of PKCS#12 bundles, the
entries of a remote list, and the preserved route lines. The properties crate and the service each
carry a copy of these functions (`split_remote` is called `parse_remote` in the service); the
copies have the same bodies, so there is one definition of each here.
-/

namespace NmOpenvpn3

namespace Ovpn

open Rust

/-! ## PKCS#12 bundles -/

/-- A PKCS#12 bundle, by its file extension. -/
def isPkcs12Path (path : String) : Bool :=
  let lower := path.toList.map toAsciiLowercase
  ['.', 'p', '1', '2'].isSuffixOf lower || ['.', 'p', 'f', 'x'].isSuffixOf lower

theorem ne_empty_of_isPkcs12Path {path : String} (h : isPkcs12Path path = true) : path ≠ "" := by
  rintro rfl
  exact absurd h (by decide)

/-! ## Remote lists -/

/-- A part of a remote entry, absent when empty. -/
def nonEmptyPart (part : Option (List Char)) : Option String :=
  (part.filter fun s ↦ !s.isEmpty).map String.ofList

/-- Decompose `host[:port[:proto]]`, where an IPv6 literal may stand in brackets. -/
def splitRemote (gw : List Char) : String × Option String × Option String :=
  match (stripPrefix ['['] gw).bind (splitOnce ']') with
  | some (host, tail) =>
    let parts := splitn ':' 2 ((stripPrefix [':'] tail).getD tail)
    (String.ofList host, nonEmptyPart parts[0]?, nonEmptyPart parts[1]?)
  | none =>
    let parts := splitn ':' 3 gw
    (String.ofList (parts[0]?.getD []), nonEmptyPart parts[1]?, nonEmptyPart parts[2]?)

/-- What separates the entries of a remote list. -/
def isRemoteSep (c : Char) : Bool := c == ' ' || c == '\t' || c == ','

/-- The entries of a remote list: split, trimmed, the empty ones skipped. -/
def remoteEntries (remotes : String) : List (List Char) :=
  ((remotes.toList.splitOnP isRemoteSep).map trim).filter fun gw ↦ !gw.isEmpty

/-- The arguments of the `remote` directive of one entry. A protocol without a port gets the
default port, so that it stays in its place. -/
def remoteArgs (gw : List Char) : List String :=
  let (host, port, proto) := splitRemote gw
  host :: (port.or (proto.map fun _ ↦ "1194")).toList ++ proto.toList

/-! ## Preserved routes -/

/-- The directives a preserved line may hold. -/
def routeFamily : List String :=
  ["route", "route-ipv6", "route-gateway", "route-metric", "route-delay"]

/-- The characters of a route argument. -/
def isRouteArgChar (c : Char) : Bool :=
  isAsciiAlphanumeric c || c == '.' || c == ':' || c == '/' || c == '_' || c == '-'

/-- The allow-list gate for a single preserved route line. -/
def isSafeRouteLine (line : List Char) : Bool :=
  if line.any isControl then false
  else match splitWhitespace line with
    | [] => false
    | directive :: tokens =>
      routeFamily.contains (String.ofList directive) &&
        tokens.all fun tok ↦ !tok.isEmpty && tok.all isRouteArgChar

/-- The lines of the preserved-routes value that are emitted. -/
def safeRouteLines (routes : String) : List (List Char) :=
  ((lines routes.toList).map trim).filter fun line ↦ !line.isEmpty && isSafeRouteLine line

/-- The words of a preserved line, as the tokenizer separates them. -/
def routeWords (line : List Char) : List String := (words isAsciiWhitespace line).map String.ofList

/-! ## Text without quotes, escapes and comments -/

/-- Characters that the tokenizer treats alike: none opens a quote, an escape or a comment. -/
def isPlain (c : Char) : Bool := c != '"' && c != '\'' && c != '\\' && c != ';' && c != '#'

private theorem tokenizeFrom_bare_run {w : List Char}
    (hw : ∀ c ∈ w, isAsciiWhitespace c = false ∧ isPlain c = true) (acc rest : List Char) :
    tokenizeFrom (.bare acc) (w ++ rest) = tokenizeFrom (.bare (w.reverse ++ acc)) rest := by
  induction w generalizing acc with
  | nil => rfl
  | cons c w ih =>
    obtain ⟨hc, hp⟩ := hw c List.mem_cons_self
    have hbs : c ≠ '\\' := by rintro rfl; exact absurd hp (by decide)
    rw [List.cons_append, tokenizeFrom, if_neg (by simp [hc]), if_neg hbs,
      ih fun d hd ↦ hw d (List.mem_cons_of_mem _ hd)]
    simp

/-- A run of plain characters is one word. -/
theorem tokenizeFrom_run {w : List Char} (hne : w ≠ [])
    (hw : ∀ c ∈ w, isAsciiWhitespace c = false ∧ isPlain c = true) {rest : List Char}
    (hrest : EndsWord rest) :
    tokenizeFrom .gap (w ++ rest) = (String.ofList w :: ·) <$> tokenizeFrom .gap rest := by
  cases w with
  | nil => exact absurd rfl hne
  | cons c w =>
    obtain ⟨hc, hp⟩ := hw c List.mem_cons_self
    simp only [isPlain, Bool.and_eq_true, bne_iff_ne, ne_eq] at hp
    obtain ⟨⟨⟨⟨h1, h2⟩, h3⟩, h4⟩, h5⟩ := hp
    rw [List.cons_append, tokenizeFrom, if_neg (by simp [hc]), if_neg (by simp [h4, h5]),
      if_neg (by simp [h1, h2]), if_neg h3,
      tokenizeFrom_bare_run fun d hd ↦ hw d (List.mem_cons_of_mem _ hd), tokenizeFrom_bare hrest]
    simp [token]

/-- **Plain text is tokenized into its words.** -/
theorem tokenize_plain {l : List Char} (h : ∀ c ∈ l, isPlain c = true) :
    tokenize l = .ok (routeWords l) := by
  -- The statement for texts that follow, so that the words on both sides of a separator add up.
  have key : ∀ rest, EndsWord rest →
      tokenizeFrom .gap (l ++ rest) = (routeWords l ++ ·) <$> tokenizeFrom .gap rest := by
    induction l using words_induction (p := isAsciiWhitespace) with
    | nil =>
      intro rest _
      simp [routeWords]
    | run l hne hl =>
      intro rest hrest
      rw [tokenizeFrom_run hne (fun c hc ↦ ⟨hl c hc, h c hc⟩) hrest, routeWords,
        words_run hne hl]
      rfl
    | sep l c r hc ihl ihr =>
      intro rest hrest
      have hsep : EndsWord (c :: (r ++ rest)) := by
        intro d hd
        obtain rfl : c = d := by simpa using hd
        exact hc
      rw [List.append_assoc, List.cons_append,
        ihl (fun d hd ↦ h d (List.mem_append_left _ hd)) _ hsep, tokenizeFrom, if_pos hc,
        ihr (fun d hd ↦ h d (List.mem_append_right _ (List.mem_cons_of_mem _ hd))) _ hrest,
        show routeWords (l ++ c :: r) = routeWords l ++ routeWords r by
          rw [routeWords, words_append_sep l hc, List.map_append]; rfl]
      cases tokenizeFrom .gap rest with
      | error e => rfl
      | ok ws => exact congrArg Except.ok (List.append_assoc _ _ _).symm
  have := key [] endsWord_nil
  rw [List.append_nil] at this
  rw [tokenize, this]
  exact congrArg Except.ok (List.append_nil _)

/-! ## What a safe route line looks like -/

theorem isPlain_of_isRouteArgChar {c : Char} (h : isRouteArgChar c = true) : isPlain c = true := by
  by_contra hc
  have : c = '"' ∨ c = '\'' ∨ c = '\\' ∨ c = ';' ∨ c = '#' := by
    by_contra hne
    simp only [not_or] at hne
    exact hc (by simp [isPlain, hne])
  rcases this with rfl | rfl | rfl | rfl | rfl <;> exact absurd h (by decide)

theorem isPlain_of_isWhitespace {c : Char} (h : isWhitespace c = true) : isPlain c = true := by
  by_contra hc
  have : c = '"' ∨ c = '\'' ∨ c = '\\' ∨ c = ';' ∨ c = '#' := by
    by_contra hne
    simp only [not_or] at hne
    exact hc (by simp [isPlain, hne])
  rcases this with rfl | rfl | rfl | rfl | rfl <;> exact absurd h (by decide)

/-- The words of a safe line, in Unicode white space: one of the family, then arguments. -/
theorem isSafeRouteLine_iff {line : List Char} : isSafeRouteLine line = true ↔
    (∀ c ∈ line, isControl c = false) ∧ ∃ directive tokens,
      splitWhitespace line = directive :: tokens ∧ String.ofList directive ∈ routeFamily ∧
        ∀ tok ∈ tokens, tok ≠ [] ∧ ∀ c ∈ tok, isRouteArgChar c = true := by
  unfold isSafeRouteLine
  by_cases hc : line.any isControl = true
  · rw [if_pos hc]
    obtain ⟨c, hm, hcc⟩ := List.any_eq_true.mp hc
    constructor
    · simp
    · rintro ⟨h, -⟩
      rw [h c hm] at hcc
      simp at hcc
  · -- Without control characters the check is the one on the words.
    rw [if_neg hc]
    have hall : ∀ c ∈ line, isControl c = false := by simpa using hc
    cases splitWhitespace line with
    | nil => simp
    | cons directive tokens =>
      simp only [Bool.and_eq_true, List.contains_iff_mem, List.all_eq_true, Bool.not_eq_true',
        List.isEmpty_eq_false_iff]
      constructor
      · rintro ⟨hd, ht⟩
        exact ⟨hall, directive, tokens, rfl, hd, ht⟩
      · rintro ⟨-, directive', tokens', heq, hd, ht⟩
        obtain ⟨rfl, rfl⟩ := List.cons.inj heq
        exact ⟨hd, ht⟩

/-- The letters of the route family are argument characters. -/
theorem isRouteArgChar_of_mem_routeFamily {s : String} (h : s ∈ routeFamily) :
    ∀ c ∈ s.toList, isRouteArgChar c = true :=
  List.all_eq_true.mp
    ((by decide : ∀ s ∈ routeFamily, s.toList.all isRouteArgChar = true) s h)

/-- Every word of a safe line consists of argument characters. -/
theorem isRouteArgChar_of_mem_word {line : List Char} (h : isSafeRouteLine line = true)
    {w : List Char} (hw : w ∈ splitWhitespace line) : ∀ c ∈ w, isRouteArgChar c = true := by
  obtain ⟨-, directive, tokens, hs, hd, ht⟩ := isSafeRouteLine_iff.mp h
  rw [hs] at hw
  rcases List.mem_cons.mp hw with rfl | hw
  · simpa using isRouteArgChar_of_mem_routeFamily hd
  · exact (ht w hw).2

theorem isPlain_of_isSafeRouteLine {line : List Char} (h : isSafeRouteLine line = true) :
    ∀ c ∈ line, isPlain c = true := by
  intro c hc
  by_cases hw : isWhitespace c = true
  · exact isPlain_of_isWhitespace hw
  · rw [Bool.not_eq_true] at hw
    obtain ⟨w, hm, hcw⟩ := exists_mem_words hc hw
    exact isPlain_of_isRouteArgChar (isRouteArgChar_of_mem_word h hm c hcw)

/-- The characters of a route argument stay inside a word, a line and an entry. -/
theorem chars_of_isRouteArgChar {ch : Char} (h : isRouteArgChar ch = true) :
    isWhitespace ch = false ∧ isControl ch = false ∧ isRemoteSep ch = false ∧ ch ≠ '[' ∧
      ch ≠ ']' := by
  have hsep : isRemoteSep ch = false ∧ ch ≠ '[' ∧ ch ≠ ']' := by
    refine ⟨?_, ?_, ?_⟩
    · by_contra hsep
      rw [Bool.not_eq_false, isRemoteSep] at hsep
      simp only [Bool.or_eq_true, beq_iff_eq] at hsep
      rcases hsep with (rfl | rfl) | rfl <;> exact absurd h (by decide)
    · rintro rfl
      exact absurd h (by decide)
    · rintro rfl
      exact absurd h (by decide)
  refine ⟨?_, ?_, hsep⟩
  all_goals
    simp only [isRouteArgChar, Bool.or_eq_true, beq_iff_eq] at h
    rcases h with ((((h | rfl) | rfl) | rfl) | rfl) | rfl
  · exact isWhitespace_eq_false_of_isAsciiAlphanumeric h
  all_goals try decide
  exact isAsciiAlphanumeric_isControl h

/-- **A safe route line is tokenized into its words.** -/
theorem tokenize_safeRouteLine {line : List Char} (h : isSafeRouteLine line = true) :
    tokenize line = .ok (routeWords line) :=
  tokenize_plain (isPlain_of_isSafeRouteLine h)

/-! ## The words of the check and of the tokenizer -/

/-- The tokenizer reads the words that the allow-list looked at: one of the family, then
arguments. -/
def ReadAsInspected (line : List Char) : Prop :=
  ∃ directive args, tokenize line = .ok (directive :: args) ∧
    (splitWhitespace line).map String.ofList = directive :: args ∧ directive ∈ routeFamily ∧
      ∀ arg ∈ args, ∀ c ∈ arg.toList, isRouteArgChar c = true

theorem isAscii_of_isRouteArgChar {c : Char} (h : isRouteArgChar c = true) : isAscii c = true := by
  simp only [isRouteArgChar, Bool.or_eq_true, beq_iff_eq] at h
  rcases h with ((((h | rfl) | rfl) | rfl) | rfl) | rfl
  · exact isAscii_of_isAsciiAlphanumeric h
  all_goals decide

/-- The tokenizer reads a route with arguments from ASCII text only. -/
theorem isAscii_of_routeWords {line : List Char} {directive : String} {args : List String}
    (hw : routeWords line = directive :: args) (hd : directive ∈ routeFamily)
    (hargs : ∀ arg ∈ args, ∀ c ∈ arg.toList, isRouteArgChar c = true) :
    ∀ c ∈ line, isAscii c = true := by
  intro c hc
  by_cases hsep : isAsciiWhitespace c = true
  · exact isAscii_of_isAsciiWhitespace hsep
  obtain ⟨w, hmem, hcw⟩ := exists_mem_words hc (eq_false_of_ne_true hsep)
  have hword : String.ofList w ∈ directive :: args := hw ▸ List.mem_map_of_mem hmem
  have hchar : c ∈ (String.ofList w).toList := by rwa [String.toList_ofList]
  refine isAscii_of_isRouteArgChar ?_
  rcases List.mem_cons.mp hword with he | hmem
  · exact isRouteArgChar_of_mem_routeFamily hd c (he ▸ hchar)
  · exact hargs _ hmem c hchar

/-- In a safe line of ASCII text both kinds of white space are the same. -/
theorem routeWords_eq_splitWhitespace {line : List Char} (h : isSafeRouteLine line = true)
    (hascii : ∀ c ∈ line, isAscii c = true) :
    routeWords line = (splitWhitespace line).map String.ofList := by
  have hctl := (isSafeRouteLine_iff.mp h).1
  have hsame : ∀ c ∈ line, isAsciiWhitespace c = isWhitespace c := fun c hc ↦
    Bool.eq_iff_iff.mpr ⟨isWhitespace_of_isAsciiWhitespace,
      fun hw ↦ isAsciiWhitespace_of_isWhitespace hw (hctl c hc) (hascii c hc)⟩
  rw [routeWords, splitWhitespace, words_congr hsame]

/-- **A safe route line is read as it was inspected exactly when it is ASCII.** The check takes
white space outside of ASCII for a separator, the tokenizer takes it for a part of a word. -/
theorem readAsInspected_iff {line : List Char} (h : isSafeRouteLine line = true) :
    ReadAsInspected line ↔ ∀ c ∈ line, isAscii c = true := by
  constructor
  · rintro ⟨directive, args, htok, -, hd, hargs⟩
    rw [tokenize_safeRouteLine h] at htok
    exact isAscii_of_routeWords (Except.ok.inj htok) hd hargs
  · intro hascii
    have hwords := routeWords_eq_splitWhitespace h hascii
    obtain ⟨-, directive, tokens, hs, hd, ht⟩ := isSafeRouteLine_iff.mp h
    refine ⟨String.ofList directive, tokens.map String.ofList, ?_, ?_, hd, ?_⟩
    · rw [tokenize_safeRouteLine h, hwords, hs, List.map_cons]
    · rw [hs, List.map_cons]
    · intro arg harg
      obtain ⟨tok, htok, rfl⟩ := List.mem_map.mp harg
      rw [String.toList_ofList]
      exact (ht tok htok).2

theorem readAsInspected_spaces :
    ReadAsInspected "route-ipv6 2001:db8::/32  fe80::1 10".toList :=
  (readAsInspected_iff (by decide)).mpr (List.all_eq_true.mp (by decide))

/-- A no-break space passes the check, and stays in the word. -/
theorem not_readAsInspected : ¬ ∀ line, isSafeRouteLine (trim line) = true →
    ReadAsInspected (trim line) := by
  intro h
  obtain ⟨directive, args, htok, -, hd, -⟩ := h "route\u00a010.0.0.0".toList (by decide)
  have hread : tokenize (trim "route\u00a010.0.0.0".toList) = .ok ["route\u00a010.0.0.0"] := by
    rfl
  obtain ⟨rfl, -⟩ := List.cons.inj (Except.ok.inj (hread.symm.trans htok))
  exact absurd hd (by decide)

/-- **The first word of a preserved line** begins with an `r`, as the line does; where it is all
ASCII it is one of the family, since only white space outside ASCII can glue an argument to it. -/
theorem routeWords_of_mem_safeRouteLines {routes : String} {line : List Char}
    (h : line ∈ safeRouteLines routes) :
    line.head? = some 'r' ∧ ∃ w args, routeWords line = w :: args ∧ (∃ t, w.toList = 'r' :: t) ∧
      ((∀ c ∈ w.toList, isAscii c = true) → w ∈ routeFamily) := by
  obtain ⟨⟨raw, -, rfl⟩, hne, hsafe⟩ : (∃ raw ∈ lines routes.toList, trim raw = line) ∧
      line ≠ [] ∧ isSafeRouteLine line = true := by
    simpa [safeRouteLines, and_assoc] using h
  obtain ⟨hctl, directive, tokens, hs, hd, -⟩ := isSafeRouteLine_iff.mp hsafe
  obtain ⟨c, t, hline⟩ := List.exists_cons_of_ne_nil hne
  have hc : isWhitespace c = false := isWhitespace_head_trim (by rw [hline]; rfl)
  have hca : isAsciiWhitespace c = false := by
    by_contra hca
    rw [Bool.not_eq_false] at hca
    rw [isWhitespace_of_isAsciiWhitespace hca] at hc
    exact absurd hc (by simp)
  -- Both kinds of words begin with the first character of the line, which is the family's `r`.
  obtain ⟨w, ws, hw⟩ := words_cons_run hca t
  obtain ⟨u, us, hu⟩ := words_cons_run hc t
  rw [hline] at hs hctl ⊢
  rw [splitWhitespace] at hs
  have hdir : directive = c :: u := (List.cons.inj (hs.symm.trans hu)).1
  have hr : c = 'r' := by
    rw [hdir] at hd
    simp only [routeFamily, List.mem_cons, List.not_mem_nil, or_false] at hd
    rcases hd with hd | hd | hd | hd | hd <;>
      exact (List.cons.inj (by simpa using congrArg String.toList hd)).1
  refine ⟨by rw [hr]; rfl, String.ofList (c :: w), ws.map String.ofList, ?_, ⟨w, ?_⟩,
    fun hascii ↦ ?_⟩
  · rw [routeWords, hw, List.map_cons]
  · rw [String.toList_ofList, hr]
  · rw [String.toList_ofList] at hascii
    have hfirst : c :: w ∈ words isAsciiWhitespace (c :: t) := by
      rw [hw]
      exact List.mem_cons_self
    have hmem := fun d (hd : d ∈ c :: w) ↦ (mem_words hfirst).2 d hd
    have hrun : words isWhitespace (c :: w) = [c :: w] := by
      refine words_run (by simp) fun d hd ↦ ?_
      by_contra hwd
      rw [Bool.not_eq_false] at hwd
      have := isAsciiWhitespace_of_isWhitespace hwd (hctl d (hmem d hd).2) (hascii d hd)
      rw [(hmem d hd).1] at this
      simp at this
    rw [← words_flatMap_words (fun _ ↦ isWhitespace_of_isAsciiWhitespace), hw, List.flatMap_cons,
      hrun, List.singleton_append] at hs
    rw [(List.cons.inj hs).1]
    exact hd

/-- The first word of a text is where the text begins. -/
theorem prefix_of_words_eq_cons {p : Char → Bool} {l w : List Char} {ws : List (List Char)}
    (hhead : ∀ c, l.head? = some c → p c = false) (h : words p l = w :: ws) : w <+: l := by
  induction l using words_induction (p := p) generalizing ws with
  | nil => simp at h
  | run l hne hl =>
    rw [words_run hne hl] at h
    exact (List.cons.inj h).1 ▸ List.prefix_refl l
  | sep l c r hc ihl ihr =>
    cases l with
    | nil =>
      rw [hhead c rfl] at hc
      exact absurd hc Bool.false_ne_true
    | cons d l =>
      obtain ⟨u, us, hu⟩ := words_cons_run (hhead d rfl) l
      rw [words_append_sep _ hc, hu, List.cons_append] at h
      exact (ihl hhead ((List.cons.inj h).1 ▸ hu)).trans (List.prefix_append _ _)

/-- The first word of a preserved line begins with the name of a route. -/
theorem route_prefix_of_mem_safeRouteLines {routes : String} {line : List Char}
    (h : line ∈ safeRouteLines routes) {w : String} {args : List String}
    (hw : routeWords line = w :: args) : "route".toList <+: w.toList := by
  obtain ⟨-, w', args', hw', ⟨t, ht⟩, -⟩ := routeWords_of_mem_safeRouteLines h
  obtain ⟨rfl, rfl⟩ := List.cons.inj (hw.symm.trans hw')
  obtain ⟨-, hne, hsafe⟩ : (∃ raw ∈ lines routes.toList, trim raw = line) ∧
      line ≠ [] ∧ isSafeRouteLine line = true := by
    simpa [safeRouteLines, and_assoc] using h
  obtain ⟨-, directive, tokens, hs, hd, -⟩ := isSafeRouteLine_iff.mp hsafe
  obtain ⟨first, rest, hwords, rfl, -⟩ := List.map_eq_cons_iff.mp hw
  rw [String.toList_ofList] at ht
  -- The first word in Unicode white space is the first one inside of the first ASCII word.
  have hfirst : words isWhitespace first = directive :: (words isWhitespace first).tail := by
    obtain ⟨u, us, hu⟩ := words_cons_run (show isWhitespace 'r' = false by decide) t
    rw [splitWhitespace, ← words_flatMap_words fun _ ↦ isWhitespace_of_isAsciiWhitespace, hwords,
      List.flatMap_cons, ht, hu, List.cons_append] at hs
    rw [ht, hu, (List.cons.inj hs).1, List.tail_cons]
  have hdir : directive <+: first := by
    refine prefix_of_words_eq_cons (fun c hc ↦ ?_) hfirst
    rw [ht] at hc
    obtain rfl : 'r' = c := Option.some_inj.mp hc
    decide
  have hfam : ∀ name ∈ routeFamily, "route".toList <+: name.toList := by decide
  have hprefix := hfam _ hd
  rw [String.toList_ofList (l := directive)] at hprefix
  rw [String.toList_ofList (l := first)]
  exact hprefix.trans hdir

/-- A preserved line is not empty and holds no control characters. -/
theorem of_mem_safeRouteLines {routes : String} {line : List Char}
    (h : line ∈ safeRouteLines routes) :
    line ≠ [] ∧ isSafeRouteLine line = true ∧ ∀ c ∈ line, isControl c = false := by
  have hl : line ≠ [] ∧ isSafeRouteLine line = true := by
    rw [safeRouteLines, List.mem_filter, Bool.and_eq_true] at h
    exact ⟨by simpa using h.2.1, h.2.2⟩
  exact ⟨hl.1, hl.2, (isSafeRouteLine_iff.mp hl.2).1⟩

/-- A preserved line does not end in white space. -/
theorem isWhitespace_getLast_of_mem_safeRouteLines {routes : String} {line : List Char}
    (h : line ∈ safeRouteLines routes) {c : Char} (hc : line.getLast? = some c) :
    isWhitespace c = false := by
  rw [safeRouteLines, List.mem_filter] at h
  obtain ⟨raw, -, rfl⟩ := List.mem_map.mp h.1
  exact isWhitespace_getLast_trim hc

end Ovpn

end NmOpenvpn3
