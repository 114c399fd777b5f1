import NmOpenvpn3.Ovpn.Values
import NmOpenvpn3.Rust.Decimal
import Mathlib.Data.List.Forall2

/-!
# Configurations

An `.ovpn` config as a sequence of directives, with the three operations on it: `parse` from text,
`validate`, and `emit` to text. Errors carry the source's messages.

The source consumes an iterator of numbered lines, and an inline blob runs an inner loop on the same
iterator. Here the blob that is being read is part of the state of one loop over the lines.

The main result is `parse_flatMap_newline`: text whose lines read as directives parses to those
directives, unless validation rejects them.
-/

namespace NmOpenvpn3

namespace Ovpn

open Rust

/-- One non-empty line, or one inline blob. -/
inductive Directive where
  | option (name : String) (args : List String)
  | blob (name : String) (body : String)
  deriving DecidableEq

/-- The option or blob name. -/
def Directive.name : Directive → String
  | .option name _ => name
  | .blob name _ => name

/-- In-memory representation of an `.ovpn` config: the directives in source order. -/
structure OvpnConfig where
  directives : List Directive
  deriving DecidableEq

/-- The inline blobs that are recognised. -/
def inlineBlobNames : List String :=
  ["ca", "cert", "extra-certs", "crl-verify", "key", "pkcs12", "secret", "tls-auth", "tls-crypt",
    "tls-crypt-v2"]

/-! ## Validation -/

/-- The sanity gates of `validate`. -/
inductive Gate where
  | port
  | oneOf (values : List String) (expected : String)
  | optionalOneOf (values : List String) (expected : String)
  | proto
  | tlsVersion
  | keepalive

/-- The first argument, which the option must have. -/
def requireValue (name : String) (args : List String) : Except String String :=
  match args.head? with
  | some v => .ok v
  | none => .error (name ++ " requires a value")

/-- The accepted values of `proto`. -/
def protoValues : List String :=
  ["udp", "tcp", "udp4", "udp6", "tcp4", "tcp6", "tcp-client", "tcp-server", "udp-client",
    "udp-server", "tcp4-client", "tcp6-client", "udp4-client", "udp6-client"]

/-- A TLS version, without its optional suffix. -/
def tlsVersionBase (v : String) : String :=
  String.ofList ((stripSuffix " or-highest".toList v.toList).getD v.toList)

/-- The check of one argument of `keepalive`. -/
def checkKeepaliveArg (i : ℕ) (arg : String) : Except String Unit :=
  if (parseU32 arg).isSome then .ok ()
  else .error ("keepalive arg " ++ toString i ++ " must be a non-negative integer, got '" ++ arg
    ++ "'")

/-- Check the arguments of the option `name` at a gate. -/
def Gate.check (name : String) (args : List String) : Gate → Except String Unit
  | .port => do
    let v ← requireValue name args
    match parseU32 v with
    | none => .error (name ++ " '" ++ v ++ "' is not numeric")
    | some n =>
      if 1 ≤ n ∧ n ≤ 65535 then .ok ()
      else .error (name ++ " " ++ toString n ++ " out of range 1-65535")
  | .oneOf values expected => do
    let v ← requireValue name args
    if values.contains v then .ok ()
    else .error (name ++ " must be " ++ expected ++ ", got '" ++ v ++ "'")
  | .optionalOneOf values expected =>
    match args.head? with
    | none => .ok ()
    | some v =>
      if values.contains v then .ok ()
      else .error (name ++ " must be " ++ expected ++ ", got '" ++ v ++ "'")
  | .proto => do
    let v ← requireValue name args
    if protoValues.contains v then .ok () else .error ("proto '" ++ v ++ "' is not recognised")
  | .tlsVersion => do
    let v ← requireValue name args
    if ["1.0", "1.1", "1.2", "1.3"].contains (tlsVersionBase v) then .ok ()
    else .error (name ++ " '" ++ v ++ "' is not a recognised TLS version")
  | .keepalive =>
    match args with
    | a :: b :: _ => do
      checkKeepaliveArg 1 a
      checkKeepaliveArg 2 b
    | _ => .error "keepalive requires two integers"

/-- The gate of each option that has one. -/
def gates : List (String × Gate) :=
  [("port", .port),
   ("proxy-port", .port),
   ("key-direction", .oneOf ["0", "1"] "0 or 1"),
   ("static-key-direction", .oneOf ["0", "1"] "0 or 1"),
   ("remote-cert-tls", .oneOf ["client", "server"] "client|server"),
   ("ns-cert-type", .oneOf ["client", "server"] "client|server"),
   ("mtu-disc", .oneOf ["no", "maybe", "yes"] "no|maybe|yes"),
   ("comp-lzo", .optionalOneOf ["yes", "no", "adaptive"] "yes|no|adaptive"),
   ("proto", .proto),
   ("tls-version-min", .tlsVersion),
   ("tls-version-max", .tlsVersion),
   ("keepalive", .keepalive)]

/-- The validation of one directive. -/
def validateDirective : Directive → Except String Unit
  | .blob _ _ => .ok ()
  | .option name args =>
    match gates.lookup name with
    | some gate => gate.check name args
    | none => .ok ()

/-- The first complaint about a list of directives. -/
def validateAll : List Directive → Except String Unit
  | [] => .ok ()
  | d :: ds => do
    validateDirective d
    validateAll ds

/-- `OvpnConfig::validate`. -/
def OvpnConfig.validate (c : OvpnConfig) : Except String Unit := validateAll c.directives

/-! ## Emission -/

/-- The text of one directive. -/
def Directive.emit : Directive → List Char
  | .option name args => wordsLine (name :: args) ++ ['\n']
  | .blob name body =>
    '<' :: name.toList ++ ['>', '\n'] ++ body.toList ++
      (if body.toList.getLast? = some '\n' then [] else ['\n']) ++
      '<' :: '/' :: name.toList ++ ['>', '\n']

/-- `OvpnConfig::emit`. -/
def OvpnConfig.emit (c : OvpnConfig) : String := String.ofList (c.directives.flatMap Directive.emit)

/-! ## Parsing -/

/-- An inline blob whose closing tag is still to come: the line that opened it, its name, and the
body so far. -/
structure OpenBlob where
  lineno : ℕ
  inner : List Char
  body : List Char

/-- The closing tag. -/
def OpenBlob.close (b : OpenBlob) : List Char := '<' :: '/' :: b.inner ++ ['>']

/-- The option name, without the `--` that users may write before it. -/
def optionName (tok : String) : List Char := (stripPrefix ['-', '-'] tok.toList).getD tok.toList

/-- The tag of an inline blob, if the word opens one. -/
def blobTag (first : List Char) : Option (List Char) :=
  if first.head? = some '<' ∧ first.getLast? = some '>' then some (first.drop 1).dropLast else none

/-- An error at a line. -/
def atLine (lineno : ℕ) (message : String) : String :=
  "line " ++ toString lineno ++ ": " ++ message

/-- The loop over the remaining lines, the first of which has number `lineno`. -/
def parseLines : Option OpenBlob → ℕ → List (List Char) → Except String (List Directive)
  | none, _, [] => .ok []
  | some b, _, [] =>
    .error (atLine b.lineno ("unterminated inline blob <" ++ String.ofList b.inner ++ ">"))
  | some b, lineno, line :: rest =>
    if trim line = b.close then
      if inlineBlobNames.contains (String.ofList b.inner) then
        (.blob (String.ofList b.inner) (String.ofList b.body) :: ·) <$>
          parseLines none (lineno + 1) rest
      else
        .error (atLine b.lineno ("unsupported inline blob <" ++ String.ofList b.inner ++ ">"))
    else parseLines (some { b with body := b.body ++ line ++ ['\n'] }) (lineno + 1) rest
  | none, lineno, line :: rest =>
    let trimmed := trimStart line
    if trimmed.isEmpty ∨ trimmed.head? = some ';' ∨ trimmed.head? = some '#' then
      parseLines none (lineno + 1) rest
    else
      match tokenize trimmed with
      | .error e => .error (atLine lineno e)
      | .ok [] => parseLines none (lineno + 1) rest
      | .ok (tok :: args) =>
        match blobTag (optionName tok) with
        | some inner => parseLines (some ⟨lineno, inner, []⟩) (lineno + 1) rest
        | none =>
          (.option (String.ofList (optionName tok)) args :: ·) <$>
            parseLines none (lineno + 1) rest

/-- The byte order mark. -/
def bom : Char := '\uFEFF'

/-- `OvpnConfig::parse`. -/
def OvpnConfig.parse (input : String) : Except String OvpnConfig := do
  let text := (stripPrefix [bom] input.toList).getD input.toList
  let directives ← parseLines none 1 (lines text)
  OvpnConfig.validate ⟨directives⟩
  return ⟨directives⟩

/-! ## Validation by directive -/

theorem validateAll_eq_ok {ds : List Directive} :
    validateAll ds = .ok () ↔ ∀ d ∈ ds, validateDirective d = .ok () := by
  induction ds with
  | nil => simp [validateAll]
  | cons d ds ih =>
    rw [validateAll, List.forall_mem_cons]
    cases h : validateDirective d with
    | error e => exact ⟨fun hc ↦ by simp [bind, Except.bind] at hc, fun hc ↦ by simp at hc⟩
    | ok u =>
      rw [← ih]
      exact ⟨fun hc ↦ ⟨rfl, hc⟩, fun hc ↦ hc.2⟩

/-- What was parsed is valid. -/
theorem validate_of_parse {text : String} {c : OvpnConfig} (h : OvpnConfig.parse text = .ok c) :
    c.validate = .ok () := by
  rw [OvpnConfig.parse] at h
  cases hds : parseLines none 1 (lines ((stripPrefix [bom] text.toList).getD text.toList)) with
  | error e => simp [hds, bind, Except.bind] at h
  | ok ds =>
    simp only [hds, bind, Except.bind, pure, Except.pure] at h
    cases hv : OvpnConfig.validate ⟨ds⟩ with
    | error e => simp [hv] at h
    | ok u =>
      simp only [hv, Except.ok.injEq] at h
      rw [← h, hv]

/-- Acceptance does not depend on the order of the directives. -/
theorem validateAll_perm {ds ds' : List Directive} (h : ds.Perm ds') :
    validateAll ds = .ok () ↔ validateAll ds' = .ok () := by
  rw [validateAll_eq_ok, validateAll_eq_ok]
  exact forall_congr' fun d ↦ by rw [h.mem_iff]

/-! ## Lines that read as options -/

/-- A first word that is taken as it is: neither prefixed with `--` nor a blob tag. -/
def OrdinaryName (name : String) : Prop :=
  optionName name = name.toList ∧ blobTag name.toList = none

/-- A physical line that reads as the option `name` with arguments `args`. -/
structure ReadsAs (line : List Char) (name : String) (args : List String) : Prop where
  head : ∃ c, line.head? = some c ∧ isWhitespace c = false ∧ c ≠ ';' ∧ c ≠ '#' ∧ c ≠ bom
  noNewline : '\n' ∉ line
  noCr : line.getLast? ≠ some '\r'
  tokens : tokenize line = .ok (name :: args)
  ordinary : OrdinaryName name

/-- The loop at a line with these words: the line opens a blob, or it is an option. -/
def parseWords (lineno : ℕ) (tok : String) (args : List String) (rest : List (List Char)) :
    Except String (List Directive) :=
  match blobTag (optionName tok) with
  | some inner => parseLines (some ⟨lineno, inner, []⟩) (lineno + 1) rest
  | none =>
    (.option (String.ofList (optionName tok)) args :: ·) <$> parseLines none (lineno + 1) rest

theorem parseLines_cons_words {line : List Char} {tok : String} {args : List String}
    (hhead : ∃ c, line.head? = some c ∧ isWhitespace c = false ∧ c ≠ ';' ∧ c ≠ '#')
    (htok : tokenize line = .ok (tok :: args)) (lineno : ℕ) (rest : List (List Char)) :
    parseLines none lineno (line :: rest) = parseWords lineno tok args rest := by
  obtain ⟨c, hc, hw, h1, h2⟩ := hhead
  cases line with
  | nil => simp at hc
  | cons d t =>
    obtain rfl : d = c := by simpa using hc
    rw [parseLines]
    simp only [trimStart_eq_self hw]
    rw [if_neg (by simp [h1, h2]), htok]
    rfl

theorem ReadsAs.parseLines_cons {line : List Char} {name : String} {args : List String}
    (h : ReadsAs line name args) (lineno : ℕ) (rest : List (List Char)) :
    parseLines none lineno (line :: rest) =
      (.option name args :: ·) <$> parseLines none (lineno + 1) rest := by
  obtain ⟨c, hc, hw, h1, h2, -⟩ := h.head
  rw [parseLines_cons_words ⟨c, hc, hw, h1, h2⟩ h.tokens, parseWords]
  simp only [h.ordinary.1, h.ordinary.2, String.ofList_toList]

/-- The lines of a list of options. -/
def ReadAsAll (ls : List (List Char)) (ds : List Directive) : Prop :=
  List.Forall₂ (fun l d ↦ ∃ name args, d = .option name args ∧ ReadsAs l name args) ls ds

theorem ReadAsAll.parseLines {ls : List (List Char)} {ds : List Directive} (h : ReadAsAll ls ds)
    (lineno : ℕ) : parseLines none lineno ls = .ok ds := by
  induction h generalizing lineno with
  | nil => rfl
  | cons hd _ ih =>
    obtain ⟨name, args, rfl, hr⟩ := hd
    rw [hr.parseLines_cons, ih]
    rfl

theorem ReadAsAll.lines {ls : List (List Char)} {ds : List Directive} (h : ReadAsAll ls ds) :
    ∀ l ∈ ls, '\n' ∉ l ∧ l.getLast? ≠ some '\r' := by
  induction h with
  | nil => simp
  | cons hd _ ih =>
    obtain ⟨name, args, -, hr⟩ := hd
    rw [List.forall_mem_cons]
    exact ⟨⟨hr.noNewline, hr.noCr⟩, ih⟩

/-- **Text whose lines read as options parses to these options**, unless validation rejects
them. -/
theorem parse_flatMap_newline {ls : List (List Char)} {ds : List Directive}
    (h : ReadAsAll ls ds) :
    OvpnConfig.parse (String.ofList (ls.flatMap (· ++ ['\n']))) =
      (OvpnConfig.validate ⟨ds⟩).map fun _ ↦ ⟨ds⟩ := by
  have hbom : stripPrefix [bom] (ls.flatMap (· ++ ['\n'])) = none := by
    cases h with
    | nil => rfl
    | cons hd _ =>
      obtain ⟨name, args, -, hr⟩ := hd
      obtain ⟨c, hc, -, -, -, hb⟩ := hr.head
      obtain ⟨t, rfl⟩ : ∃ t, _ = c :: t := List.head?_eq_some_iff.mp hc
      simp [stripPrefix, Ne.symm hb]
  rw [OvpnConfig.parse, String.toList_ofList, hbom, Option.getD_none,
    lines_flatMap_newline h.lines, h.parseLines]
  change ((OvpnConfig.validate ⟨ds⟩).bind fun _ ↦ .ok (OvpnConfig.mk ds)) = _
  cases OvpnConfig.validate ⟨ds⟩ with
  | error e => rfl
  | ok u => rfl

/-- The edges of a line of escaped words: it is neither blank nor a comment, and nothing that the
reader of lines takes off stands there. -/
theorem edges_wordsLine (name : String) (args : List String) :
    (∃ c, (wordsLine (name :: args)).head? = some c ∧ isWhitespace c = false ∧ c ≠ ';' ∧ c ≠ '#' ∧
      c ≠ bom) ∧ (wordsLine (name :: args)).getLast? ≠ some '\r' := by
  have hedge : ∀ c, IsWordEdge c → c ≠ ';' ∧ c ≠ '#' ∧ c ≠ bom ∧ c ≠ '\r' := by
    intro c hc
    refine ⟨?_, ?_, ?_, ?_⟩ <;> rintro rfl <;> rcases hc with hc | hc | hc <;> revert hc <;> decide
  obtain ⟨⟨c, hc, hcc⟩, ⟨d, hd, hdd⟩, -⟩ := wordShape_wordsLine (show name :: args ≠ [] by simp)
  obtain ⟨h1, h2, h3, -⟩ := hedge c hcc
  refine ⟨⟨c, hc, isWhitespace_of_isWordEdge hcc, h1, h2, h3⟩, ?_⟩
  rw [hd]
  intro he
  exact (hedge d hdd).2.2.2 (Option.some_inj.mp he)

/-- A line of escaped words reads as the option that its first word names. -/
theorem readsAs_wordsLine {name : String} (hname : OrdinaryName name) (args : List String) :
    ReadsAs (wordsLine (name :: args)) name args :=
  ⟨(edges_wordsLine name args).1, (wordShape_wordsLine (by simp)).2.2,
    (edges_wordsLine name args).2, tokenize_wordsLine _, hname⟩

theorem ordinaryName_of_head {name : String} {c : Char} {t : List Char} (h : name.toList = c :: t)
    (h1 : c ≠ '-') (h2 : c ≠ '<') : OrdinaryName name := by
  constructor
  · simp [optionName, stripPrefix, h, h1.symm]
  · simp [blobTag, h, h2]

end Ovpn

end NmOpenvpn3
