import NmOpenvpn3.Ovpn.VpnData
import NmOpenvpn3.Ovpn.Values
import NmOpenvpn3.Rust.Decimal

/-!
# The auth dialog

The helper that NetworkManager starts when a secret is missing. In external-UI mode it reads the
connection on its input and writes a key file that describes what to ask for. The hints on its
command line say what is needed; without hints it is inferred from the connection.

The translations and the look into the private-key file are parameters.
-/

namespace NmOpenvpn3

namespace AuthDialog

open Rust Ovpn

/-- The command line. -/
structure Args where
  uuid : Option String
  name : Option String
  service : Option String
  allowInteraction : Bool
  externalUiMode : Bool
  hints : List String

/-- What the user is to be asked for. -/
structure Needed where
  password : Bool
  certpass : Bool
  proxypass : Bool
  challengeResponse : Bool
  challengeResponseEcho : Bool
  prompt : Option String
  deriving DecidableEq

/-- Nothing. -/
def Needed.default : Needed := ⟨false, false, false, false, false, none⟩

/-! ## Reading the connection -/

/-- A key that waits for its value, in the data or in the secrets. -/
abbrev CurrentKey := Option (String × Bool)

/-- One line of the input, behind the check for the end. -/
def readLine (key : CurrentKey) (data secrets : VpnData) (line : List Char) :
    CurrentKey × VpnData × VpnData :=
  if line.isEmpty then (none, data, secrets)
  else match splitOnce '=' line with
    | none => (key, data, secrets)
    | some (pre, value) =>
      let isKey := pre = "DATA_KEY".toList ∨ pre = "SECRET_KEY".toList
      if isKey ∧ value.isEmpty then (none, data, secrets)
      else if pre = "DATA_KEY".toList then (some (String.ofList value, false), data, secrets)
      else if pre = "SECRET_KEY".toList then (some (String.ofList value, true), data, secrets)
      else match key with
        | some (k, false) =>
          if pre = "DATA_VAL".toList then (none, data.insert k (String.ofList value), secrets)
          else (key, data, secrets)
        | some (k, true) =>
          if pre = "SECRET_VAL".toList then (none, data, secrets.insert k (String.ofList value))
          else (key, data, secrets)
        | none => (key, data, secrets)

/-- The loop over the lines, up to `DONE`. -/
def readLines : CurrentKey → VpnData → VpnData → List (List Char) → VpnData × VpnData
  | _, data, secrets, [] => (data, secrets)
  | key, data, secrets, line :: rest =>
    if line = "DONE".toList then (data, secrets)
    else
      let (key', data', secrets') := readLine key data secrets line
      readLines key' data' secrets' rest

/-- `read_vpn_details`: the data and the secrets. -/
def readVpnDetails (stdin : String) : VpnData × VpnData :=
  readLines none Dict.empty Dict.empty (lines stdin.toList)

/-! ## What is needed -/

/-- A secret is required unless its flags say otherwise. -/
def secretRequiredFlag (data : VpnData) (key : String) : Bool :=
  match data (key ++ "-flags") with
  | some raw => (parseU32 raw).getD 0 &&& 4 == 0
  | none => true

/-- The tag of the message among the hints. -/
def vpnMsgTag : String := "x-vpn-message:"

/-- One hint. -/
def needHint (out : Needed) (h : String) : Needed :=
  match stripPrefix vpnMsgTag.toList h.toList with
  | some msg => { out with prompt := out.prompt.or (some (String.ofList msg)) }
  | none =>
    if h = "password" then { out with password := true }
    else if h = "cert-pass" then { out with certpass := true }
    else if h = "http-proxy-password" then { out with proxypass := true }
    else if h = "challenge-response" ∨ h = "x-dynamic-challenge:challenge-response" then
      { out with challengeResponse := true }
    else if h = "x-dynamic-challenge-echo:challenge-response" then
      { out with challengeResponse := true, challengeResponseEcho := true }
    else out

/-- What is needed by a connection of a type, without hints. -/
def inferNeeded (isEncrypted : String → Bool) (data : VpnData) (ctype : String) : Needed where
  password := (ctype = "password-tls" || ctype = "password") && secretRequiredFlag data "password"
  certpass := (ctype = "tls" || ctype = "password-tls") &&
    match data "key" with
    | some path => isPkcs12Path path || isEncrypted path
    | none => false
  proxypass := match data "proxy-server" with
    | some proxy => proxy ≠ "" && secretRequiredFlag data "http-proxy-password"
    | none => false
  challengeResponse := false
  challengeResponseEcho := false
  prompt := none

/-- The keys that the dialog can ask for. -/
def askableKeys : List String :=
  ["password", "cert-pass", "http-proxy-password", "challenge-response"]

/-- Whether the value of a key is needed. -/
def Needed.asks (n : Needed) (key : String) : Bool :=
  if key = "password" then n.password
  else if key = "cert-pass" then n.certpass
  else if key = "http-proxy-password" then n.proxypass
  else if key = "challenge-response" then n.challengeResponse
  else false

/-- A hint that is a key asks for that key. -/
theorem asks_needHint_self {key : String} (hkey : key ∈ askableKeys) (out : Needed) :
    (needHint out key).asks key = true := by
  simp only [askableKeys, List.mem_cons, List.not_mem_nil, or_false] at hkey
  obtain rfl | rfl | rfl | rfl := hkey <;> rfl

theorem asks_mono {n n' : Needed} {key : String} (h : n.asks key = true)
    (hpassword : n.password = true → n'.password = true)
    (hcertpass : n.certpass = true → n'.certpass = true)
    (hproxypass : n.proxypass = true → n'.proxypass = true)
    (hchallenge : n.challengeResponse = true → n'.challengeResponse = true) :
    n'.asks key = true := by
  unfold Needed.asks at h ⊢
  split_ifs at h ⊢
  · exact hpassword h
  · exact hcertpass h
  · exact hproxypass h
  · exact hchallenge h

/-- No hint withdraws what an earlier one asked for. -/
theorem asks_needHint {out : Needed} {key : String} (h : out.asks key = true) (hint : String) :
    (needHint out hint).asks key = true := by
  unfold needHint
  split
  · exact h
  · split_ifs
    · exact asks_mono h (fun _ ↦ rfl) id id id
    · exact asks_mono h id (fun _ ↦ rfl) id id
    · exact asks_mono h id id (fun _ ↦ rfl) id
    · exact asks_mono h id id id (fun _ ↦ rfl)
    · exact asks_mono h id id id (fun _ ↦ rfl)
    · exact h

theorem asks_foldl_needHint {key : String} (hkey : key ∈ askableKeys) {hints : List String}
    {out : Needed} (h : out.asks key = true ∨ key ∈ hints) :
    (hints.foldl needHint out).asks key = true := by
  induction hints generalizing out with
  | nil => simpa using h
  | cons hint hints ih =>
    refine ih ?_
    obtain h | h := h
    · exact .inl (asks_needHint h hint)
    · obtain rfl | h := List.mem_cons.mp h
      · exact .inl (asks_needHint_self hkey out)
      · exact .inr h

/-- `needs`. Hints take precedence over the connection. -/
def needs (isEncrypted : String → Bool) (data : VpnData) (hints : List String) : Needed :=
  if hints.isEmpty then
    match data "connection-type" with
    | some ctype => inferNeeded isEncrypted data ctype
    | none => .default
  else hints.foldl needHint .default

/-- Every key among the hints is asked for. -/
theorem asks_needs (isEncrypted : String → Bool) (data : VpnData) {hints : List String}
    {key : String} (hkey : key ∈ askableKeys) (h : key ∈ hints) :
    (needs isEncrypted data hints).asks key = true := by
  rw [needs, if_neg (by simpa using List.ne_nil_of_mem h)]
  exact asks_foldl_needHint hkey (.inr h)

/-! ## The key file -/

/-- Key-file escaping. -/
def escapeChar : Char → List Char
  | '\\' => ['\\', '\\']
  | '\n' => ['\\', 'n']
  | '\r' => ['\\', 'r']
  | '\t' => ['\\', 't']
  | c => [c]

def escape (s : String) : String := String.ofList (s.toList.flatMap escapeChar)

/-- None of the characters that are escaped is left, except the backslash; an escaped text stays on
one line. -/
theorem not_mem_escape {c : Char} (hc : c = '\n' ∨ c = '\r' ∨ c = '\t') (s : String) :
    c ∉ (escape s).toList := by
  rw [escape, String.toList_ofList, List.mem_flatMap]
  rintro ⟨d, -, hd⟩
  unfold escapeChar at hd
  split at hd
  case h_5 _ hn hr ht =>
    obtain rfl := List.mem_singleton.mp hd
    exact hc.elim hn (Or.elim · hr ht)
  all_goals obtain rfl | rfl | rfl := hc <;> simp at hd

/-- One group of the key file. -/
structure Entry where
  key : String
  value : String
  label : String
  forceEcho : Bool
  shouldAsk : Bool

/-- `write_entry`. -/
def Entry.lines (e : Entry) : List String :=
  ["", "[" ++ e.key ++ "]", "Value=" ++ escape e.value, "Label=" ++ escape e.label,
    "IsSecret=true", "ShouldAsk=" ++ toString e.shouldAsk, "ForceEcho=" ++ toString e.forceEcho]

/-- `write_no_secret`. -/
def noSecretLines : List String :=
  ["[VPN Plugin UI]", "Version=2", "", "[no-secret]", "Value=true", "Label=", "IsSecret=true",
    "ShouldAsk=false", "ForceEcho=false"]

section Dialog

variable (tr : String → String) (isEncrypted : String → Bool)

/-- The groups of the key file. -/
def entries (needed : Needed) (allowInteraction : Bool) : List Entry :=
  [⟨"password", "", tr "Password", false, needed.password && allowInteraction⟩,
   ⟨"cert-pass", "", tr "Certificate password", false, needed.certpass && allowInteraction⟩,
   ⟨"http-proxy-password", "", tr "HTTP proxy password", false,
     needed.proxypass && allowInteraction⟩,
   ⟨"challenge-response", "", tr "Challenge response", needed.challengeResponseEcho,
     needed.challengeResponse && allowInteraction⟩]

/-- `write_eui_keyfile`. -/
def euiLines (prompt : String) (needed : Needed) (allowInteraction : Bool) : List String :=
  ["[VPN Plugin UI]", "Version=2", "Description=" ++ escape prompt,
    "Title=" ++ escape (tr "Authentication required")] ++
    (entries tr needed allowInteraction).flatMap Entry.lines

/-- The prompt, the server's if there is one. -/
def promptText (args : Args) (needed : Needed) : String :=
  needed.prompt.getD
    ((tr "You need to authenticate to access the Virtual Private Network “\x7bname\x7d”.").replace
      "\x7bname\x7d" (args.name.getD ""))

/-- The service that the dialog belongs to. -/
def serviceType : String := "org.freedesktop.NetworkManager.openvpn3"

/-- The text of some lines. -/
def linesText (ls : List String) : String :=
  String.ofList ((ls.map String.toList).flatMap (· ++ ['\n']))

/-- `run`: the key file that is written, or the error. -/
def run (args : Args) (stdin : String) : Except String String :=
  if args.uuid = none ∨ args.name = none ∨ args.service = none then
    .error "--uuid, --name and --service are all required"
  else if args.service ≠ some serviceType then
    .error ("this dialog only works with service '" ++ serviceType ++ "'; got '" ++
      args.service.getD "" ++ "'")
  else if !args.externalUiMode then .error "only --external-ui-mode is supported"
  else
    let needed := needs isEncrypted (readVpnDetails stdin).1 args.hints
    if !needed.password && !needed.certpass && !needed.proxypass && !needed.challengeResponse then
      .ok (linesText noSecretLines)
    else .ok (linesText (euiLines tr (promptText tr args needed) needed args.allowInteraction))

end Dialog

/-! ## Reading the key file -/

/-- Whether a key file has a group for a key that asks the user. -/
def Asks (text key : String) : Prop :=
  ∃ pre body post : List String,
    lines text.toList = (pre ++ ("[" ++ key ++ "]") :: body ++ post).map String.toList ∧
      "ShouldAsk=true" ∈ body ∧ ∀ l ∈ body, l.toList.head? ≠ some '['

/-- A line that is read back as it is written. -/
def OneLine (l : String) : Prop := '\n' ∉ l.toList ∧ '\r' ∉ l.toList

theorem oneLine_escape (pre s : String) (h : OneLine pre) : OneLine (pre ++ escape s) := by
  constructor
  · simpa using ⟨h.1, not_mem_escape (.inl rfl) s⟩
  · simpa using ⟨h.2, not_mem_escape (.inr (.inl rfl)) s⟩

theorem lines_linesText {ls : List String} (h : ∀ l ∈ ls, OneLine l) :
    lines (linesText ls).toList = ls.map String.toList := by
  rw [linesText, String.toList_ofList, lines_flatMap_newline]
  intro l hl
  obtain ⟨s, hs, rfl⟩ := List.mem_map.mp hl
  exact ⟨(h s hs).1, fun hcr ↦ (h s hs).2 (List.mem_of_getLast? hcr)⟩

section Dialog

variable (tr : String → String) (isEncrypted : String → Bool)

/-- The keys of the groups. -/
theorem key_mem_askableKeys {needed : Needed} {allow : Bool} {e : Entry}
    (h : e ∈ entries tr needed allow) : e.key ∈ askableKeys := by
  simp only [entries, List.mem_cons, List.not_mem_nil, or_false] at h
  obtain rfl | rfl | rfl | rfl := h <;> simp [askableKeys]

/-- Every key has its group. -/
theorem exists_entry {key : String} (hkey : key ∈ askableKeys) (needed : Needed) (allow : Bool) :
    ∃ e ∈ entries tr needed allow, e.key = key ∧ e.shouldAsk = (needed.asks key && allow) := by
  simp only [askableKeys, List.mem_cons, List.not_mem_nil, or_false] at hkey
  obtain rfl | rfl | rfl | rfl := hkey <;> simp [entries, Needed.asks]

theorem oneLine_of_mem_euiLines {prompt : String} {needed : Needed} {allow : Bool} {l : String}
    (h : l ∈ euiLines tr prompt needed allow) : OneLine l := by
  obtain h | h := List.mem_append.mp h
  · simp only [List.mem_cons, List.not_mem_nil, or_false] at h
    obtain rfl | rfl | rfl | rfl := h
    · simp [OneLine]
    · simp [OneLine]
    · exact oneLine_escape _ _ (by simp [OneLine])
    · exact oneLine_escape _ _ (by simp [OneLine])
  · obtain ⟨e, he, hl⟩ := List.mem_flatMap.mp h
    simp only [Entry.lines, List.mem_cons, List.not_mem_nil, or_false] at hl
    obtain rfl | rfl | rfl | rfl | rfl | rfl | rfl := hl
    · simp [OneLine]
    · have hkey := key_mem_askableKeys tr he
      simp only [askableKeys, List.mem_cons, List.not_mem_nil, or_false] at hkey
      obtain hk | hk | hk | hk := hkey <;> simp [OneLine, hk]
    · exact oneLine_escape _ _ (by simp [OneLine])
    · exact oneLine_escape _ _ (by simp [OneLine])
    · simp [OneLine]
    · cases e.shouldAsk <;> exact ⟨by decide, by decide⟩
    · cases e.forceEcho <;> exact ⟨by decide, by decide⟩

/-- A group of the key file that asks is found there. -/
theorem asks_linesText {prompt : String} {needed : Needed} {allow : Bool} {e : Entry}
    (he : e ∈ entries tr needed allow) (hask : e.shouldAsk = true) :
    Asks (linesText (euiLines tr prompt needed allow)) e.key := by
  obtain ⟨s, t, hst⟩ := List.append_of_mem he
  refine ⟨["[VPN Plugin UI]", "Version=2", "Description=" ++ escape prompt,
      "Title=" ++ escape (tr "Authentication required")] ++ s.flatMap Entry.lines ++ [""],
    e.lines.drop 2, t.flatMap Entry.lines, ?_, ?_, ?_⟩
  · rw [lines_linesText fun l hl ↦ oneLine_of_mem_euiLines tr hl, euiLines, hst]
    simp [Entry.lines]
  · simp only [Entry.lines, hask, List.drop_succ_cons, List.drop_zero, List.mem_cons]
    exact .inr (.inr (.inr (.inl (by decide))))
  · intro l hl
    simp only [Entry.lines, List.drop_succ_cons, List.drop_zero, List.mem_cons, List.not_mem_nil,
      or_false] at hl
    obtain rfl | rfl | rfl | rfl | rfl := hl <;> simp

/-- The dialog asks for every key among the hints that it knows. -/
theorem asks_run {args : Args} (huuid : args.uuid ≠ none) (hname : args.name ≠ none)
    (hservice : args.service = some serviceType) (hui : args.externalUiMode = true)
    (hallow : args.allowInteraction = true) {key : String} (hkey : key ∈ askableKeys)
    (h : key ∈ args.hints) (stdin : String) :
    ∃ out, run tr isEncrypted args stdin = .ok out ∧ Asks out key := by
  have hasks := asks_needs isEncrypted (readVpnDetails stdin).1 hkey h
  set needed := needs isEncrypted (readVpnDetails stdin).1 args.hints with hneeded
  have hsome : ¬(!needed.password && !needed.certpass && !needed.proxypass &&
      !needed.challengeResponse) = true := by
    intro hnone
    simp only [Bool.and_eq_true, Bool.not_eq_true'] at hnone
    unfold Needed.asks at hasks
    split_ifs at hasks <;> simp_all
  obtain ⟨e, he, rfl, hask⟩ := exists_entry tr hkey needed args.allowInteraction
  refine ⟨linesText (euiLines tr (promptText tr args needed) needed args.allowInteraction), ?_,
    asks_linesText tr he (by rw [hask, hasks, hallow]; rfl)⟩
  rw [run, if_neg (by simp [huuid, hname, hservice]), if_neg (by simp [hservice]),
    if_neg (by simp [hui])]
  simp only [← hneeded]
  rw [if_neg hsome]

/-- The keys of the groups, from the lines. -/
theorem group_of_mem {key : String} (prompt : String) (needed : Needed) (allow : Bool)
    (h : "[" ++ key ++ "]" ∈ noSecretLines ++ euiLines tr prompt needed allow) :
    key = "VPN Plugin UI" ∨ key = "no-secret" ∨ key ∈ askableKeys := by
  have hclose : ∀ k : String, "[" ++ key ++ "]" = "[" ++ k ++ "]" → key = k := by
    simp [← String.toList_inj]
  have hopen : ∀ l : String, "[" ++ key ++ "]" = l → l.toList.head? = some '[' := by
    rintro _ rfl
    simp
  -- Of the lines of a key file those of the groups begin with a bracket.
  obtain h | h := List.mem_append.mp h
  · simp only [noSecretLines, List.mem_cons, List.not_mem_nil, or_false] at h
    obtain h | h | h | h | h | h | h | h | h := h
    · exact .inl (hclose "VPN Plugin UI" h)
    · exact absurd (hopen _ h) (by decide)
    · exact absurd (hopen _ h) (by decide)
    · exact .inr (.inl (hclose "no-secret" h))
    all_goals exact absurd (hopen _ h) (by decide)
  · obtain h | h := List.mem_append.mp h
    · simp only [List.mem_cons, List.not_mem_nil, or_false] at h
      obtain h | h | h | h := h
      · exact .inl (hclose "VPN Plugin UI" h)
      all_goals exact absurd (hopen _ h) (by simp)
    · obtain ⟨e, he, hl⟩ := List.mem_flatMap.mp h
      simp only [Entry.lines, List.mem_cons, List.not_mem_nil, or_false] at hl
      obtain h | h | h | h | h | h | h := hl
      · exact absurd (hopen _ h) (by simp)
      · exact .inr (.inr (hclose _ h ▸ key_mem_askableKeys tr he))
      all_goals exact absurd (hopen _ h) (by simp)

/-- The groups of a key file that the dialog writes. -/
theorem group_of_run {args : Args} {stdin out key : String}
    (hrun : run tr isEncrypted args stdin = .ok out) (h : Asks out key) :
    key = "VPN Plugin UI" ∨ key = "no-secret" ∨ key ∈ askableKeys := by
  obtain ⟨pre, body, post, hlines, -⟩ := h
  have hmem : ("[" ++ key ++ "]").toList ∈ lines out.toList := by
    rw [hlines]
    exact List.mem_map_of_mem (by simp)
  have hread : ∀ ls : List String, (∀ l ∈ ls, OneLine l) → out = linesText ls →
      "[" ++ key ++ "]" ∈ ls := by
    rintro ls hls rfl
    rw [lines_linesText hls, List.mem_map] at hmem
    obtain ⟨l, hl, heq⟩ := hmem
    exact String.toList_inj.mp heq ▸ hl
  unfold run at hrun
  simp only at hrun
  split_ifs at hrun
  · refine group_of_mem tr "" .default false (List.mem_append_left _
      (hread noSecretLines ?_ (Except.ok.inj hrun).symm))
    simp [noSecretLines, OneLine]
  · exact group_of_mem tr _ _ _ (List.mem_append_right _
      (hread _ (fun l hl ↦ oneLine_of_mem_euiLines tr hl) (Except.ok.inj hrun).symm))

end Dialog

end AuthDialog

end NmOpenvpn3
