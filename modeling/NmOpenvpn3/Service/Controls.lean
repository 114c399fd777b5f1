import NmOpenvpn3.Service.BuildProfile

/-!
# Control characters in a profile

A preserved route is emitted only without control characters, since a carriage return may end a line
for the parser behind the profile. Quoting does not stop them: of all control characters it replaces
the line feed only. So a control character of any value that a profile shows is in the profile, and
`noStray_profile_iff` says which values these are.

`Shows` relates calls of the writer to the keys whose values they show. It has a rule for each way
that calls are put together, so the keys of a whole profile are read off its blocks.
-/

namespace NmOpenvpn3

namespace Service

open Rust Ovpn ImportExport

/-! ## Stray characters -/

/-- A control character other than the line feed. -/
def isStray (c : Char) : Bool := isControl c && c != '\n'

/-- A text without stray characters. -/
def NoStray (l : List Char) : Prop := ∀ c ∈ l, isStray c = false

instance (l : List Char) : Decidable (NoStray l) := List.decidableBAll (isStray · = false) l

theorem noStray_nil : NoStray [] := fun _ h ↦ absurd h List.not_mem_nil

theorem noStray_append {l l' : List Char} : NoStray (l ++ l') ↔ NoStray l ∧ NoStray l' :=
  List.forall_mem_append

theorem noStray_cons {c : Char} {l : List Char} (hc : isStray c = false) :
    NoStray (c :: l) ↔ NoStray l := by
  rw [NoStray, List.forall_mem_cons]
  exact and_iff_right hc

theorem isStray_eq_false_of_isBenign {c : Char} (h : isBenign c = true) : isStray c = false := by
  simp only [isBenign, Bool.or_eq_true, beq_iff_eq] at h
  rcases h with (((h | rfl) | rfl) | rfl) | rfl
  · rw [isStray, isAsciiAlphanumeric_isControl h, Bool.false_and]
  all_goals decide

/-- Escaping replaces no stray character and adds none. -/
theorem noStray_escapeChar (c : Char) : NoStray (escapeChar c) ↔ isStray c = false := by
  rw [escapeChar]
  split_ifs with hlf hesc
  · subst hlf
    decide
  · rcases hesc with rfl | rfl <;> decide
  · simp [NoStray]

theorem noStray_flatMap_escapeChar (l : List Char) :
    NoStray (l.flatMap escapeChar) ↔ NoStray l := by
  induction l with
  | nil => exact Iff.rfl
  | cons c l ih =>
    rw [List.flatMap_cons, noStray_append, ih, noStray_escapeChar, NoStray, NoStray,
      List.forall_mem_cons]

theorem noStray_escapeArg (l : List Char) : NoStray (escapeArg l) ↔ NoStray l := by
  have hsingle : NoStray ['\''] := by decide
  have hdouble : NoStray ['"'] := by decide
  rw [escapeArg]
  split_ifs with hempty
  · rw [List.isEmpty_iff.mp hempty]
    decide
  · rfl
  · rw [List.cons_append, noStray_cons (by decide), noStray_append, noStray_flatMap_escapeChar,
      and_iff_left hdouble]
  · rw [List.cons_append, noStray_cons (by decide), noStray_append, and_iff_left hsingle]

theorem noStray_wordsLine (ws : List String) :
    NoStray (wordsLine ws) ↔ ∀ w ∈ ws, NoStray w.toList := by
  induction ws with
  | nil => simp [wordsLine, noStray_nil, List.intercalate]
  | cons w ws ih =>
    cases ws with
    | nil => simp [wordsLine, noStray_escapeArg]
    | cons w' ws =>
      rw [wordsLine, List.map_cons, List.map_cons, List.intercalate_cons_cons, List.append_assoc,
        noStray_append, noStray_escapeArg, List.singleton_append, noStray_cons (by decide),
        List.forall_mem_cons, ← ih, wordsLine, List.map_cons]

/-- What parses as an integer has no stray character. -/
theorem noStray_of_parseI64 {v : String} {n : ℤ} (h : parseI64 v = some n) :
    NoStray v.toList := by
  intro c hc
  rcases char_of_parseI64 h c hc with hd | rfl | rfl
  · refine isStray_eq_false_of_isBenign ?_
    have hrange : 48 ≤ c.toNat ∧ c.toNat ≤ 57 := by simpa using Char.isDigit_iff_toNat.mp hd
    simp [isBenign, isAsciiAlphanumeric, hrange]
  · decide
  · decide

/-- Taking a text apart at a character that is not stray keeps the stray ones in the parts. -/
theorem noStray_splitn {d : Char} (hd : isStray d = false) (n : ℕ) (l : List Char) :
    (∀ part ∈ splitn d (n + 1) l, NoStray part) ↔ NoStray l := by
  induction n generalizing l with
  | zero => simp [splitn]
  | succ n ih =>
    rw [splitn]
    cases hsplit : splitOnce d l with
    | none => simp
    | some p =>
      obtain ⟨a, b⟩ := p
      rw [(eq_append_of_splitOnce hsplit).2, noStray_append, noStray_cons hd, List.forall_mem_cons,
        ih]

theorem length_splitn_le (d : Char) (n : ℕ) (l : List Char) : (splitn d n l).length ≤ n := by
  induction n generalizing l with
  | zero => simp [splitn]
  | succ n ih =>
    cases n with
    | zero => simp [splitn]
    | succ n =>
      rw [splitn]
      cases splitOnce d l with
      | none => simp
      | some p => simpa using ih p.2

theorem noStray_nonEmptyPart (part : Option (List Char)) :
    (∀ a ∈ nonEmptyPart part, NoStray a.toList) ↔ ∀ l ∈ part, NoStray l := by
  cases part with
  | none => simp [nonEmptyPart]
  | some l =>
    cases l with
    | nil => simp [nonEmptyPart, Option.filter, noStray_nil]
    | cons c l => simp [nonEmptyPart, Option.filter]

/-- The parts of an entry together. -/
theorem noStray_splitRemote (gw : List Char) :
    (NoStray (splitRemote gw).1.toList ∧ (∀ a ∈ (splitRemote gw).2.1, NoStray a.toList) ∧
      ∀ a ∈ (splitRemote gw).2.2, NoStray a.toList) ↔ NoStray gw := by
  rw [splitRemote]
  cases hopen : (stripPrefix ['['] gw).bind (splitOnce ']') with
  | none =>
    have hlen := length_splitn_le ':' 3 gw
    simp only [String.toList_ofList, noStray_nonEmptyPart]
    rw [← noStray_splitn (d := ':') (by decide) 2 gw]
    rcases hparts : splitn ':' 3 gw with _ | ⟨a, _ | ⟨b, _ | ⟨c, _ | ⟨d, rest⟩⟩⟩⟩
    · simp [noStray_nil]
    · simp
    · simp
    · simp
    · rw [hparts, List.length_cons, List.length_cons, List.length_cons, List.length_cons] at hlen
      omega
  | some p =>
    obtain ⟨host, tail⟩ := p
    obtain ⟨inner, hstrip, hclose⟩ := Option.bind_eq_some_iff.mp hopen
    have htail : NoStray ((stripPrefix [':'] tail).getD tail) ↔ NoStray tail := by
      cases hcolon : stripPrefix [':'] tail with
      | none => rfl
      | some t =>
        rw [stripPrefix_eq_some.mp hcolon, List.singleton_append, noStray_cons (by decide),
          Option.getD_some]
    have hlen := length_splitn_le ':' 2 ((stripPrefix [':'] tail).getD tail)
    simp only [String.toList_ofList, noStray_nonEmptyPart]
    rw [stripPrefix_eq_some.mp hstrip, (eq_append_of_splitOnce hclose).2, List.singleton_append,
      noStray_cons (by decide), noStray_append, noStray_cons (by decide), ← htail,
      ← noStray_splitn (d := ':') (by decide) 1
        ((stripPrefix [':'] tail).getD tail)]
    rcases hparts : splitn ':' 2 ((stripPrefix [':'] tail).getD tail) with
      _ | ⟨a, _ | ⟨b, _ | ⟨c, rest⟩⟩⟩
    · simp
    · simp
    · simp
    · rw [hparts, List.length_cons, List.length_cons, List.length_cons] at hlen
      omega

theorem noStray_remoteArgs (gw : List Char) :
    (∀ a ∈ remoteArgs gw, NoStray a.toList) ↔ NoStray gw := by
  have hport : NoStray ['1', '1', '9', '4'] := by decide
  rw [← noStray_splitRemote, remoteArgs]
  rcases splitRemote gw with ⟨host, _ | port, _ | proto⟩ <;> simp [hport]

theorem noStray_verifyX509Args (v : String) :
    (∀ a ∈ verifyX509Args v, NoStray a.toList) ↔ NoStray v.toList := by
  rw [verifyX509Args]
  cases hsplit : splitOnce ':' v.toList with
  | none => simp
  | some p =>
    obtain ⟨ty, name⟩ := p
    simp only
    split_ifs
    · rw [(eq_append_of_splitOnce hsplit).2, noStray_append, noStray_cons (by decide)]
      simp [and_comm]
    · simp

/-! ## Calls that show keys -/

/-- Calls whose lines have no stray characters. -/
def NoStrayCalls (calls : List WriterCall) : Prop := ∀ call ∈ calls, NoStray call.text

/-- A value without stray characters, if it is set. -/
def NoStrayAt (data : VpnData) (k : String) : Prop := ∀ v, get data k = some v → NoStray v.toList

instance (data : VpnData) (k : String) : Decidable (NoStrayAt data k) :=
  inferInstanceAs (Decidable (∀ v ∈ get data k, NoStray v.toList))

/-- Keys that are listed on a condition. -/
def keysIf (b : Bool) (keys : List String) : List String := if b then keys else []

/-- The calls have a stray character exactly when the value of one of the keys has. -/
def Shows (data : VpnData) (calls : List WriterCall) (keys : List String) : Prop :=
  NoStrayCalls calls ↔ ∀ k ∈ keys, NoStrayAt data k

section Rules

variable {data : VpnData}

theorem noStrayCalls_nil : NoStrayCalls [] := fun _ h ↦ absurd h List.not_mem_nil

theorem shows_of_noStrayCalls {calls : List WriterCall} (h : NoStrayCalls calls) :
    Shows data calls [] :=
  iff_of_true h fun _ hk ↦ absurd hk List.not_mem_nil

theorem noStrayCalls_append {calls calls' : List WriterCall} :
    NoStrayCalls (calls ++ calls') ↔ NoStrayCalls calls ∧ NoStrayCalls calls' :=
  List.forall_mem_append

theorem Shows.append {calls calls' : List WriterCall} {keys keys' : List String}
    (h : Shows data calls keys) (h' : Shows data calls' keys') :
    Shows data (calls ++ calls') (keys ++ keys') := by
  rw [Shows, noStrayCalls_append, List.forall_mem_append]
  exact and_congr h h'

theorem Shows.callsIf {calls : List WriterCall} {keys : List String} (b : Bool)
    (h : Shows data calls keys) : Shows data (callsIf b calls) (keysIf b keys) := by
  cases b with
  | true => exact h
  | false => exact shows_of_noStrayCalls noStrayCalls_nil

theorem Shows.flatten {blocks : List (List WriterCall)} {keys : List (List String)}
    (h : List.Forall₂ (Shows data) blocks keys) : Shows data blocks.flatten keys.flatten := by
  induction h with
  | nil => exact shows_of_noStrayCalls noStrayCalls_nil
  | cons hd _ ih => exact hd.append ih

theorem noStray_line {tag : String} (htag : NoStray tag.toList) (args : List String) :
    NoStray (WriterCall.line (tag :: args)).text ↔ ∀ a ∈ args, NoStray a.toList := by
  rw [WriterCall.text, noStray_wordsLine, List.forall_mem_cons, and_iff_right htag]

theorem noStrayCalls_singleton {call : WriterCall} :
    NoStrayCalls [call] ↔ NoStray call.text := List.forall_mem_singleton

/-- A line behind the value of a key that decides whether there is a line. -/
theorem noStrayCalls_lineOpt {tag : String} (htag : NoStray tag.toList) (value : Option String)
    (rest : List String) : NoStrayCalls (lineOpt tag value rest) ↔
      ∀ v, value = some v → NoStray v.toList ∧ ∀ a ∈ rest, NoStray a.toList := by
  cases value with
  | none => simp [lineOpt, NoStrayCalls]
  | some v => simp [lineOpt, NoStrayCalls, noStray_line htag]

theorem shows_lineOpt {tag : String} (htag : NoStray tag.toList) {rest : List String}
    (hrest : ∀ a ∈ rest, NoStray a.toList) (k : String) :
    Shows data (lineOpt tag (get data k) rest) [k] := by
  rw [Shows, noStrayCalls_lineOpt htag, List.forall_mem_singleton, NoStrayAt]
  exact forall₂_congr fun v _ ↦ and_iff_left hrest

theorem shows_lineStr {tag : String} (htag : NoStray tag.toList) (k : String) :
    Shows data (lineStr tag (get data k)) [k] :=
  shows_lineOpt htag (fun _ h ↦ absurd h List.not_mem_nil) k

/-- A line with the value of a second key behind that of the first. -/
theorem shows_lineOpt_toList {tag : String} (htag : NoStray tag.toList) (k k' : String) :
    Shows data (lineOpt tag (get data k) (get data k').toList)
      (keysIf (get data k).isSome [k, k']) := by
  rw [Shows, noStrayCalls_lineOpt htag]
  cases hk : get data k <;> simp [keysIf, NoStrayAt, hk]

theorem shows_lineInt {tag : String} (htag : NoStray tag.toList) (value : Option String) :
    Shows data (lineInt tag value) [] := by
  refine shows_of_noStrayCalls ((noStrayCalls_lineOpt htag _ _).mpr fun v hv ↦ ?_)
  obtain ⟨n, hn⟩ := Option.isSome_iff_exists.mp (Option.filter_eq_some_iff.mp hv).2
  exact ⟨noStray_of_parseI64 hn, fun _ h ↦ absurd h List.not_mem_nil⟩

theorem shows_lineFlag {tag : String} (htag : NoStray tag.toList) (b : Bool) :
    Shows data (lineFlag tag b) [] := by
  refine shows_of_noStrayCalls fun call hcall ↦ ?_
  rw [lineFlag, List.mem_ite_nil_right, List.mem_singleton] at hcall
  rw [hcall.2, noStray_line htag]
  exact fun _ h ↦ absurd h List.not_mem_nil

end Rules

/-! ## The keys that a profile shows -/

/-- The keys of the certificates. A bundle is shown once, without the authority. -/
def certKeys (data : VpnData) : List String :=
  if pkcs12CollapseConnect (userCertValue data "cert") (userCertValue data "key") then ["cert"]
  else keysIf (isTlsLike (get data "connection-type")) ["ca"] ++
    keysIf (needsUserCert (get data "connection-type")) ["cert", "key"]

/-- The keys behind the TLS gate. -/
def tlsKeys (data : VpnData) : List String :=
  ["remote-cert-tls", "ns-cert-type", "tls-remote", "verify-x509-name"] ++
    keysIf (get data "ta").isSome ["ta", "ta-dir"] ++
    ["tls-crypt", "tls-crypt-v2", "tls-version-min", "tls-version-max", "extra-certs"]

/-- The keys of a proxy of one of the two types. -/
def proxyKeys (data : VpnData) : List String :=
  keysIf ((get data "proxy-type" = some "http" ∨ get data "proxy-type" = some "socks") ∧
    (get data "proxy-server").isSome) ["proxy-server", "proxy-port"]

/-- The keys whose values stand in a profile, besides the remote list. -/
def shownKeys (data : VpnData) : List String :=
  certKeys data ++
  keysIf (get data "connection-type" = some "static-key")
    (keysIf (get data "static-key").isSome ["static-key", "static-key-direction"]) ++
  ["cipher", "data-ciphers", "data-ciphers-fallback", "tls-cipher", "auth", "allow-compression"] ++
  keysIf (get data "allow-compression" ≠ some "no") ["comp-lzo", "compress"] ++
  ["mtu-disc"] ++
  keysIf (isTlsLike (get data "connection-type"))
    [if (get data "crl-verify-file").isSome then "crl-verify-file" else "crl-verify-dir"] ++
  [if (get data "dev").isSome then "dev" else "dev-type", "dev-type"] ++
  keysIf ((get data "local-ip").isSome && (get data "remote-ip").isSome)
    ["local-ip", "remote-ip"] ++
  keysIf (isTlsLike (get data "connection-type")) (tlsKeys data) ++
  proxyKeys data

section Blocks

variable (data : VpnData)

theorem shows_certCalls : Shows data (certCalls data) (certKeys data) := by
  -- Each of the three is read on a condition on the type.
  have hif {tag : String} (htag : NoStray tag.toList) (b : Bool) (k : String) :
      Shows data (lineStr tag (if b then get data k else none)) (keysIf b [k]) := by
    cases b with
    | true => exact shows_lineStr htag k
    | false => exact shows_of_noStrayCalls noStrayCalls_nil
  rw [certCalls, certKeys]
  cases hbundle : pkcs12CollapseConnect (userCertValue data "cert") (userCertValue data "key") with
  | true =>
    obtain ⟨p, hp⟩ : ∃ p, userCertValue data "cert" = some p := by
      cases hcert : userCertValue data "cert" with
      | none => simp [hcert, pkcs12CollapseConnect] at hbundle
      | some p => exact ⟨p, rfl⟩
    have hpkcs12 : NoStray "pkcs12".toList := by decide
    simp [Shows, hp, noStrayCalls_singleton, noStray_line hpkcs12, NoStrayAt,
      (userCertValue_eq_some.mp hp).2]
  | false =>
    have hkeys : keysIf (needsUserCert (get data "connection-type")) ["cert", "key"] =
        keysIf (needsUserCert (get data "connection-type")) ["cert"] ++
          keysIf (needsUserCert (get data "connection-type")) ["key"] := by
      cases needsUserCert (get data "connection-type") <;> rfl
    rw [hkeys, ← List.append_assoc]
    exact ((hif (by decide) _ "ca").append (hif (by decide) _ "cert")).append
      (hif (by decide) _ "key")

theorem shows_compressionCalls : Shows data (compressionCalls data)
    (keysIf (get data "allow-compression" ≠ some "no") ["comp-lzo", "compress"]) := by
  have hlzo : NoStray "comp-lzo".toList := by decide
  have hcompress : NoStray "compress".toList := by decide
  have hwire : ∀ v, NoStray (compLzoWire v).toList ↔ NoStray v.toList := by
    intro v
    rw [compLzoWire]
    split_ifs with hv
    · rw [hv]
      decide
    · rfl
  have h1 : Shows data (lineStr "comp-lzo" ((get data "comp-lzo").map compLzoWire))
      ["comp-lzo"] := by
    rw [Shows, lineStr, noStrayCalls_lineOpt hlzo]
    cases hv : get data "comp-lzo" <;> simp [NoStrayAt, hv, hwire]
  have h2 : Shows data ((get data "compress").toList.map fun v ↦
      .line ("compress" :: if v = "yes" then [] else [v])) ["compress"] := by
    have hyes : NoStray "yes".toList := by decide
    cases hv : get data "compress" with
    | none => simp [Shows, NoStrayCalls, NoStrayAt, hv]
    | some v =>
      rw [Option.toList_some, List.map_singleton, Shows, noStrayCalls_singleton,
        noStray_line hcompress, List.forall_mem_singleton]
      split_ifs with hv'
      · simp only [List.not_mem_nil, false_imp_iff, implies_true, true_iff]
        rintro w hw
        obtain rfl : v = w := Option.some_inj.mp (hv.symm.trans hw)
        rwa [hv']
      · simp [NoStrayAt, hv]
  exact (h1.append h2).callsIf _

theorem shows_mssfixCalls : Shows data (mssfixCalls data) [] := by
  have htag : NoStray "mssfix".toList := by decide
  refine shows_of_noStrayCalls ?_
  rw [mssfixCalls]
  split
  · exact noStrayCalls_nil
  · split_ifs
    · simp [noStrayCalls_singleton, noStray_line htag]
    · split
      · rename_i n hn
        rw [noStrayCalls_singleton, noStray_line htag, List.forall_mem_singleton]
        exact noStray_of_parseI64 (parseI64_toString (isI64_of_parseI64 hn))
      · exact noStrayCalls_nil

theorem shows_crlVerifyCalls : Shows data (crlVerifyCalls data)
    [if (get data "crl-verify-file").isSome then "crl-verify-file" else "crl-verify-dir"] := by
  have htag : NoStray "crl-verify".toList := by decide
  have hdir : NoStray "dir".toList := by decide
  rw [crlVerifyCalls]
  cases hfile : get data "crl-verify-file" with
  | some file => simp [Shows, noStrayCalls_singleton, noStray_line htag, NoStrayAt, hfile]
  | none =>
    cases hv : get data "crl-verify-dir" with
    | none => simp [Shows, NoStrayCalls, NoStrayAt, hv]
    | some dir =>
      simp only [Shows, noStrayCalls_singleton, noStray_line htag, List.forall_mem_cons, hdir]
      simp [NoStrayAt, hv]

theorem shows_dev : Shows data [.line ["dev", chosenDev data]]
    [if (get data "dev").isSome then "dev" else "dev-type"] := by
  have htag : NoStray "dev".toList := by decide
  have hdefault : NoStray (if get data "tap-dev" = some "yes" then "tap" else "tun").toList := by
    split_ifs <;> decide
  rw [Shows, noStrayCalls_singleton, noStray_line htag, List.forall_mem_singleton, chosenDev]
  cases hdev : get data "dev" with
  | some dev => simp [NoStrayAt, hdev]
  | none =>
    cases htype : get data "dev-type" with
    | some type => simp [NoStrayAt, htype]
    | none => simpa [NoStrayAt, htype] using hdefault

theorem shows_ifconfigCalls : Shows data (ifconfigCalls data)
    (keysIf ((get data "local-ip").isSome && (get data "remote-ip").isSome)
      ["local-ip", "remote-ip"]) := by
  have htag : NoStray "ifconfig".toList := by decide
  rw [ifconfigCalls]
  cases hl : get data "local-ip" with
  | none => exact shows_of_noStrayCalls noStrayCalls_nil
  | some l =>
    cases hr : get data "remote-ip" with
    | none => exact shows_of_noStrayCalls noStrayCalls_nil
    | some r => simp [Shows, keysIf, noStrayCalls_singleton, noStray_line htag, NoStrayAt, hl, hr]

theorem shows_routeCalls : Shows data (routeCalls data) [] := by
  refine shows_of_noStrayCalls fun call hcall ↦ ?_
  obtain ⟨routes, line, rfl, hline⟩ := exists_safeRouteLine_of_mem_routeCalls hcall
  intro c hc
  rw [isStray, (of_mem_safeRouteLines hline).2.2 c hc, Bool.false_and]

theorem shows_tlsCalls : Shows data (tlsCalls data) (tlsKeys data) := by
  have hx509 : Shows data ((get data "verify-x509-name").toList.map fun x509 ↦
      .line ("verify-x509-name" :: verifyX509Args x509)) ["verify-x509-name"] := by
    have htag : NoStray "verify-x509-name".toList := by decide
    cases hv : get data "verify-x509-name" with
    | none => simp [Shows, NoStrayCalls, NoStrayAt, hv]
    | some v =>
      rw [Option.toList_some, List.map_singleton, Shows, noStrayCalls_singleton, noStray_line htag,
        noStray_verifyX509Args]
      simp [NoStrayAt, hv]
  have hrest : ∀ a ∈ (if get data "tls-version-min-or-highest" = some "yes" then ["or-highest"]
      else []), NoStray a.toList := by
    split_ifs
    · simp only [List.forall_mem_singleton]
      decide
    · exact fun _ h ↦ absurd h List.not_mem_nil
  have hkeys : tlsKeys data = List.flatten
      [["remote-cert-tls"], ["ns-cert-type"], ["tls-remote"], ["verify-x509-name"],
        keysIf (get data "ta").isSome ["ta", "ta-dir"], ["tls-crypt"], ["tls-crypt-v2"],
        ["tls-version-min"], ["tls-version-max"], ["extra-certs"]] := by
    simp [tlsKeys]
  rw [hkeys]
  refine .flatten ?_
  simp only [List.forall₂_cons]
  exact
    ⟨shows_lineStr (by decide) _,
     shows_lineStr (by decide) _,
     shows_lineStr (by decide) _,
     hx509,
     shows_lineOpt_toList (by decide) _ _,
     shows_lineStr (by decide) _,
     shows_lineStr (by decide) _,
     shows_lineOpt (by decide) hrest _,
     shows_lineStr (by decide) _,
     shows_lineStr (by decide) _,
     .nil⟩

theorem shows_proxyCalls : Shows data (proxyCalls data) (proxyKeys data) := by
  -- Both types write the server, the port or its default, and a flag.
  have hproxy {tag retry default : String} (htag : NoStray tag.toList)
      (hretry : NoStray retry.toList) (hdefault : NoStray default.toList) {server : String}
      (hserver : get data "proxy-server" = some server) (b : Bool) :
      Shows data (.line [tag, server, (get data "proxy-port").getD default] :: lineFlag retry b)
        ["proxy-server", "proxy-port"] := by
    have hline : Shows data [.line [tag, server, (get data "proxy-port").getD default]]
        ["proxy-server", "proxy-port"] := by
      rw [Shows, noStrayCalls_singleton, noStray_line htag]
      cases hport : get data "proxy-port" <;> simp [NoStrayAt, hserver, hport, hdefault]
    exact hline.append (shows_lineFlag hretry b)
  rw [proxyCalls, proxyKeys]
  cases htype : get data "proxy-type" with
  | none => exact shows_of_noStrayCalls noStrayCalls_nil
  | some pt =>
    cases hserver : get data "proxy-server" with
    | none => simpa [keysIf] using shows_of_noStrayCalls noStrayCalls_nil
    | some server =>
      by_cases hhttp : pt = "http"
      · subst hhttp
        exact hproxy (by decide) (by decide) (by decide) hserver _
      by_cases hsocks : pt = "socks"
      · subst hsocks
        exact hproxy (by decide) (by decide) (by decide) hserver _
      · simpa [hhttp, hsocks, keysIf] using shows_of_noStrayCalls noStrayCalls_nil

/-- The calls between the remote list and the hard-coded end show the listed keys. -/
theorem shows_settingCalls : Shows data (settingCalls data) (shownKeys data) := by
  have hproto : NoStrayCalls [.line ["proto", protoValue data]] := by
    have htag : NoStray "proto".toList := by decide
    rw [noStrayCalls_singleton, noStray_line htag, List.forall_mem_singleton, protoValue]
    split_ifs <;> decide
  have hkeys : shownKeys data = List.flatten
      [[], [], [], [], [], certKeys data, [],
        keysIf (get data "connection-type" = some "static-key")
          (keysIf (get data "static-key").isSome ["static-key", "static-key-direction"]),
        [], [], ["cipher"], ["data-ciphers"], ["data-ciphers-fallback"], ["tls-cipher"], ["auth"],
        [], ["allow-compression"],
        keysIf (get data "allow-compression" ≠ some "no") ["comp-lzo", "compress"], [], [],
        ["mtu-disc"], [], [], [],
        keysIf (isTlsLike (get data "connection-type"))
          [if (get data "crl-verify-file").isSome then "crl-verify-file" else "crl-verify-dir"],
        [if (get data "dev").isSome then "dev" else "dev-type"], ["dev-type"], [], [], [], [], [],
        keysIf ((get data "local-ip").isSome && (get data "remote-ip").isSome)
          ["local-ip", "remote-ip"],
        [], keysIf (isTlsLike (get data "connection-type")) (tlsKeys data), proxyKeys data] := by
    simp [shownKeys]
  rw [hkeys]
  refine .flatten ?_
  simp only [List.forall₂_cons]
  exact
    ⟨shows_lineFlag (by decide) _,
     shows_lineFlag (by decide) _,
     shows_lineFlag (by decide) _,
     shows_lineFlag (by decide) _,
     shows_lineFlag (by decide) _,
     shows_certCalls data,
     shows_lineFlag (by decide) _,
     (shows_lineOpt_toList (by decide) _ _).callsIf _,
     shows_lineInt (by decide) _,
     shows_lineInt (by decide) _,
     shows_lineStr (by decide) _,
     shows_lineStr (by decide) _,
     shows_lineStr (by decide) _,
     shows_lineStr (by decide) _,
     shows_lineStr (by decide) _,
     shows_lineInt (by decide) _,
     shows_lineStr (by decide) _,
     shows_compressionCalls data,
     shows_lineFlag (by decide) _,
     shows_mssfixCalls data,
     shows_lineStr (by decide) _,
     shows_lineInt (by decide) _,
     shows_lineInt (by decide) _,
     shows_lineInt (by decide) _,
     (shows_crlVerifyCalls data).callsIf _,
     shows_dev data,
     shows_lineStr (by decide) _,
     shows_of_noStrayCalls hproto,
     shows_lineInt (by decide) _,
     shows_lineInt (by decide) _,
     shows_lineInt (by decide) _,
     shows_lineInt (by decide) _,
     shows_ifconfigCalls data,
     shows_routeCalls data,
     (shows_tlsCalls data).callsIf _,
     shows_proxyCalls data,
     .nil⟩

theorem noStray_writeAll (calls : List WriterCall) :
    NoStray (writeAll calls).toList ↔ NoStrayCalls calls := by
  have hlf : NoStray ['\n'] := by decide
  rw [writeAll, String.toList_ofList]
  induction calls with
  | nil => exact iff_of_true noStray_nil noStrayCalls_nil
  | cons call calls ih =>
    rw [List.flatMap_cons, noStray_append, noStray_append, and_iff_left hlf, NoStrayCalls,
      List.forall_mem_cons]
    exact and_congr_right fun _ ↦ ih

/-- The remote lines are as clean as the trimmed pieces of the list. -/
theorem noStrayCalls_remoteCalls (remotes : String) : NoStrayCalls (remoteCalls remotes) ↔
    ∀ piece ∈ remotes.toList.splitOnP isRemoteSep, NoStray (trim piece) := by
  have htag : NoStray "remote".toList := by decide
  have hline : ∀ gw, NoStray (WriterCall.line ("remote" :: remoteArgs gw)).text ↔ NoStray gw :=
    fun gw ↦ by rw [noStray_line htag, noStray_remoteArgs]
  rw [NoStrayCalls, remoteCalls, List.forall_mem_map, remoteEntries]
  simp only [hline, List.mem_filter, List.mem_map, Bool.not_eq_eq_eq_not, Bool.not_true]
  constructor
  · intro h piece hpiece
    cases hempty : (trim piece).isEmpty with
    | true =>
      rw [List.isEmpty_iff.mp hempty]
      exact noStray_nil
    | false => exact h _ ⟨⟨piece, hpiece, rfl⟩, hempty⟩
  · rintro h gw ⟨⟨piece, hpiece, rfl⟩, -⟩
    exact h piece hpiece

end Blocks

/-- **A profile has no control character besides its line feeds exactly when** the values that it
shows have none: the entries of the remote list, and the keys of `shownKeys`. -/
theorem noStray_profile_iff {data : VpnData} {profile : String}
    (h : buildProfileString data = .ok profile) : NoStray profile.toList ↔
      (∀ remotes, data "remote" = some remotes →
        ∀ piece ∈ remotes.toList.splitOnP isRemoteSep, NoStray (trim piece)) ∧
      ∀ k ∈ shownKeys data, NoStrayAt data k := by
  obtain ⟨calls, hcalls, rfl⟩ := buildProfileString_eq_ok h
  obtain ⟨remotes, hremotes⟩ := exists_remote_of_writerCalls hcalls
  have hflag : Shows data (lineFlag "client" (isTlsLike (get data "connection-type"))) [] :=
    shows_lineFlag (by decide) _
  have hclient : NoStrayCalls (lineFlag "client" (isTlsLike (get data "connection-type"))) :=
    hflag.mpr fun _ hk ↦ absurd hk List.not_mem_nil
  have htail : NoStrayCalls tailCalls := by
    rw [← noStray_writeAll]
    decide
  rw [writerCalls, hremotes] at hcalls
  obtain rfl := Except.ok.inj hcalls
  rw [noStray_writeAll, noStrayCalls_append, noStrayCalls_append, noStrayCalls_append,
    and_iff_left htail, and_iff_right hclient]
  refine and_congr ((noStrayCalls_remoteCalls remotes).trans ?_) (shows_settingCalls data)
  simp [(get_eq_some.mp hremotes).1]

/-- Carriage returns that are trimmed, or stand in a key that the type does not use. -/
private def hiddenStrays : VpnData := Dict.ofList
  [("remote", "gw:1194\r"), ("connection-type", "password"), ("cert", "x\ry"), ("ca", "ca.pem")]

theorem noStray_hiddenStrays : ∃ profile, buildProfileString hiddenStrays = .ok profile ∧
    NoStray profile.toList := by
  have hprofile : buildProfileString hiddenStrays =
      .ok (writeAll ((writerCalls hiddenStrays).toOption.getD [])) := by rfl
  refine ⟨_, hprofile, (noStray_profile_iff hprofile).mpr ⟨?_, by decide⟩⟩
  intro remotes hremotes
  obtain rfl : "gw:1194\r" = remotes := Option.some_inj.mp hremotes
  decide

/-- A carriage return in the name of a cipher. -/
private def strayCipher : VpnData := Dict.ofList [("remote", "gw"), ("cipher", "AES-128-CBC\rup x")]

theorem not_noStray_profile : ¬ ∀ data profile, buildProfileString data = .ok profile →
    NoStray profile.toList := by
  intro h
  have hprofile : buildProfileString strayCipher =
      .ok (writeAll ((writerCalls strayCipher).toOption.getD [])) := by rfl
  have hkey := ((noStray_profile_iff hprofile).mp (h _ _ hprofile)).2 "cipher" (by decide) _ rfl
  exact absurd hkey (by decide)

end Service

end NmOpenvpn3
