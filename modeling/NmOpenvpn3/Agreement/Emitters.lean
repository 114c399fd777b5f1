import NmOpenvpn3.Service.BuildProfile
import Mathlib.Data.List.Perm.Basic

/-!
# The two emitters agree

The service and the exporter write the same `vpn.data` with separate code. Compared block by block
they differ in three places only: the connect path drops integers that do not parse, prints `mssfix`
again, and ignores the CA when it looks for a PKCS#12 bundle. The two lists of directives are
permutations of each other exactly where none of these three matters (`directives_perm_iff`), and
since validation looks at one directive at a time, the two texts are then accepted or rejected
together (`emitters_agree`).
-/

namespace NmOpenvpn3

namespace Agreement

open Rust Ovpn ImportExport Service

/-! ## Where the emitters differ -/

/-- The keys that the connect path treats as integers. -/
def intKeys : List String :=
  ["reneg-seconds", "max-routes", "keysize", "tunnel-mtu", "connect-timeout", "fragment-size",
    "port", "ping", "ping-exit", "ping-restart"]

/-- Every integer key that is set holds what an `i64` prints, and so does `mssfix` unless it is
`yes`. -/
structure CanonicalInts (data : VpnData) : Prop where
  keys : ∀ k ∈ intKeys, ∀ v, get data k = some v → IsCanonicalI64 v
  mssfix : ∀ v, get data "mssfix" = some v → v = "yes" ∨ IsCanonicalI64 v

/-- The PKCS#12 edge: a certificate and key in one bundle, with a CA that is not that bundle. -/
def Pkcs12Edge (data : VpnData) : Prop :=
  (get data "connection-type" = some "tls" ∨ get data "connection-type" = some "password-tls") ∧
    ∃ p, get data "cert" = some p ∧ get data "key" = some p ∧ isPkcs12Path p = true ∧
      get data "ca" ≠ some p

/-- The connect path writes every integer as the exporter does: it parses, and `mssfix` is what
would be printed. -/
structure IntsKept (data : VpnData) : Prop where
  keys : ∀ k ∈ intKeys, ∀ v, get data k = some v → (parseI64 v).isSome
  mssfix : ∀ v, get data "mssfix" = some v → v = "yes" ∨ ∃ n, parseI64 v = some n ∧ toString n = v

theorem CanonicalInts.intsKept {data : VpnData} (h : CanonicalInts data) : IntsKept data where
  keys k hk v hv := by
    obtain ⟨n, hn, -⟩ := (h.keys k hk v hv).exists_parse
    rw [hn]
    rfl
  mssfix v hv := (h.mssfix v hv).imp_right IsCanonicalI64.exists_parse

theorem IntsKept.intValue_eq {data : VpnData} (h : IntsKept data) {k : String}
    (hk : k ∈ intKeys) : intValue (get data k) = get data k := by
  cases hv : get data k with
  | none => rfl
  | some v => rw [intValue, Option.filter_some, if_pos (h.keys k hk v hv)]

theorem IntsKept.mssfix_eq {data : VpnData} (h : IntsKept data) :
    mssfixDirectivesConnect data = optYes "mssfix" (get data "mssfix") := by
  rw [mssfixDirectivesConnect, mssfixCalls]
  cases hv : get data "mssfix" with
  | none => rfl
  | some v =>
    by_cases hy : v = "yes"
    · subst hy
      rfl
    · obtain ⟨n, hn, hs⟩ := (h.mssfix v hv).resolve_left hy
      simp only [if_neg hy, hn, hs]
      simp only [optYes, Option.toList_some, List.map_cons, List.map_nil, if_neg hy]
      rfl

theorem pkcs12CollapseConnect_iff {cert key : Option String} :
    pkcs12CollapseConnect cert key = true ↔
      ∃ p, cert = some p ∧ key = some p ∧ isPkcs12Path p = true := by
  cases cert with
  | none => simp [pkcs12CollapseConnect]
  | some c =>
    cases key with
    | none => simp [pkcs12CollapseConnect]
    | some k =>
      simp only [pkcs12CollapseConnect, Bool.and_eq_true, beq_iff_eq, Option.some.injEq]
      constructor
      · rintro ⟨rfl, hp⟩
        exact ⟨c, rfl, rfl, hp⟩
      · rintro ⟨p, rfl, rfl, hp⟩
        exact ⟨rfl, hp⟩

/-- The collapse conditions differ exactly on the edge. -/
theorem pkcs12Edge_iff (data : VpnData) : Pkcs12Edge data ↔
    pkcs12CollapseConnect (userCertValue data "cert") (userCertValue data "key") = true ∧
      pkcs12Collapse (caValue data) (userCertValue data "cert") (userCertValue data "key") =
        false := by
  rw [← Bool.not_eq_true, pkcs12CollapseConnect_iff, pkcs12Collapse_iff, Pkcs12Edge,
    ← needsUserCert_iff]
  constructor
  · rintro ⟨hu, p, hc, hk, hp, hca⟩
    refine ⟨⟨p, userCertValue_eq_some.mpr ⟨hu, hc⟩, userCertValue_eq_some.mpr ⟨hu, hk⟩, hp⟩, ?_⟩
    rintro ⟨q, hq, hcq, -, -⟩
    obtain rfl : p = q := Option.some_inj.mp (hc.symm.trans (userCertValue_eq_some.mp hcq).2)
    rw [caValue, if_pos (isTlsLike_of_needsUserCert hu)] at hq
    exact hca hq
  · rintro ⟨⟨p, hc, hk, hp⟩, hno⟩
    obtain ⟨hu, hc'⟩ := userCertValue_eq_some.mp hc
    refine ⟨hu, p, hc', (userCertValue_eq_some.mp hk).2, hp, fun hca ↦ hno ⟨p, ?_, hc, hk, hp⟩⟩
    rw [caValue, if_pos (isTlsLike_of_needsUserCert hu), hca]

/-- Off the edge the certificates are the same. -/
theorem certDirectivesConnect_eq {data : VpnData} (h : ¬Pkcs12Edge data) :
    certDirectivesConnect data = certDirectives data := by
  rw [certDirectivesConnect, certDirectives]
  by_cases hc : pkcs12CollapseConnect (userCertValue data "cert") (userCertValue data "key") = true
  · have hx : pkcs12Collapse (caValue data) (userCertValue data "cert")
        (userCertValue data "key") = true := by
      by_contra hx
      exact h ((pkcs12Edge_iff data).mpr ⟨hc, eq_false_of_ne_true hx⟩)
    simp only [if_pos hc, if_pos hx]
  · have hx : ¬pkcs12Collapse (caValue data) (userCertValue data "cert")
        (userCertValue data "key") = true := by
      rw [pkcs12Collapse_iff]
      rw [pkcs12CollapseConnect_iff] at hc
      rintro ⟨p, -, hcert, hkey, hp⟩
      exact hc ⟨p, hcert, hkey, hp⟩
    simp only [if_neg hc, if_neg hx]

/-! ## Agreement -/

theorem writerCalls_of_remote {data : VpnData} {gateways : String}
    (h : get data "remote" = some gateways) : ∃ calls, writerCalls data = .ok calls ∧
      calls.map WriterCall.directive =
        optFlag "client" (isTlsLike (get data "connection-type")) ++ remoteDirectives data ++
          (settingCalls data).map WriterCall.directive ++ tailDirectives := by
  refine ⟨_, by rw [writerCalls, h], ?_⟩
  rw [List.map_append, List.map_append, List.map_append, map_directive_lineFlag,
    map_directive_remoteCalls data h]
  rfl

/-- The integer keys with their options. -/
def intPairs : List (String × String) :=
  [("reneg-seconds", "reneg-sec"), ("max-routes", "max-routes"), ("keysize", "keysize"),
    ("tunnel-mtu", "tun-mtu"), ("connect-timeout", "connect-timeout"),
    ("fragment-size", "fragment"), ("port", "port"), ("ping", "ping"), ("ping-exit", "ping-exit"),
    ("ping-restart", "ping-restart")]

/-- The blocks that the connect path writes in its own way. -/
def connectOwn (data : VpnData) : List Directive :=
  certDirectivesConnect data ++
    (intPairs.flatMap fun p ↦ optStr p.2 (intValue (get data p.1))) ++ mssfixDirectivesConnect data

/-- The same blocks as the exporter writes them. -/
def exportOwn (data : VpnData) : List Directive :=
  certDirectives data ++ pairDirectives data intPairs ++ optYes "mssfix" (get data "mssfix")

/-- The blocks that both emitters write. -/
def commonDirectives (data : VpnData) : List Directive :=
  let tls := isTlsLike (get data "connection-type")
  List.flatten
    [optFlag "client" tls,
     remoteDirectives data,
     optFlag "remote-random" (isYes data "remote-random"),
     optFlag "remote-random-hostname" (isYes data "remote-random-hostname"),
     optFlag "allow-pull-fqdn" (isYes data "allow-pull-fqdn"),
     optFlag "tun-ipv6" (isYes data "tun-ipv6"),
     optFlag "push-peer-info" (isYes data "push-peer-info"),
     optFlag "auth-user-pass" (isPasswordLike (get data "connection-type")),
     secretDirectives data,
     optStr "cipher" (get data "cipher"),
     optStr "data-ciphers" (get data "data-ciphers"),
     optStr "data-ciphers-fallback" (get data "data-ciphers-fallback"),
     optStr "tls-cipher" (get data "tls-cipher"),
     optStr "auth" (get data "auth"),
     optStr "allow-compression" (get data "allow-compression"),
     compressionDirectives data,
     optFlag "float" (isYes data "float"),
     optStr "mtu-disc" (get data "mtu-disc"),
     ifconfigDirectives data,
     routeDirectives data,
     gated tls (verifyX509Directives data),
     gated tls (optArgs "tls-auth" (get data "ta") (get data "ta-dir").toList),
     gated tls (optStr "tls-crypt" (get data "tls-crypt")),
     gated tls (optStr "tls-crypt-v2" (get data "tls-crypt-v2")),
     gated tls (tlsVersionMinDirectives data),
     gated tls (pairDirectives data tlsPairs),
     gated tls (crlVerifyDirectives data),
     [.option "dev" [chosenDev data]],
     optStr "dev-type" (get data "dev-type"),
     [.option "proto" [protoValue data]],
     proxyDirectives data,
     tailDirectives]

/-- The exporter's directives in another order: its own blocks, then the common ones. -/
theorem fromNmData_perm (data : VpnData) :
    (fromNmData data).directives.Perm (exportOwn data ++ commonDirectives data) := by
  -- The same blocks on both sides; how often a directive occurs does not depend on their order.
  refine List.perm_iff_count.mpr fun x ↦ ?_
  simp only [fromNmData, exportOwn, commonDirectives, pairDirectives, pairsStr, intPairs,
    List.flatMap_cons, List.flatMap_nil, List.flatten_cons, List.flatten_nil, List.count_append,
    List.count_nil]
  omega

/-- The connect path's directives in another order. -/
theorem writerCalls_perm {data : VpnData} {calls : List WriterCall}
    (hcalls : writerCalls data = .ok calls) :
    (calls.map WriterCall.directive).Perm (connectOwn data ++ commonDirectives data) := by
  obtain ⟨gateways, hg⟩ := exists_remote_of_writerCalls hcalls
  obtain ⟨calls', hcalls', hd⟩ := writerCalls_of_remote hg
  obtain rfl : calls = calls' := Except.ok.inj (hcalls.symm.trans hcalls')
  rw [hd, map_directive_settingCalls, map_directive_tlsCalls]
  refine List.perm_iff_count.mpr fun x ↦ ?_
  simp only [connectOwn, commonDirectives]
  cases isTlsLike (get data "connection-type") <;>
    simp only [gated, if_true, Bool.false_eq_true, if_false, pairDirectives, intPairs, tlsPairs,
      List.flatMap_cons, List.flatMap_nil, List.flatten_cons, List.flatten_nil, List.count_append,
      List.count_nil] <;>
    omega

theorem allTagged_certDirectivesConnect (data : VpnData) :
    AllTagged ["pkcs12", "ca", "cert", "key"] (certDirectivesConnect data) := by
  rw [certDirectivesConnect]
  split_ifs
  · exact allTagged_singleton (by decide) _
  · exact allTagged_append (allTagged_append (allTagged_optArgs (by decide) _ _)
      (allTagged_optArgs (by decide) _ _)) (allTagged_optArgs (by decide) _ _)

theorem allTagged_mssfixDirectivesConnect (data : VpnData) :
    AllTagged ["mssfix"] (mssfixDirectivesConnect data) := by
  intro x hx
  rw [mssfixDirectivesConnect, mssfixCalls] at hx
  split at hx
  · simp at hx
  · split_ifs at hx
    · exact allTagged_singleton (by decide) _ x hx
    · split at hx
      · exact allTagged_singleton (show "mssfix" ∈ _ by decide) _ x hx
      · simp at hx

/-- The tags that only the blocks of one's own use. -/
theorem mem_connectOwn {data : VpnData} {x : Directive} (h : x ∈ connectOwn data) :
    x ∈ certDirectivesConnect data ∧ IsTagged ["pkcs12", "ca", "cert", "key"] x ∨
      (∃ p ∈ intPairs, ∃ v, intValue (get data p.1) = some v ∧ x = .option p.2 [v]) ∨
      x ∈ mssfixDirectivesConnect data ∧ IsTagged ["mssfix"] x := by
  rw [connectOwn, List.mem_append, List.mem_append] at h
  rcases h with (h | h) | h
  · exact .inl ⟨h, allTagged_certDirectivesConnect data x h⟩
  · obtain ⟨p, hp, hx⟩ := List.mem_flatMap.mp h
    obtain ⟨v, hv, rfl⟩ := List.mem_map.mp hx
    exact .inr (.inl ⟨p, hp, v, Option.mem_toList.mp hv, rfl⟩)
  · exact .inr (.inr ⟨h, allTagged_mssfixDirectivesConnect data x h⟩)

/-- **The blocks of one's own are permutations of each other** exactly off the edge and where every
integer is kept. -/
theorem own_perm_iff (data : VpnData) :
    (connectOwn data).Perm (exportOwn data) ↔ ¬Pkcs12Edge data ∧ IntsKept data := by
  constructor
  · intro hperm
    have hmem : ∀ x ∈ exportOwn data, x ∈ connectOwn data := fun x hx ↦ hperm.mem_iff.mpr hx
    refine ⟨fun hedge ↦ ?_, ⟨fun k hk v hv ↦ ?_, fun v hv ↦ ?_⟩⟩
    · -- The exporter writes a `cert` line here, the connect path only a `pkcs12` line.
      obtain ⟨hc, hx⟩ := (pkcs12Edge_iff data).mp hedge
      obtain ⟨p, hcert, -, -⟩ := pkcs12CollapseConnect_iff.mp hc
      have hexport : .option "cert" [p] ∈ exportOwn data := by
        refine List.mem_append_left _ (List.mem_append_left _ ?_)
        rw [certDirectives, if_neg (by rw [hx]; decide)]
        simp [hcert, optStr, optArgs]
      rcases mem_connectOwn (hmem _ hexport) with ⟨h, -⟩ | ⟨q, hq, w, -, he⟩ | ⟨-, h⟩
      · rw [certDirectivesConnect] at h
        simp [hc] at h
      · exact absurd (Directive.option.inj he).1
          ((by decide : ∀ q ∈ intPairs, "cert" ≠ q.2) q hq)
      · exact absurd h.name_mem (by decide)
    · obtain ⟨p, hp, rfl⟩ : ∃ p ∈ intPairs, p.1 = k :=
        (by decide : ∀ k ∈ intKeys, ∃ p ∈ intPairs, p.1 = k) k hk
      have hexport : .option p.2 [v] ∈ exportOwn data := by
        refine List.mem_append_left _ (List.mem_append_right _ (List.mem_flatMap.mpr ⟨p, hp, ?_⟩))
        simp [hv, optStr, optArgs]
      have htags : ∀ p ∈ intPairs, p.2 ∉ ["pkcs12", "ca", "cert", "key"] ∧ p.2 ∉ ["mssfix"] ∧
          ∀ q ∈ intPairs, p.2 = q.2 → p.1 = q.1 := by decide
      obtain ⟨h1, h2, h3⟩ := htags p hp
      rcases mem_connectOwn (hmem _ hexport) with ⟨-, h⟩ | ⟨q, hq, w, hw, he⟩ | ⟨-, h⟩
      · exact absurd h.name_mem h1
      · obtain ⟨hname, -⟩ := Directive.option.inj he
        rw [← h3 q hq hname, hv, intValue, Option.filter_some] at hw
        split_ifs at hw with hparse
        exact hparse
      · exact absurd h.name_mem h2
    · by_cases hy : v = "yes"
      · exact .inl hy
      have hexport : .option "mssfix" [v] ∈ exportOwn data := by
        refine List.mem_append_right _ ?_
        simp [hv, optYes, hy]
      rcases mem_connectOwn (hmem _ hexport) with ⟨-, h⟩ | ⟨q, hq, w, -, he⟩ | ⟨h, -⟩
      · exact absurd h.name_mem (by decide)
      · exact absurd (Directive.option.inj he).1
          ((by decide : ∀ q ∈ intPairs, "mssfix" ≠ q.2) q hq)
      · rw [mssfixDirectivesConnect, mssfixCalls, hv] at h
        simp only [if_neg hy] at h
        cases hn : parseI64 v with
        | none => simp [hn] at h
        | some n =>
          simp only [hn, List.map_cons, List.map_nil, List.mem_singleton] at h
          obtain ⟨-, hargs⟩ := Directive.option.inj h
          exact .inr ⟨n, rfl, (List.cons.inj hargs).1.symm⟩
  · rintro ⟨hedge, hint⟩
    have hkeys : ∀ p ∈ intPairs, p.1 ∈ intKeys := by decide
    rw [connectOwn, exportOwn, certDirectivesConnect_eq hedge, hint.mssfix_eq, pairDirectives]
    refine .of_eq ?_
    congr 2
    exact List.flatMap_congr fun p hp ↦ by rw [hint.intValue_eq (hkeys p hp)]

/-- **The directives of the two emitters are permutations of each other** under the same
condition. -/
theorem directives_perm_iff {data : VpnData} {calls : List WriterCall}
    (hcalls : writerCalls data = .ok calls) :
    (calls.map WriterCall.directive).Perm (fromNmData data).directives ↔
      ¬Pkcs12Edge data ∧ IntsKept data := by
  have hconnect := writerCalls_perm hcalls
  have hexport := fromNmData_perm data
  have hcommon : (connectOwn data ++ commonDirectives data).Perm
      (exportOwn data ++ commonDirectives data) ↔ (connectOwn data).Perm (exportOwn data) :=
    List.perm_append_right_iff _
  rw [← own_perm_iff, ← hcommon]
  exact ⟨fun h ↦ (hconnect.symm.trans h).trans hexport,
    fun h ↦ (hconnect.trans h).trans hexport.symm⟩

/-- The text is rejected by the parser. -/
def Rejected (text : String) : Prop := ∃ e, OvpnConfig.parse text = .error e

/-- The text is accepted by the parser, with these directives. -/
def ParsesTo (text : String) (ds : List Directive) : Prop := OvpnConfig.parse text = .ok ⟨ds⟩

/-- Both texts are rejected, or both are accepted with the same multiset of directives. -/
def Agree (text text' : String) : Prop :=
  Rejected text ∧ Rejected text' ∨
    ∃ ds ds', ParsesTo text ds ∧ ParsesTo text' ds' ∧ ds.Perm ds'

/-- Accepted or rejected together, as far as the directives of two texts are permutations of each
other and both texts parse to their directives. -/
theorem agree_of_perm {text text' : String} {ds ds' : List Directive} (hperm : ds.Perm ds')
    (h : OvpnConfig.parse text = (OvpnConfig.validate ⟨ds⟩).map fun _ ↦ ⟨ds⟩)
    (h' : OvpnConfig.parse text' = (OvpnConfig.validate ⟨ds'⟩).map fun _ ↦ ⟨ds'⟩) :
    Agree text text' := by
  have hiff : OvpnConfig.validate ⟨ds⟩ = .ok () ↔ OvpnConfig.validate ⟨ds'⟩ = .ok () :=
    validateAll_perm hperm
  -- The messages may differ: the first directive to be rejected depends on the order.
  cases hv : OvpnConfig.validate ⟨ds⟩ with
  | ok u =>
    refine .inr ⟨ds, ds', ?_, ?_, hperm⟩
    · rw [ParsesTo, h, hv]
      rfl
    · rw [ParsesTo, h', hiff.mp hv]
      rfl
  | error e =>
    cases hv' : OvpnConfig.validate ⟨ds'⟩ with
    | ok u => simp [hv, hv'] at hiff
    | error e' =>
      refine .inl ⟨⟨e, ?_⟩, ⟨e', ?_⟩⟩
      · rw [h, hv]
        rfl
      · rw [h', hv']
        rfl

/-- **The two emitters agree**: where there is a remote, the integers are canonical and the PKCS#12
edge is excluded, the profile is built, and the parser rejects it and the exported text together or
reads the same multiset of directives from both. -/
theorem emitters_agree (data : VpnData) (hremote : ∃ v, data "remote" = some v ∧ v ≠ "")
    (hint : CanonicalInts data) (hedge : ¬Pkcs12Edge data) :
    ∃ profile, buildProfileString data = .ok profile ∧
      Agree profile (fromNmData data).emit := by
  obtain ⟨gateways, hg⟩ := hremote
  obtain ⟨calls, hcalls, -⟩ := writerCalls_of_remote (get_eq_some.mpr hg)
  refine ⟨writeAll calls, by rw [buildProfileString, hcalls]; rfl, ?_⟩
  exact agree_of_perm ((directives_perm_iff hcalls).mpr ⟨hedge, hint.intsKept⟩)
    (parse_writeAll hcalls) (parse_emit (isOrdinary_fromNmData data))

/-- A password-protected TLS connection with two remotes, an integer, and a hostile route line. -/
private def sampleData : VpnData := Dict.ofList
  [("remote", "gw.example.com:1194, [2001:db8::1]"), ("connection-type", "password-tls"),
    ("ca", "/etc/ca.pem"), ("cert", "/etc/it's.pem"), ("key", "/etc/key.pem"), ("ping", "10"),
    ("mssfix", "-1"), ("nm-openvpn3-extra-routes", "route 10.0.0.0\nup /tmp/x")]

theorem emitters_agree_sampleData : ∃ profile, buildProfileString sampleData = .ok profile ∧
    Agree profile (fromNmData sampleData).emit := by
  refine emitters_agree sampleData ⟨"gw.example.com:1194, [2001:db8::1]", by decide, by decide⟩
    ⟨?_, ?_⟩ ?_
  · have hping : ∀ v, get sampleData "ping" = some v → IsCanonicalI64 v := by
      intro v hv
      obtain rfl : "10" = v := Option.some_inj.mp hv
      exact ⟨10, by decide, by decide⟩
    have hnone : ∀ k, get sampleData k = none → ∀ v, get sampleData k = some v →
        IsCanonicalI64 v := fun k hk v hv ↦ by simp [hk] at hv
    simp only [intKeys, List.forall_mem_cons]
    exact ⟨hnone _ (by decide), hnone _ (by decide), hnone _ (by decide), hnone _ (by decide),
      hnone _ (by decide), hnone _ (by decide), hnone _ (by decide), hping, hnone _ (by decide),
      hnone _ (by decide), fun _ h ↦ absurd h List.not_mem_nil⟩
  · intro v hv
    obtain rfl : "-1" = v := Option.some_inj.mp hv
    exact .inr ⟨-1, by decide, by decide⟩
  · rintro ⟨-, p, hc, -, hp, -⟩
    obtain rfl : "/etc/it's.pem" = p := Option.some_inj.mp hc
    exact absurd hp (by decide)

end Agreement

end NmOpenvpn3
