import NmOpenvpn3.Service.BuildProfile

/-!
# Keys that a connection type does not use

A connection keeps the values of the types it had before: changing the type in an editor changes
`connection-type` and leaves the other keys where they are. Both emitters look at a key only when
the type uses it, so what is left over has no influence on either text.

`unusedKeys` lists what a map leaves unread. The main result, `stale_keys_inert`, compares two maps
that differ on these keys only. Its proof says for each gate of the emitters which keys are read
behind it: `SameUsed.always`, `SameUsed.tls`, `SameUsed.userCert`, `SameUsed.staticKey` and
`SameUsed.compression`.
-/

namespace NmOpenvpn3

namespace Agreement

open Rust Ovpn ImportExport Service

/-! ## Unused keys -/

/-- The keys of a static-key connection. -/
def staticKeys : List String := ["static-key", "static-key-direction"]

/-- The keys of the user certificate. -/
def userCertKeys : List String := ["cert", "key"]

/-- The other keys of a TLS context. -/
def contextKeys : List String :=
  ["ca", "verify-x509-name", "ta", "ta-dir", "tls-crypt", "tls-crypt-v2", "tls-version-min",
    "tls-version-min-or-highest", "tls-version-max", "remote-cert-tls", "ns-cert-type",
    "tls-remote", "extra-certs", "crl-verify-file", "crl-verify-dir"]

/-- The keys of the compression options. -/
def compressionKeys : List String := ["comp-lzo", "compress"]

/-- The keys that a connection type does not use. -/
def unusedByType (connectionType : Option String) : List String :=
  if connectionType = some "static-key" then userCertKeys ++ contextKeys
  else if connectionType = some "password" then userCertKeys ++ staticKeys
  else if needsUserCert connectionType then staticKeys
  else []

/-- The keys that are left unread: those that the type does not use, and those of compression where
it is disallowed. -/
def unusedKeys (data : VpnData) : List String :=
  unusedByType (get data "connection-type") ++
    if get data "allow-compression" = some "no" then compressionKeys else []

/-- Two maps that differ on unused keys only. -/
def SameUsed (data data' : VpnData) : Prop := ∀ k ∉ unusedKeys data, data k = data' k

theorem mem_unusedByType {ct : Option String} {k : String} : k ∈ unusedByType ct ↔
    ct = some "static-key" ∧ (k ∈ userCertKeys ∨ k ∈ contextKeys) ∨
    ct = some "password" ∧ (k ∈ userCertKeys ∨ k ∈ staticKeys) ∨
    needsUserCert ct = true ∧ k ∈ staticKeys := by
  rw [unusedByType]
  split_ifs with hs hp hu
  · subst hs
    simp [needsUserCert]
  · subst hp
    simp [needsUserCert]
  · simp [hs, hp, hu]
  · simp [hs, hp, hu]

theorem mem_unusedKeys {data : VpnData} {k : String} : k ∈ unusedKeys data ↔
    k ∈ unusedByType (get data "connection-type") ∨
      get data "allow-compression" = some "no" ∧ k ∈ compressionKeys := by
  rw [unusedKeys, List.mem_append, List.mem_ite_nil_right]

/-! ## What is read behind each gate -/

section Gates

variable {data data' : VpnData} {k : String}

theorem SameUsed.get_eq (h : SameUsed data data') (hk : k ∉ unusedKeys data) :
    get data k = get data' k := by
  unfold Ovpn.get
  rw [h k hk]

/-- Outside of the gates a key is always read. -/
theorem SameUsed.always (h : SameUsed data data')
    (hk : k ∉ staticKeys ++ userCertKeys ++ contextKeys ++ compressionKeys) :
    get data k = get data' k := by
  refine h.get_eq ?_
  simp only [List.mem_append, not_or] at hk
  rw [mem_unusedKeys, mem_unusedByType]
  tauto

/-- A TLS context is read as a whole. -/
theorem SameUsed.tls (h : SameUsed data data')
    (ht : isTlsLike (get data "connection-type") = true)
    (hk : k ∉ staticKeys ++ userCertKeys ++ compressionKeys) : get data k = get data' k := by
  refine h.get_eq ?_
  have hstatic : get data "connection-type" ≠ some "static-key" := by
    intro e
    rw [e] at ht
    exact absurd ht (by decide)
  simp only [List.mem_append, not_or] at hk
  rw [mem_unusedKeys, mem_unusedByType]
  tauto

theorem SameUsed.userCert (h : SameUsed data data')
    (hu : needsUserCert (get data "connection-type") = true)
    (hk : k ∉ staticKeys ++ compressionKeys) : get data k = get data' k := by
  refine h.get_eq ?_
  have hother : get data "connection-type" ≠ some "static-key" ∧
      get data "connection-type" ≠ some "password" := by
    rcases needsUserCert_iff.mp hu with e | e <;> rw [e] <;> decide
  simp only [List.mem_append, not_or] at hk
  rw [mem_unusedKeys, mem_unusedByType]
  tauto

theorem SameUsed.staticKey (h : SameUsed data data')
    (hs : get data "connection-type" = some "static-key")
    (hk : k ∉ userCertKeys ++ contextKeys ++ compressionKeys) : get data k = get data' k := by
  refine h.get_eq ?_
  have hother : get data "connection-type" ≠ some "password" ∧
      ¬needsUserCert (get data "connection-type") = true := by
    rw [hs]
    decide
  simp only [List.mem_append, not_or] at hk
  rw [mem_unusedKeys, mem_unusedByType]
  tauto

theorem SameUsed.compression (h : SameUsed data data')
    (hc : get data "allow-compression" ≠ some "no") (hk : k ∈ compressionKeys) :
    get data k = get data' k := by
  have hdisj : ∀ k ∈ compressionKeys, k ∉ staticKeys ∧ k ∉ userCertKeys ∧ k ∉ contextKeys := by
    decide
  have := hdisj k hk
  refine h.get_eq ?_
  rw [mem_unusedKeys, mem_unusedByType]
  tauto

end Gates

/-! ## Blocks that agree -/

section Blocks

variable {data data' : VpnData} (h : SameUsed data data')
include h

theorem SameUsed.caValue_eq : caValue data = caValue data' := by
  rw [caValue, caValue, ← h.always (k := "connection-type") (by decide)]
  split_ifs with ht
  · exact h.tls ht (by decide)
  · rfl

theorem SameUsed.userCertValue_eq {k : String} (hk : k ∈ userCertKeys) :
    userCertValue data k = userCertValue data' k := by
  have hdisj : ∀ k ∈ userCertKeys, k ∉ staticKeys ++ compressionKeys := by decide
  rw [userCertValue, userCertValue, ← h.always (k := "connection-type") (by decide)]
  split_ifs with hu
  · exact h.userCert hu (hdisj k hk)
  · rfl

/-- Behind the TLS gate a block is the same if it reads keys of the context only. -/
theorem SameUsed.tlsBlock_eq {α : Type} (f : VpnData → List α)
    (hf : (∀ k, k ∉ staticKeys ++ userCertKeys ++ compressionKeys →
      get data k = get data' k) → f data = f data') :
    (if isTlsLike (get data "connection-type") then f data else []) =
      if isTlsLike (get data' "connection-type") then f data' else [] := by
  rw [← h.always (k := "connection-type") (by decide)]
  split_ifs with ht
  · exact hf fun k ↦ h.tls ht
  · rfl

theorem SameUsed.secretDirectives_eq : secretDirectives data = secretDirectives data' := by
  rw [secretDirectives, secretDirectives, gated, gated,
    ← h.always (k := "connection-type") (by decide)]
  split_ifs with hs
  · rw [h.staticKey (of_decide_eq_true hs) (by decide),
      h.staticKey (of_decide_eq_true hs) (by decide)]
  · rfl

theorem SameUsed.compressionDirectives_eq :
    compressionDirectives data = compressionDirectives data' := by
  rw [compressionDirectives, compressionDirectives, gated, gated,
    ← h.always (k := "allow-compression") (by decide)]
  split_ifs with hc
  · rw [h.compression (of_decide_eq_true hc) (by decide),
      h.compression (of_decide_eq_true hc) (by decide)]
  · rfl

/-- The exporter reads used keys only. -/
theorem SameUsed.fromNmData_eq : fromNmData data = fromNmData data' := by
  have used : ∀ k, k ∉ staticKeys ++ userCertKeys ++ contextKeys ++ compressionKeys →
    get data k = get data' k := fun k ↦ h.always
  have hpairs : pairDirectives data pairsStr = pairDirectives data' pairsStr := by
    simp (disch := decide) only [pairDirectives, pairsStr, List.flatMap_cons, List.flatMap_nil,
      used]
  have hcert : certDirectives data = certDirectives data' := by
    simp (disch := decide) only [certDirectives, h.caValue_eq, h.userCertValue_eq]
  have htls : ∀ f : VpnData → List Directive, _ → gated _ _ = gated _ _ := fun f ↦
    h.tlsBlock_eq f
  have hverify := htls verifyX509Directives fun tls ↦ by
    simp (disch := decide) only [verifyX509Directives, tls]
  have htlsAuth := htls (fun d ↦ optArgs "tls-auth" (get d "ta") (get d "ta-dir").toList)
    fun tls ↦ by simp (disch := decide) only [tls]
  have htlsCrypt := htls (fun d ↦ optStr "tls-crypt" (get d "tls-crypt"))
    fun tls ↦ by simp (disch := decide) only [tls]
  have htlsCryptV2 := htls (fun d ↦ optStr "tls-crypt-v2" (get d "tls-crypt-v2"))
    fun tls ↦ by simp (disch := decide) only [tls]
  have hversion := htls tlsVersionMinDirectives fun tls ↦ by
    simp (disch := decide) only [tlsVersionMinDirectives, tls]
  have htlsPairs := htls (fun d ↦ pairDirectives d tlsPairs) fun tls ↦ by
    simp (disch := decide) only [pairDirectives, tlsPairs, List.flatMap_cons, List.flatMap_nil, tls]
  have hcrl := htls crlVerifyDirectives fun tls ↦ by
    simp (disch := decide) only [crlVerifyDirectives, tls]
  rw [fromNmData, fromNmData]
  simp only [hpairs, hcert, hverify, htlsAuth, htlsCrypt, htlsCryptV2, hversion, htlsPairs, hcrl,
    h.secretDirectives_eq, h.compressionDirectives_eq]
  simp (disch := decide) only [remoteDirectives, isYes, ifconfigDirectives, routeDirectives,
    chosenDev, protoValue, proxyDirectives, used]

theorem SameUsed.secretCalls_eq : secretCalls data = secretCalls data' := by
  rw [secretCalls, secretCalls, callsIf, callsIf, ← h.always (k := "connection-type") (by decide)]
  split_ifs with hs
  · rw [h.staticKey (of_decide_eq_true hs) (by decide),
      h.staticKey (of_decide_eq_true hs) (by decide)]
  · rfl

theorem SameUsed.compressionCalls_eq : compressionCalls data = compressionCalls data' := by
  rw [compressionCalls, compressionCalls, callsIf, callsIf,
    ← h.always (k := "allow-compression") (by decide)]
  split_ifs with hc
  · rw [h.compression (of_decide_eq_true hc) (by decide),
      h.compression (of_decide_eq_true hc) (by decide)]
  · rfl

/-- The connect path reads used keys only. -/
theorem SameUsed.buildProfileString_eq : buildProfileString data = buildProfileString data' := by
  have used : ∀ k, k ∉ staticKeys ++ userCertKeys ++ contextKeys ++ compressionKeys →
    get data k = get data' k := fun k ↦ h.always
  have hcert : certCalls data = certCalls data' := by
    simp (disch := decide) only [certCalls, h.caValue_eq, h.userCertValue_eq]
  have htls : callsIf (isTlsLike (get data "connection-type")) (tlsCalls data) =
      callsIf (isTlsLike (get data' "connection-type")) (tlsCalls data') :=
    h.tlsBlock_eq tlsCalls fun tls ↦ by simp (disch := decide) only [tlsCalls, tls]
  have hcrl : callsIf (isTlsLike (get data "connection-type")) (crlVerifyCalls data) =
      callsIf (isTlsLike (get data' "connection-type")) (crlVerifyCalls data') :=
    h.tlsBlock_eq crlVerifyCalls fun tls ↦ by simp (disch := decide) only [crlVerifyCalls, tls]
  have hsettings : settingCalls data = settingCalls data' := by
    rw [settingCalls, settingCalls]
    simp only [hcert, htls, hcrl, h.secretCalls_eq, h.compressionCalls_eq]
    simp (disch := decide) only [isYes, mssfixCalls, chosenDev, protoValue, ifconfigCalls,
      routeCalls, proxyCalls, used]
  rw [buildProfileString, buildProfileString, writerCalls, writerCalls, hsettings]
  simp (disch := decide) only [used]

end Blocks

/-- **Stale keys are inert.** Maps that differ only on keys which their type does not use, or on the
compression options where compression is disallowed, are exported as the same text, and the connect
path writes the same profile for them or refuses both with the same error. -/
theorem stale_keys_inert {data data' : VpnData} (h : SameUsed data data') :
    (fromNmData data).emit = (fromNmData data').emit ∧
      buildProfileString data = buildProfileString data' :=
  ⟨by rw [h.fromNmData_eq], h.buildProfileString_eq⟩

/-- A static-key connection. -/
private def switchedData : VpnData := Dict.ofList
  [("remote", "gw.example.com"), ("connection-type", "static-key"), ("static-key", "/etc/vpn.key")]

theorem stale_keys_inert_switchedData :
    (fromNmData switchedData).emit = (fromNmData (switchedData.insert "ca" "/etc/ca.pem")).emit ∧
      buildProfileString switchedData =
        buildProfileString (switchedData.insert "ca" "/etc/ca.pem") := by
  refine stale_keys_inert fun k hk ↦ (Dict.insert_of_ne ?_ _ _).symm
  rintro rfl
  exact hk (by decide)

end Agreement

end NmOpenvpn3
