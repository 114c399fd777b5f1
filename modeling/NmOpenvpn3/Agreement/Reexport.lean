import NmOpenvpn3.ImportExport.Lists

/-!
# Exporting, importing and exporting again

Whether an exported file is a fixpoint of import followed by export. The exporter's table of options
and the importer's are maintained separately, and four kinds of exported options have no arm in the
importer: `max-routes`, `mtu-disc`, the two proxy retries, and preserved routes of another kind than
`route`. `ReadBack` says that none of them is set, and `reexport_eq_iff` that this is exactly when
nothing is lost.
-/

namespace NmOpenvpn3

namespace Agreement

open Rust Ovpn ImportExport

/-! ## The editor's gate -/

/-- The editor's check of the minimum field set; an empty string means that a field is blank. -/
def validateRequiredFields (ct remote ca cert key username staticKey : String) : Option String :=
  if remote = "" then some "missing gateway address"
  else if (ct = "tls" ∨ ct = "password-tls") ∧ ca = "" then
    some "TLS connection requires a CA certificate"
  else if (ct = "tls" ∨ ct = "password-tls") ∧ (cert = "" ∨ key = "") then
    some "TLS connection requires both client certificate and private key"
  else if (ct = "password" ∨ ct = "password-tls") ∧ username = "" then
    some "password authentication requires a user name"
  else if ct = "static-key" ∧ staticKey = "" then
    some "static-key connection requires a key file"
  else none

/-- The map passes the editor's check. -/
def HasRequiredFields (data : VpnData) : Prop :=
  let field := fun k ↦ (data k).getD ""
  validateRequiredFields (field "connection-type") (field "remote") (field "ca") (field "cert")
    (field "key") (field "username") (field "static-key") = none

/-! ## What is read back -/

/-- None of the options that the importer does not read is set. -/
structure ReadBack (data : VpnData) : Prop where
  maxRoutes : get data "max-routes" = none
  mtuDisc : get data "mtu-disc" = none
  proxyRetry : ¬((get data "proxy-type" = some "http" ∨ get data "proxy-type" = some "socks") ∧
    (get data "proxy-server").isSome ∧ get data "proxy-retry" = some "yes")
  routes : ∀ routes, get data "nm-openvpn3-extra-routes" = some routes →
    ∀ line ∈ safeRouteLines routes, (routeWords line).head? = some "route"

/-! ## What the importer recognises -/

/-- The importer has an arm for the directive. -/
def Recognised (x : Directive) : Prop := (importArms.lookup x.name).isSome

theorem recognised_option {name : String} (h : (importArms.lookup name).isSome)
    (args : List String) : Recognised (.option name args) := h

theorem not_recognised {name : String} (h : importArms.lookup name = none) (args : List String) :
    ¬Recognised (.option name args) := by
  rw [Recognised, Directive.name, h]
  simp

theorem recognised_of_isTagged {tags : List String}
    (h : ∀ name ∈ tags, (importArms.lookup name).isSome) {x : Directive} (hx : IsTagged tags x) :
    Recognised x := by
  obtain ⟨name, args, rfl, hname⟩ := hx
  exact h name hname

/-- The kind of preserved routes that the importer has an arm for. -/
theorem recognised_routeDirectives_iff (data : VpnData) :
    Every Recognised (routeDirectives data) ↔
      ∀ routes, get data "nm-openvpn3-extra-routes" = some routes →
        ∀ line ∈ safeRouteLines routes, (routeWords line).head? = some "route" := by
  constructor
  · intro h routes hr line hline
    obtain ⟨w, args, hw, -, he⟩ := routeDirective_eq hline
    have hmem : Directive.option w args ∈ routeDirectives data := by
      rw [routeDirectives, hr]
      exact List.mem_flatMap.mpr ⟨line, hline, he ▸ List.mem_singleton_self _⟩
    obtain ⟨name, args', heq, hname⟩ := route_or_unknown_of_mem_routeDirectives _ hmem
    cases heq
    rcases hname with rfl | hname
    · rw [hw]
      rfl
    · exact absurd (h _ hmem) (not_recognised hname args)
  · intro h x hx
    rw [routeDirectives] at hx
    split at hx
    · rename_i routes hr
      obtain ⟨line, hline, hx⟩ := List.mem_flatMap.mp hx
      obtain ⟨w, args, hw, -, he⟩ := routeDirective_eq hline
      rw [he, List.mem_singleton] at hx
      have := h routes hr line hline
      rw [hw, List.head?_cons, Option.some_inj] at this
      rw [hx, this]
      exact recognised_option (by decide) args
    · simp at hx

/-- A directive of a block is a directive of the export. -/
theorem mem_fromNmData_of_mem_pairs {data : VpnData} {x : Directive}
    (h : x ∈ pairDirectives data pairsStr ∨ x ∈ routeDirectives data ∨ x ∈ proxyDirectives data) :
    x ∈ (fromNmData data).directives := by
  rcases h with h | h | h <;>
    exact List.mem_flatten.mpr ⟨_, by simp only [List.mem_cons, true_or, or_true], h⟩

/-- A setting whose option has no arm is not exported when every directive has one. -/
theorem get_eq_none_of_recognised {data : VpnData} {k name : String}
    (h : Every Recognised (fromNmData data).directives) (hk : (k, name) ∈ pairsStr)
    (hname : importArms.lookup name = none) : get data k = none := by
  by_contra hv
  obtain ⟨v, hv⟩ := Option.ne_none_iff_exists'.mp hv
  refine not_recognised hname [v] (h _ (mem_fromNmData_of_mem_pairs (.inl ?_)))
  exact List.mem_flatMap.mpr ⟨(k, name), hk, by simp [optStr, optArgs, hv]⟩

/-- The retry options are the only proxy options that the importer has no arm for. -/
theorem recognised_proxyDirectives {data : VpnData}
    (hretry : ¬((get data "proxy-type" = some "http" ∨ get data "proxy-type" = some "socks") ∧
      (get data "proxy-server").isSome ∧ get data "proxy-retry" = some "yes")) :
    Every Recognised (proxyDirectives data) := by
  intro x hx
  rw [proxyDirectives] at hx
  split at hx
  · rename_i pt server hpt hserver
    have hno : pt = "http" ∨ pt = "socks" → get data "proxy-retry" ≠ some "yes" :=
      fun hp hy ↦ hretry ⟨by simpa [hpt] using hp, by simp [hserver], hy⟩
    split_ifs at hx with hhttp hsocks
    · rw [optFlag, if_neg (by simpa using hno (.inl hhttp)), List.mem_singleton] at hx
      subst hx
      exact recognised_option (by decide) _
    · rw [optFlag, if_neg (by simpa using hno (.inr hsocks)), List.mem_singleton] at hx
      subst hx
      exact recognised_option (by decide) _
    · simp at hx
  · simp at hx

/-- Without unread options every exported directive has an arm, block by block. -/
theorem recognised_of_readBack {data : VpnData} (h : ReadBack data) :
    Every Recognised (fromNmData data).directives := by
  have tagged : ∀ {T ds}, AllTagged T ds →
      (∀ name ∈ T, (importArms.lookup name).isSome) → Every Recognised ds :=
    fun h ht x hx ↦ recognised_of_isTagged ht (h x hx)
  obtain ⟨hmax, hmtu, hretry, hroutes⟩ := h
  refine fromNmData_forall ?_ ?_ ?_ ?_ ?_ ?_ ?_ ?_ ?_
  · exact fun x ↦ recognised_of_isTagged (by decide)
  · -- Of the settings that are exported as they are, two have no arm.
    intro x hx
    obtain ⟨p, hp, hx⟩ := List.mem_flatMap.mp hx
    have hknown : ∀ p ∈ pairsStr, (importArms.lookup p.2).isSome ∨ p.1 = "max-routes" ∨
        p.1 = "mtu-disc" := by decide
    rcases hknown p hp with h | h | h
    · exact tagged (T := [p.2]) (allTagged_optArgs (by simp) _ _) (by simpa using h) x hx
    · rw [h, hmax] at hx
      simp [optStr, optArgs] at hx
    · rw [h, hmtu] at hx
      simp [optStr, optArgs] at hx
  · exact tagged (T := ["comp-lzo", "compress"]) (allTagged_gated _
      (allTagged_append (allTagged_optArgs (by decide) _ _) (allTagged_optYes (by decide) _)))
      (by decide)
  · exact (recognised_routeDirectives_iff data).mpr hroutes
  · exact tagged (T := ["tls-version-min"]) (allTagged_optArgs (by decide) _ _) (by decide)
  · exact tagged (T := tlsPairs.map Prod.snd) (allTagged_pairDirectives (by decide) data)
      (by decide)
  · exact recognised_option (by decide) _
  · exact recognised_proxyDirectives hretry
  · exact tagged allTagged_tailDirectives (by decide)

/-- **Every exported directive has an arm in the importer exactly when none of the four kinds of
options without one is set.** -/
theorem recognised_fromNmData_iff (data : VpnData) :
    Every Recognised (fromNmData data).directives ↔ ReadBack data := by
  refine ⟨fun h ↦ ⟨?_, ?_, ?_, ?_⟩, recognised_of_readBack⟩
  · exact get_eq_none_of_recognised h (show ("max-routes", "max-routes") ∈ pairsStr by decide)
      (by decide)
  · exact get_eq_none_of_recognised h (show ("mtu-disc", "mtu-disc") ∈ pairsStr by decide)
      (by decide)
  · rintro ⟨hpt, hserver, hretry⟩
    obtain ⟨server, hserver⟩ := Option.isSome_iff_exists.mp hserver
    rcases hpt with hpt | hpt
    · refine not_recognised (show importArms.lookup "http-proxy-retry" = none by decide) []
        (h _ ?_)
      refine mem_fromNmData_of_mem_pairs (.inr (.inr ?_))
      simp [proxyDirectives, hpt, hserver, hretry, optFlag]
    · refine not_recognised (show importArms.lookup "socks-proxy-retry" = none by decide) []
        (h _ ?_)
      refine mem_fromNmData_of_mem_pairs (.inr (.inr ?_))
      simp [proxyDirectives, hpt, hserver, hretry, optFlag]
  · exact (recognised_routeDirectives_iff data).mp fun x hx ↦
      h x (mem_fromNmData_of_mem_pairs (.inr (.inl hx)))

/-! ## The reimported values -/

section Reimported

variable {data : VpnData}

theorem argIsSet_get (data : VpnData) (k : String) : argIsSet (get data k) = get data k := by
  cases h : get data k with
  | none => rfl
  | some v =>
    have := get_ne_empty h
    simp [argIsSet, Option.filter, this]

/-- The keys that no exported option is read into come back empty. -/
theorem get_reimport_of_not_mem {k : String} (hk : k ∉ reimportKeys) (hne : k ≠ "connection-type") :
    get (asNmData (fromNmData data)) k = none := by
  rw [Ovpn.get, reimport_of_not_mem hk hne]
  rfl

/-- The reimported value of each key. -/
theorem get_reimport (data : VpnData) :
    ∀ p ∈ reimportEntries data, get (asNmData (fromNmData data)) p.1 = argIsSet p.2 :=
  fun _ h ↦ congrArg argIsSet (reimport_of_mem h)

theorem argIsSet_yesIf (b : Bool) : argIsSet (yesIf b) = yesIf b := by
  cases b <;> rfl

theorem argIsSet_tlsValue (data : VpnData) (k : String) :
    argIsSet (tlsValue data k) = tlsValue data k := by
  unfold tlsValue
  split_ifs
  · exact argIsSet_get data k
  · rfl

theorem argIsSet_userCertValue (data : VpnData) (k : String) :
    argIsSet (userCertValue data k) = userCertValue data k := by
  unfold userCertValue
  split_ifs
  · exact argIsSet_get data k
  · rfl

theorem argIsSet_secretValue (data : VpnData) : argIsSet (secretValue data) = secretValue data := by
  unfold secretValue
  split_ifs
  · exact argIsSet_get data _
  · rfl

theorem argIsSet_behind (v : Option String) {w : Option String} (h : argIsSet w = w) :
    argIsSet (behind v w) = behind v w := by
  cases v with
  | none => rfl
  | some v => exact h

/-- The inferred connection type of a complete connection is its own. -/
theorem get_reimport_connectionType
    (hct : ∃ ct ∈ ["tls", "password", "password-tls", "static-key"],
      get data "connection-type" = some ct) (hreq : HasRequiredFields data) :
    get (asNmData (fromNmData data)) "connection-type" = get data "connection-type" := by
  obtain ⟨ct, hmem, hct⟩ := hct
  have hfield : ∀ k, (data k).getD "" ≠ "" → ∃ v, get data k = some v := by
    intro k hk
    cases hv : data k with
    | none => simp [hv] at hk
    | some v => exact ⟨v, get_eq_some.mpr ⟨hv, by simpa [hv] using hk⟩⟩
  have hdata : (data "connection-type").getD "" = ct := by rw [(get_eq_some.mp hct).1]; rfl
  rw [Ovpn.get, reimport_connectionType, hct]
  rw [HasRequiredFields, validateRequiredFields] at hreq
  simp only [hdata] at hreq
  split_ifs at hreq with h1 h2 h3 h4 h5
  suffices hinfer : inferConnectionType (reimportState data) = ct by
    rw [hinfer]
    exact (congrArg argIsSet hct.symm).trans (argIsSet_get data _) |>.trans hct
  simp only [List.mem_cons, List.not_mem_nil, or_false] at hmem
  rcases hmem with rfl | rfl | rfl | rfl
  · simp only [true_or, true_and, not_or] at h3
    obtain ⟨cert, hcert⟩ := hfield "cert" h3.1
    obtain ⟨key, hkey⟩ := hfield "key" h3.2
    simp [inferConnectionType, reimportState, secretValue, userCertValue, needsUserCert,
      isPasswordLike, hct, hcert, hkey]
  · simp [inferConnectionType, reimportState, secretValue, userCertValue, needsUserCert,
      isPasswordLike, hct]
  · simp only [or_true, true_and, not_or] at h3
    obtain ⟨cert, hcert⟩ := hfield "cert" h3.1
    obtain ⟨key, hkey⟩ := hfield "key" h3.2
    simp [inferConnectionType, reimportState, secretValue, userCertValue, needsUserCert,
      isPasswordLike, hct, hcert, hkey]
  · simp only [true_and] at h5
    obtain ⟨secret, hsecret⟩ := hfield "static-key" h5
    simp [inferConnectionType, reimportState, secretValue, hct, hsecret]

/-- The characters of a remote entry are not separators. -/
theorem isRemoteSep_of_mem_remoteEntries {remotes : String} {gw : List Char}
    (h : gw ∈ remoteEntries remotes) : ∀ c ∈ gw, isRemoteSep c = false := by
  intro c hc
  rw [remoteEntries, List.mem_filter] at h
  obtain ⟨raw, hraw, rfl⟩ := List.mem_map.mp h.1
  exact not_sep_of_mem_splitOnP hraw c ((trim_sublist raw).subset hc)

/-- A list of well-formed remotes is exported again as it was. -/
theorem remoteDirectives_reimport
    (hwf : ∀ remotes, get data "remote" = some remotes →
      ∀ gw ∈ remoteEntries remotes, WellFormedRemote gw)
    (h : get (asNmData (fromNmData data)) "remote" = argIsSet (remoteValue data)) :
    remoteDirectives (asNmData (fromNmData data)) = remoteDirectives data := by
  rw [remoteValue] at h
  rw [remoteDirectives.eq_1 data]
  cases hr : get data "remote" with
  | none =>
    rw [hr] at h
    rw [remoteDirectives, h]
    rfl
  | some remotes =>
    simp only [hr] at h ⊢
    have hparts : ∀ args ∈ (remoteEntries remotes).map remoteArgs,
        RemoteParts args ∧ ∀ a ∈ args, ∀ c ∈ a.toList, IsEntryChar c := by
      intro args hargs
      obtain ⟨gw, hgw, rfl⟩ := List.mem_map.mp hargs
      obtain ⟨hp, -, hc⟩ := (hwf remotes hr gw hgw).remoteParts
      exact ⟨hp, fun a ha c hca ↦ ⟨isRemoteSep_of_mem_remoteEntries hgw c (hc a ha c hca),
        (hwf remotes hr gw hgw).noSpace c (hc a ha c hca)⟩⟩
    have hjoin : get (asNmData (fromNmData data)) "remote" =
        appendAll "," none (((remoteEntries remotes).map remoteArgs).map remoteEntry) := by
      rw [List.map_map]
      rw [argIsSet_appendAll] at h
      · exact h
      · intro item hi
        obtain ⟨gw, hgw, rfl⟩ := List.mem_map.mp hi
        exact (hparts _ (List.mem_map_of_mem hgw)).1.remoteEntry_ne_empty
    rw [remoteDirectives_of_join hparts hjoin, List.map_map]
    refine List.map_congr_left fun gw hgw ↦ ?_
    rw [Function.comp_apply, (hwf remotes hr gw hgw).remoteParts.2.1]

theorem map_argsOf_route {data : VpnData} (h : Every Recognised (routeDirectives data)) :
    (argsOf "route" (routeDirectives data)).map (fun args ↦ .option "route" args) =
      routeDirectives data := by
  have hall : ∀ x ∈ routeDirectives data, ∃ args, x = .option "route" args := by
    intro x hx
    obtain ⟨name, args, rfl, rfl | hname⟩ := route_or_unknown_of_mem_routeDirectives x hx
    · exact ⟨args, rfl⟩
    · exact absurd (h _ hx) (not_recognised hname args)
  generalize routeDirectives data = ds at hall
  induction ds with
  | nil => rfl
  | cons x ds ih =>
    obtain ⟨args, rfl⟩ := hall x List.mem_cons_self
    rw [argsOf_cons_self, List.map_cons, ih fun y hy ↦ hall y (List.mem_cons_of_mem _ hy)]

/-- The `route` options among the exported ones can be exported again. -/
theorem routeParts_argsOf (data : VpnData) :
    ∀ args ∈ argsOf "route" (routeDirectives data), RouteParts args := by
  intro args h
  refine every_routeDirectives (P := fun x ↦ ∀ args, x = .option "route" args → RouteParts args)
    ?_ _ (mem_argsOf.mp h) args rfl
  rintro routes line w args' hl hw - args heq
  cases heq
  exact routeParts_of_mem_safeRouteLines hl hw

/-- Of the preserved routes those named `route` come back. -/
theorem routeDirectives_reimport
    (h : get (asNmData (fromNmData data)) "nm-openvpn3-extra-routes" =
      argIsSet (routesValue data)) :
    routeDirectives (asNmData (fromNmData data)) =
      (argsOf "route" (routeDirectives data)).map fun args ↦ .option "route" args := by
  have hne : ∀ item ∈ (argsOf "route" (routeDirectives data)).map routeLine, item ≠ "" := by
    rintro item hi rfl
    obtain ⟨args, -, he⟩ := List.mem_map.mp hi
    have := head_routeLine args
    rw [he] at this
    simp at this
  rw [routesValue, routesOf, argIsSet_appendAll hne] at h
  exact routeDirectives_of_join (routeParts_argsOf data) h

/-! ## One block after the other -/

section SameValues

variable {d' : VpnData} (hct : get d' "connection-type" = get data "connection-type")

theorem isYes_of_yesIf {k : String} {b : Bool} (h : get d' k = yesIf b) : isYes d' k = b := by
  rw [isYes, h]
  cases b <;> rfl

theorem isYes_iff_of_yesIf {k : String} {b : Bool} (h : get d' k = yesIf b) :
    get d' k = some "yes" ↔ b = true := by
  rw [← isYes_of_yesIf h, isYes, beq_iff_eq]

include hct

theorem certDirectives_congr (hca : get d' "ca" = argIsSet (caValue data))
    (hcert : get d' "cert" = userCertValue data "cert")
    (hkey : get d' "key" = userCertValue data "key") :
    certDirectives d' = certDirectives data := by
  have hca' : caValue d' = caValue data := by
    rw [caValue, hct, hca, caValue]
    split_ifs
    · exact argIsSet_get data "ca"
    · rfl
  have huser : ∀ k, get d' k = userCertValue data k →
      userCertValue d' k = userCertValue data k := by
    intro k hk
    rw [userCertValue, hct, hk, userCertValue]
    split_ifs <;> rfl
  rw [certDirectives, certDirectives, hca', huser "cert" hcert, huser "key" hkey]

theorem secretDirectives_congr (hkey : get d' "static-key" = secretValue data)
    (hdir : get d' "static-key-direction" =
      argIsSet (behind (secretValue data) (get data "static-key-direction"))) :
    secretDirectives d' = secretDirectives data := by
  rw [secretDirectives, secretDirectives, hct]
  by_cases hstatic : get data "connection-type" = some "static-key"
  · rw [secretValue, if_pos hstatic] at hkey hdir
    rw [hkey, hdir, argIsSet_behind _ (argIsSet_get data _)]
    cases get data "static-key" with
    | none => rfl
    | some key => rfl
  · rw [decide_eq_false hstatic]
    rfl

omit hct

theorem compressionDirectives_congr
    (hac : get d' "allow-compression" = get data "allow-compression")
    (hlzo : get d' "comp-lzo" =
      argIsSet (compressionValue data ((get data "comp-lzo").map compLzoStored)))
    (hcompress : get d' "compress" = argIsSet (compressionValue data (get data "compress"))) :
    compressionDirectives d' = compressionDirectives data := by
  rw [compressionDirectives, compressionDirectives, hac]
  by_cases hno : get data "allow-compression" = some "no"
  · rw [decide_eq_false (not_not_intro hno)]
    rfl
  · rw [compressionValue, if_neg hno] at hlzo hcompress
    rw [hlzo, hcompress, argIsSet_get]
    cases hv : get data "comp-lzo" with
    | none => rfl
    | some v =>
      have hwire : argIsSet (some (compLzoStored v)) = some (compLzoStored v) ∧
          compLzoWire (compLzoStored v) = compLzoWire v := by
        rw [compLzoStored]
        by_cases hw : compLzoWire v = "no"
        · rw [if_pos hw, hw]
          decide
        · have hne : v ≠ "no-by-default" := fun e ↦ hw (by rw [e]; rfl)
          have hsame : compLzoWire v = v := if_neg hne
          rw [if_neg hw, hsame, hsame, ← hv]
          exact ⟨argIsSet_get data _, rfl⟩
      rw [Option.map_some, hwire.1, Option.map_some, hwire.2, Option.map_some]

theorem ifconfigDirectives_congr
    (hlocal : get d' "local-ip" = argIsSet (behind (get data "remote-ip") (get data "local-ip")))
    (hremote : get d' "remote-ip" =
      argIsSet (behind (get data "local-ip") (get data "remote-ip"))) :
    ifconfigDirectives d' = ifconfigDirectives data := by
  rw [argIsSet_behind _ (argIsSet_get data _)] at hlocal hremote
  rw [ifconfigDirectives, ifconfigDirectives, hlocal, hremote]
  cases get data "local-ip" <;> cases get data "remote-ip" <;> rfl

theorem tlsAuth_congr (hta : get d' "ta" = get data "ta")
    (hdir : get d' "ta-dir" = argIsSet (behind (get data "ta") (get data "ta-dir"))) :
    optArgs "tls-auth" (get d' "ta") (get d' "ta-dir").toList =
      optArgs "tls-auth" (get data "ta") (get data "ta-dir").toList := by
  rw [argIsSet_behind _ (argIsSet_get data _)] at hdir
  rw [hta, hdir]
  cases get data "ta" <;> rfl

theorem tlsVersionMinDirectives_congr (hmin : get d' "tls-version-min" = get data "tls-version-min")
    (horHighest : get d' "tls-version-min-or-highest" =
      argIsSet (behind (get data "tls-version-min")
        (yesIf (isYes data "tls-version-min-or-highest")))) :
    tlsVersionMinDirectives d' = tlsVersionMinDirectives data := by
  rw [argIsSet_behind _ (argIsSet_yesIf _)] at horHighest
  rw [tlsVersionMinDirectives, tlsVersionMinDirectives, hmin, horHighest, isYes]
  cases get data "tls-version-min" with
  | none => rfl
  | some v =>
    by_cases hy : get data "tls-version-min-or-highest" = some "yes"
    · rw [hy]
      rfl
    · rw [if_neg hy, beq_eq_false_iff_ne.mpr hy]
      rfl

theorem crlVerifyDirectives_congr (hfile : get d' "crl-verify-file" = get data "crl-verify-file")
    (hdir : get d' "crl-verify-dir" =
      argIsSet (if (get data "crl-verify-file").isSome then none else get data "crl-verify-dir")) :
    crlVerifyDirectives d' = crlVerifyDirectives data := by
  rw [crlVerifyDirectives, crlVerifyDirectives, hfile, hdir]
  cases get data "crl-verify-file" with
  | some file => rfl
  | none =>
    rw [if_neg (by simp), argIsSet_get]

theorem chosenDev_ne_empty (data : VpnData) : chosenDev data ≠ "" := by
  unfold chosenDev
  cases hdev : get data "dev" with
  | some dev => exact get_ne_empty hdev
  | none =>
    cases htype : get data "dev-type" with
    | some devType => exact get_ne_empty htype
    | none =>
      simp only [Option.or_none, Option.getD_none]
      split_ifs <;> decide

theorem chosenDev_congr (hdev : get d' "dev" = argIsSet (some (chosenDev data))) :
    chosenDev d' = chosenDev data := by
  have hset : argIsSet (some (chosenDev data)) = some (chosenDev data) := by
    simp [argIsSet, Option.filter, chosenDev_ne_empty]
  rw [chosenDev.eq_1 d', hdev, hset]
  rfl

theorem argIsSet_some {v : String} (h : v ≠ "") : argIsSet (some v) = some v := by
  simp [argIsSet, Option.filter, h]

theorem getD_get_ne_empty {k v : String} (h : v ≠ "") (data : VpnData) :
    (get data k).getD v ≠ "" := by
  cases hk : get data k with
  | none => exact h
  | some w => exact get_ne_empty hk

theorem proxyDirectives_congr
    (hretry : ¬((get data "proxy-type" = some "http" ∨ get data "proxy-type" = some "socks") ∧
      (get data "proxy-server").isSome ∧ get data "proxy-retry" = some "yes"))
    (htype : get d' "proxy-type" = argIsSet ((proxyValue data).map fun p ↦ p.1))
    (hserver : get d' "proxy-server" = argIsSet ((proxyValue data).map fun p ↦ p.2.1))
    (hport : get d' "proxy-port" = argIsSet ((proxyValue data).map fun p ↦ p.2.2))
    (hretry' : get d' "proxy-retry" = none) : proxyDirectives d' = proxyDirectives data := by
  rw [proxyValue] at htype hserver hport
  rw [proxyDirectives, proxyDirectives, hretry']
  cases hpt : get data "proxy-type" with
  | none =>
    rw [hpt] at htype
    rw [htype]
    rfl
  | some pt =>
    cases hps : get data "proxy-server" with
    | none =>
      rw [hpt, hps] at htype
      rw [htype]
      rfl
    | some server =>
      simp only [hpt, hps] at htype hserver hport
      have hno : pt = "http" ∨ pt = "socks" → get data "proxy-retry" ≠ some "yes" :=
        fun hp hy ↦ hretry ⟨by simpa [hpt] using hp, by simp [hps], hy⟩
      by_cases hhttp : pt = "http"
      · simp only [if_pos hhttp, Option.map_some, argIsSet_some (get_ne_empty hps),
          argIsSet_some (getD_get_ne_empty (v := "8080") (by decide) data)] at htype hserver hport
        simp [htype, hserver, hport, hhttp, hno (.inl hhttp), argIsSet, Option.filter]
      by_cases hsocks : pt = "socks"
      · simp only [if_neg hhttp, if_pos hsocks, Option.map_some, argIsSet_some (get_ne_empty hps),
          argIsSet_some (getD_get_ne_empty (v := "1080") (by decide) data)] at htype hserver hport
        simp [htype, hserver, hport, hsocks, hno (.inr hsocks), argIsSet, Option.filter]
      · simp only [if_neg hhttp, if_neg hsocks, Option.map_none] at htype ⊢
        rw [htype]
        rfl

end SameValues

/-- **Nothing is lost by a map without unread options**: exporting what was imported from its export
gives the same directives. -/
theorem fromNmData_reimport
    (hct : ∃ ct ∈ ["tls", "password", "password-tls", "static-key"],
      get data "connection-type" = some ct) (hreq : HasRequiredFields data)
    (hwf : ∀ remotes, get data "remote" = some remotes →
      ∀ gw ∈ remoteEntries remotes, WellFormedRemote gw)
    (hread : ReadBack data) : fromNmData (asNmData (fromNmData data)) = fromNmData data := by
  have hconn := get_reimport_connectionType hct hreq
  have hget := get_reimport data
  simp only [reimportEntries, entriesBeforeRoutes, entriesFromRoutes, List.forall_mem_append,
    List.forall_mem_cons, argIsSet_get, argIsSet_yesIf, argIsSet_tlsValue, argIsSet_userCertValue,
    argIsSet_secretValue] at hget
  obtain ⟨⟨hremote, hrandom, hhostname, hfqdn, hipv6, hpeer, hca, hcert, hkey, hsecret, hsecretDir,
    hreneg, hcipher, hciphers, hfallback, htlsCipher, hkeysize, hac, hauth, hmtu, htimeout,
    hfragment, hport, hping, hexit, hrestart, hlzo, hcompress, hfloat, hmssfix, hlocal, hremoteIp,
    -⟩, hroutes, hx509, hta, htaDir, hcrypt, hcryptV2, hmin, horHighest, hcertTls, hnsCert,
    htlsRemote, hmax, hextra, hfile, hdir, hdev, hdevType, hproto, hpt, hps, hpp, -⟩ := hget
  have hremotes := remoteDirectives_reimport hwf hremote
  have hrouted := routeDirectives_reimport hroutes
  have hmaxRoutes : get (asNmData (fromNmData data)) "max-routes" = none :=
    get_reimport_of_not_mem (by decide) (by decide)
  have hmtuDisc : get (asNmData (fromNmData data)) "mtu-disc" = none :=
    get_reimport_of_not_mem (by decide) (by decide)
  have hretry : get (asNmData (fromNmData data)) "proxy-retry" = none :=
    get_reimport_of_not_mem (by decide) (by decide)
  -- From here on only the values matter, and the blocks are compared one after the other.
  generalize asNmData (fromNmData data) = d' at *
  have hargsOf : (argsOf "route" (routeDirectives data)).map (fun args ↦ .option "route" args) =
      routeDirectives data :=
    map_argsOf_route ((recognised_routeDirectives_iff data).mpr hread.routes)
  have hpairs : pairDirectives d' pairsStr = pairDirectives data pairsStr := by
    simp only [pairDirectives, pairsStr, List.flatMap_cons, List.flatMap_nil, hreneg, hmaxRoutes,
      hread.maxRoutes, hcipher, hciphers, hfallback, htlsCipher, hkeysize, hac, hauth, hmtuDisc,
      hread.mtuDisc, hmtu, htimeout, hfragment, hport, hping, hexit, hrestart]
  have hproto' : protoValue d' = protoValue data := by
    simp only [protoValue, isYes_iff_of_yesIf hproto, isYes, beq_iff_eq]
  rw [fromNmData, fromNmData]
  simp only [hconn, hremotes, isYes_of_yesIf hrandom, isYes_of_yesIf hhostname,
    isYes_of_yesIf hfqdn, isYes_of_yesIf hipv6, isYes_of_yesIf hpeer, isYes_of_yesIf hfloat,
    certDirectives_congr hconn hca hcert hkey, secretDirectives_congr hconn hsecret hsecretDir,
    hpairs, compressionDirectives_congr hac hlzo hcompress, hmssfix,
    ifconfigDirectives_congr hlocal hremoteIp, hrouted, hargsOf, chosenDev_congr hdev, hdevType,
    hproto', proxyDirectives_congr hread.proxyRetry hpt hps hpp hretry]
  cases htls : isTlsLike (get data "connection-type") with
  | false => simp only [gated, Bool.false_eq_true, if_false]
  | true =>
    have htlsValue : ∀ k, tlsValue data k = get data k := fun k ↦ if_pos htls
    rw [htlsValue] at hx509 hta htaDir hcrypt hcryptV2 hmin horHighest hcertTls hnsCert
    rw [htlsValue] at htlsRemote hmax hextra hfile hdir
    have htlsPairs : pairDirectives d' tlsPairs = pairDirectives data tlsPairs := by
      simp only [pairDirectives, tlsPairs, List.flatMap_cons, List.flatMap_nil, hcertTls, hnsCert,
        htlsRemote, hmax, hextra]
    simp only [verifyX509Directives, hx509, tlsAuth_congr hta htaDir, hcrypt, hcryptV2,
      tlsVersionMinDirectives_congr hmin horHighest, htlsPairs,
      crlVerifyDirectives_congr hfile hdir]

/-- Whatever was imported from an export has none of the unread options. -/
theorem readBack_reimport (data : VpnData) : ReadBack (asNmData (fromNmData data)) := by
  refine ⟨get_reimport_of_not_mem (by decide) (by decide),
    get_reimport_of_not_mem (by decide) (by decide), ?_, (recognised_routeDirectives_iff _).mp ?_⟩
  · rw [get_reimport_of_not_mem (k := "proxy-retry") (by decide) (by decide)]
    simp
  · have hroutes := get_reimport data ("nm-openvpn3-extra-routes", routesValue data)
      (List.mem_append_right _ List.mem_cons_self)
    rw [routeDirectives_reimport hroutes]
    intro x hx
    obtain ⟨args, -, rfl⟩ := List.mem_map.mp hx
    exact recognised_option (by decide) args

/-- **The round trip through an exported file**: for a complete connection whose export is accepted,
exporting what was imported from it gives the same directives exactly when none of the options that
the importer does not read is set. -/
theorem reexport_eq_iff
    (hct : ∃ ct ∈ ["tls", "password", "password-tls", "static-key"],
      get data "connection-type" = some ct) (hreq : HasRequiredFields data)
    (hwf : ∀ remotes, get data "remote" = some remotes →
      ∀ gw ∈ remoteEntries remotes, WellFormedRemote gw) {c : OvpnConfig}
    (hparse : OvpnConfig.parse (fromNmData data).emit = .ok c) :
    (fromNmData (asNmData c)).directives = (fromNmData data).directives ↔ ReadBack data := by
  have hc : c = fromNmData data := by
    have hsame := (parse_emit_fromNmData data).2 c hparse
    generalize fromNmData data = e at hsame
    obtain ⟨ds⟩ := c
    obtain ⟨ds'⟩ := e
    exact congrArg OvpnConfig.mk hsame
  rw [hc]
  constructor
  · intro h
    rw [← recognised_fromNmData_iff, ← h]
    exact (recognised_fromNmData_iff _).mpr (readBack_reimport data)
  · intro hread
    rw [fromNmData_reimport hct hreq hwf hread]

end Reimported

/-! ## A lost setting -/

/-- Two remotes, the second one an IPv6 literal. -/
private def sampleRemotes : String := "vpn.example.org:1194:udp, [fd00::1]:443"

private theorem wellFormed_sampleRemotes :
    ∀ gw ∈ remoteEntries sampleRemotes, WellFormedRemote gw := by
  have hentries : remoteEntries sampleRemotes =
      ["vpn.example.org:1194:udp".toList, "[fd00::1]:443".toList] := by decide
  rw [hentries]
  intro gw hgw
  simp only [List.mem_cons, List.not_mem_nil, or_false] at hgw
  rcases hgw with rfl | rfl
  · exact ⟨⟨"vpn.example.org".toList, ["1194".toList, "udp".toList], by decide⟩,
      forall_eq_false_of_all (by decide)⟩
  · exact ⟨⟨"fd00::1".toList, ["443".toList], by decide⟩,
      forall_eq_false_of_all (by decide)⟩

/-- A complete connection. -/
private def completeData : VpnData := Dict.ofList
  [("connection-type", "tls"), ("remote", sampleRemotes), ("ca", "/etc/vpn/ca.pem"),
    ("cert", "/etc/vpn/client.pem"), ("key", "/etc/vpn/client.key"),
    ("nm-openvpn3-extra-routes", "route 10.0.0.0 255.0.0.0")]

theorem reexport_eq_completeData :
    (fromNmData (asNmData (fromNmData completeData))).directives =
      (fromNmData completeData).directives := by
  refine (reexport_eq_iff ⟨"tls", by decide, by decide⟩
    (by unfold HasRequiredFields; decide) ?_ (c := fromNmData completeData) ?_).mpr ?_
  · intro remotes hr
    obtain rfl : sampleRemotes = remotes := Option.some_inj.mp hr
    exact wellFormed_sampleRemotes
  · rw [parse_emit (isOrdinary_fromNmData _)]
    have hvalid : (fromNmData completeData).validate = .ok () := by decide
    rw [hvalid]
    rfl
  · refine ⟨by decide, by decide, by decide, ?_⟩
    intro routes hr
    obtain rfl : "route 10.0.0.0 255.0.0.0" = routes := Option.some_inj.mp hr
    decide

/-- The same connection with a limit on the number of pushed routes. -/
private def maxRoutesData : VpnData := completeData.insert "max-routes" "100"

theorem reexport_ne_maxRoutesData : ¬∀ data : VpnData,
    (∃ ct ∈ ["tls", "password", "password-tls", "static-key"],
      get data "connection-type" = some ct) → HasRequiredFields data →
    (∀ remotes, get data "remote" = some remotes →
      ∀ gw ∈ remoteEntries remotes, WellFormedRemote gw) →
    ∀ c, OvpnConfig.parse (fromNmData data).emit = .ok c →
      (fromNmData (asNmData c)).directives = (fromNmData data).directives := by
  intro h
  have hvalid : (fromNmData maxRoutesData).validate = .ok () := by decide
  have hparse : OvpnConfig.parse (fromNmData maxRoutesData).emit =
      .ok (fromNmData maxRoutesData) := by
    rw [parse_emit (isOrdinary_fromNmData _), hvalid]
    rfl
  have hlost : .option "max-routes" ["100"] ∈ (fromNmData maxRoutesData).directives ∧
      .option "max-routes" ["100"] ∉
        (fromNmData (asNmData (fromNmData maxRoutesData))).directives := by decide
  have hsame := h maxRoutesData ⟨"tls", by decide, by decide⟩
    (by unfold HasRequiredFields; decide) (fun remotes hr ↦ ?_) _ hparse
  · exact hlost.2 ((congrArg (Directive.option "max-routes" ["100"] ∈ ·) hsame).mpr hlost.1)
  · obtain rfl : sampleRemotes = remotes := Option.some_inj.mp hr
    exact wellFormed_sampleRemotes

end Agreement

end NmOpenvpn3
