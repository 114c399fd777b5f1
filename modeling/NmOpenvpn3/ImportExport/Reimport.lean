import NmOpenvpn3.ImportExport.Imported
import NmOpenvpn3.ImportExport.Export

/-!
# Importing an export

What an export and an import make of a `vpn.data` map, key by key. The exporter writes every key in
one block and the importer reads every option back into one key, so the loop over an exported config
is a sequence of assignments to distinct keys: `reimportEntries` lists them, and
`asNmData_fromNmData` says that the imported map consists of them and the connection type.
-/

namespace NmOpenvpn3

namespace ImportExport

open Rust Ovpn

/-! ## Importing one block -/

section Blocks

variable (st : ImportState) {name : String}

theorem importAll_optArgs {arm : Arm} (h : importArms.lookup name = some arm) (v : Option String)
    (rest : List String) : importAll st (optArgs name v rest) =
      match v with
      | some v => arm.apply (v :: rest) st
      | none => st := by
  cases v with
  | none => rfl
  | some v =>
    change importDirective st (.option name (v :: rest)) = _
    rw [importDirective, h]

theorem importAll_value {k : String} (h : importArms.lookup name = some (.value k))
    (v : Option String) :
    importAll st (optStr name v) = { st with data := st.data.setOpt k v } := by
  rw [optStr, importAll_optArgs st h]
  cases v <;> rfl

theorem importAll_unknown (h : importArms.lookup name = none) (v : Option String) :
    importAll st (optStr name v) = st := by
  cases v with
  | none => rfl
  | some v =>
    change importDirective st (.option name [v]) = _
    rw [importDirective, h]

/-- The value of a switch. -/
def yesIf (b : Bool) : Option String := if b then some "yes" else none

theorem importAll_flag {k : String} (h : importArms.lookup name = some (.flag k)) (b : Bool) :
    importAll st (optFlag name b) = { st with data := st.data.setOpt k (yesIf b) } := by
  cases b with
  | false => rfl
  | true =>
    change importDirective st (.option name []) = _
    rw [importDirective, h]
    rfl

theorem importAll_ignored (h : importArms.lookup name = some .ignored) (b : Bool) :
    importAll st (optFlag name b) = st := by
  cases b with
  | false => rfl
  | true =>
    change importDirective st (.option name []) = _
    rw [importDirective, h]
    rfl

theorem importAll_optYes {k : String} (h : importArms.lookup name = some (.valueOr k "yes"))
    (v : Option String) :
    importAll st (optYes name v) = { st with data := st.data.setOpt k v } := by
  cases v with
  | none => rfl
  | some v =>
    change importDirective st (.option name (if v = "yes" then [] else [v])) = _
    rw [importDirective, h]
    by_cases hv : v = "yes"
    · rw [if_pos hv, hv]
      rfl
    · rw [if_neg hv]
      rfl

/-- Of a table of keys the importer reads back those whose option it knows. -/
theorem importAll_pairDirectives {pairs : List (String × String)}
    (h : ∀ p ∈ pairs, importArms.lookup p.2 = some (.value p.1) ∨ importArms.lookup p.2 = none)
    (data : VpnData) : importAll st (pairDirectives data pairs) =
      { st with
        data := st.data.setAll ((pairs.filter fun p ↦ (importArms.lookup p.2).isSome).map
          fun p ↦ (p.1, get data p.1)) } := by
  induction pairs generalizing st with
  | nil => rfl
  | cons p pairs ih =>
    have ih' := fun st ↦ ih st fun q hq ↦ h q (List.mem_cons_of_mem _ hq)
    rw [pairDirectives, List.flatMap_cons, importAll_append]
    rcases h p List.mem_cons_self with hp | hp
    · rw [importAll_value st hp, List.filter_cons_of_pos (by rw [hp]; rfl)]
      exact ih' _
    · rw [importAll_unknown st hp, List.filter_cons_of_neg (by simp [hp])]
      exact ih' _

theorem exists_appendAll_some (sep e : String) (items : List String) :
    ∃ r, appendAll sep (some e) items = some r := by
  induction items generalizing e with
  | nil => exact ⟨e, rfl⟩
  | cons item items ih => exact ih _

/-- An entry that is appended to twice is appended to once. -/
theorem setOpt_appendAll_cons (data : VpnData) (k sep item : String) (items : List String) :
    (data.insert k (appendEntry sep (data k) item)).setOpt k
        (appendAll sep (some (appendEntry sep (data k) item)) items) =
      data.setOpt k (appendAll sep (data k) (item :: items)) := by
  have hcons : appendAll sep (data k) (item :: items) =
      appendAll sep (some (appendEntry sep (data k) item)) items := rfl
  obtain ⟨r, hr⟩ := exists_appendAll_some sep (appendEntry sep (data k) item) items
  rw [hcons, hr, Dict.insert_setOpt_some]

theorem importAll_remote (l : List (List String)) :
    importAll st (l.map (.option "remote")) =
      { st with
        data := st.data.setOpt "remote"
          (appendAll "," (st.data "remote") (l.map remoteEntry)) } := by
  induction l generalizing st with
  | nil =>
    simp only [List.map_nil, importAll_nil, appendAll, List.foldl_nil, Dict.setOpt_eq_self]
  | cons args l ih =>
    have harm : importDirective st (.option "remote" args) = Arm.remote.apply args st := rfl
    rw [List.map_cons, importAll_cons, ih, harm, List.map_cons, ← setOpt_appendAll_cons]
    simp only [Arm.apply, Dict.insert_self]

/-- The preserved lines of the `route` options among some directives. -/
def routesOf (ds : List Directive) : List String := (argsOf "route" ds).map routeLine

theorem importAll_routes {ds : List Directive}
    (h : ∀ x ∈ ds, ∃ name args, x = .option name args ∧
      (name = "route" ∨ importArms.lookup name = none)) :
    importAll st ds =
      { st with
        data := st.data.setOpt "nm-openvpn3-extra-routes"
          (appendAll "\n" (st.data "nm-openvpn3-extra-routes") (routesOf ds)) } := by
  induction ds generalizing st with
  | nil =>
    simp only [importAll_nil, routesOf, argsOf, List.filterMap_nil, List.map_nil, appendAll,
      List.foldl_nil, Dict.setOpt_eq_self]
  | cons x ds ih =>
    have ih' := fun st ↦ ih st fun y hy ↦ h y (List.mem_cons_of_mem _ hy)
    obtain ⟨name, args, rfl, hname⟩ := h x List.mem_cons_self
    by_cases hr : name = "route"
    · subst hr
      have harm : importDirective st (.option "route" args) = Arm.route.apply args st := rfl
      have hcons : routesOf (.option "route" args :: ds) = routeLine args :: routesOf ds := by
        rw [routesOf, argsOf_cons_self, List.map_cons, ← routesOf]
      rw [importAll_cons, ih', harm, hcons, ← setOpt_appendAll_cons]
      simp only [Arm.apply, Dict.insert_self]
    · -- Another member of the route family is dropped.
      have harm : importDirective st (.option name args) = st := by
        rw [importDirective, hname.resolve_left hr]
      have hcons : routesOf (.option name args :: ds) = routesOf ds := by
        rw [routesOf, argsOf_cons_of_ne, ← routesOf]
        rintro args' ⟨⟩
        exact hr rfl
      rw [importAll_cons, ih', harm, hcons]

end Blocks

/-! ## The values that come back -/

section Values

variable (data : VpnData)

/-- A key that is written for TLS connections only. -/
def tlsValue (k : String) : Option String :=
  if isTlsLike (get data "connection-type") then get data k else none

/-- The static key, for the connections that use one. -/
def secretValue : Option String :=
  if get data "connection-type" = some "static-key" then get data "static-key" else none

/-- A value that is written behind another one. -/
def behind (v w : Option String) : Option String := v.bind fun _ ↦ w

/-- What is stored for a `comp-lzo` that was written. -/
def compLzoStored (lzo : String) : String :=
  if compLzoWire lzo = "no" then "no-by-default" else compLzoWire lzo

/-- A key that is written unless compression is disallowed. -/
def compressionValue (v : Option String) : Option String :=
  if get data "allow-compression" = some "no" then none else v

/-- The kind of proxy, its server and its port, as far as they are written. -/
def proxyValue : Option (String × String × String) :=
  match get data "proxy-type", get data "proxy-server" with
  | some pt, some server =>
    if pt = "http" then some ("http", server, (get data "proxy-port").getD "8080")
    else if pt = "socks" then some ("socks", server, (get data "proxy-port").getD "1080")
    else none
  | _, _ => none

/-- The remote list, decomposed and put together again. -/
def remoteValue : Option String :=
  match get data "remote" with
  | some remotes =>
    appendAll "," none ((remoteEntries remotes).map fun gw ↦ remoteEntry (remoteArgs gw))
  | none => none

/-- The preserved routes, decomposed and put together again. -/
def routesValue : Option String := appendAll "\n" none (routesOf (routeDirectives data))

/-- What an export and an import make of the keys, up to the preserved routes. -/
def entriesBeforeRoutes : List (String × Option String) :=
  [("remote", remoteValue data),
   ("remote-random", yesIf (isYes data "remote-random")),
   ("remote-random-hostname", yesIf (isYes data "remote-random-hostname")),
   ("allow-pull-fqdn", yesIf (isYes data "allow-pull-fqdn")),
   ("tun-ipv6", yesIf (isYes data "tun-ipv6")),
   ("push-peer-info", yesIf (isYes data "push-peer-info")),
   ("ca", caValue data),
   ("cert", userCertValue data "cert"),
   ("key", userCertValue data "key"),
   ("static-key", secretValue data),
   ("static-key-direction", behind (secretValue data) (get data "static-key-direction")),
   ("reneg-seconds", get data "reneg-seconds"),
   ("cipher", get data "cipher"),
   ("data-ciphers", get data "data-ciphers"),
   ("data-ciphers-fallback", get data "data-ciphers-fallback"),
   ("tls-cipher", get data "tls-cipher"),
   ("keysize", get data "keysize"),
   ("allow-compression", get data "allow-compression"),
   ("auth", get data "auth"),
   ("tunnel-mtu", get data "tunnel-mtu"),
   ("connect-timeout", get data "connect-timeout"),
   ("fragment-size", get data "fragment-size"),
   ("port", get data "port"),
   ("ping", get data "ping"),
   ("ping-exit", get data "ping-exit"),
   ("ping-restart", get data "ping-restart"),
   ("comp-lzo", compressionValue data ((get data "comp-lzo").map compLzoStored)),
   ("compress", compressionValue data (get data "compress")),
   ("float", yesIf (isYes data "float")),
   ("mssfix", get data "mssfix"),
   ("local-ip", behind (get data "remote-ip") (get data "local-ip")),
   ("remote-ip", behind (get data "local-ip") (get data "remote-ip"))]

/-- The keys from the preserved routes on. -/
def entriesFromRoutes : List (String × Option String) :=
  [("nm-openvpn3-extra-routes", routesValue data),
   ("verify-x509-name", tlsValue data "verify-x509-name"),
   ("ta", tlsValue data "ta"),
   ("ta-dir", behind (tlsValue data "ta") (get data "ta-dir")),
   ("tls-crypt", tlsValue data "tls-crypt"),
   ("tls-crypt-v2", tlsValue data "tls-crypt-v2"),
   ("tls-version-min", tlsValue data "tls-version-min"),
   ("tls-version-min-or-highest",
     behind (tlsValue data "tls-version-min") (yesIf (isYes data "tls-version-min-or-highest"))),
   ("remote-cert-tls", tlsValue data "remote-cert-tls"),
   ("ns-cert-type", tlsValue data "ns-cert-type"),
   ("tls-remote", tlsValue data "tls-remote"),
   ("tls-version-max", tlsValue data "tls-version-max"),
   ("extra-certs", tlsValue data "extra-certs"),
   ("crl-verify-file", tlsValue data "crl-verify-file"),
   ("crl-verify-dir",
     if (get data "crl-verify-file").isSome then none else tlsValue data "crl-verify-dir"),
   ("dev", some (chosenDev data)),
   ("dev-type", get data "dev-type"),
   ("proto-tcp", yesIf (isYes data "proto-tcp")),
   ("proxy-type", (proxyValue data).map fun p ↦ p.1),
   ("proxy-server", (proxyValue data).map fun p ↦ p.2.1),
   ("proxy-port", (proxyValue data).map fun p ↦ p.2.2)]

/-- What an export and an import make of each key. -/
def reimportEntries : List (String × Option String) :=
  entriesBeforeRoutes data ++ entriesFromRoutes data

end Values

/-! ## Blocks with arms of their own -/

section OwnArms

variable (st : ImportState) (data : VpnData)

theorem importAll_remoteDirectives (h : st.data "remote" = none) :
    importAll st (remoteDirectives data) =
      { st with data := st.data.setOpt "remote" (remoteValue data) } := by
  rw [remoteDirectives, remoteValue]
  cases get data "remote" with
  | none => rfl
  | some remotes =>
    have := importAll_remote st ((remoteEntries remotes).map remoteArgs)
    rw [List.map_map, List.map_map, h] at this
    exact this

theorem importAll_certDirectives : importAll st (certDirectives data) =
    { st with
      data := st.data.setAll [("ca", caValue data), ("cert", userCertValue data "cert"),
        ("key", userCertValue data "key")]
      haveCa := st.haveCa || (caValue data).isSome
      haveCert := st.haveCert || (userCertValue data "cert").isSome
      haveKey := st.haveKey || (userCertValue data "key").isSome } := by
  rw [certDirectives]
  split_ifs with h
  · obtain ⟨p, hca, hcert, hkey, -⟩ := pkcs12Collapse_iff.mp h
    rw [hca, hcert, hkey]
    rfl
  · have hca : importArms.lookup "ca" = some .ca := by decide
    have hcert : importArms.lookup "cert" = some .cert := by decide
    have hkey : importArms.lookup "key" = some .key := by decide
    rw [importAll_append, importAll_append, optStr, optStr, optStr, importAll_optArgs _ hca,
      importAll_optArgs _ hcert, importAll_optArgs _ hkey]
    cases caValue data <;> cases userCertValue data "cert" <;>
      cases userCertValue data "key" <;> simp [Arm.apply]

theorem importAll_authUserPass (b : Bool) : importAll st (optFlag "auth-user-pass" b) =
    { st with haveAuthUserPass := st.haveAuthUserPass || b } := by
  cases b with
  | false => rw [Bool.or_false]; rfl
  | true => rw [Bool.or_true]; rfl

theorem importAll_secretDirectives : importAll st (secretDirectives data) =
    { st with
      data := st.data.setAll [("static-key", secretValue data),
        ("static-key-direction", behind (secretValue data) (get data "static-key-direction"))]
      haveSecret := st.haveSecret || (secretValue data).isSome } := by
  rw [secretDirectives, secretValue]
  by_cases hct : get data "connection-type" = some "static-key"
  · rw [if_pos hct, decide_eq_true hct, gated, if_pos rfl,
      importAll_optArgs st (show importArms.lookup "secret" = some .secret by decide)]
    cases get data "static-key" with
    | none => simp [behind]
    | some secret => cases get data "static-key-direction" <;> simp [behind, Arm.apply]
  · rw [if_neg hct, decide_eq_false hct]
    simp [gated, behind]

theorem importAll_compressionDirectives : importAll st (compressionDirectives data) =
    { st with
      data := st.data.setAll
        [("comp-lzo", compressionValue data ((get data "comp-lzo").map compLzoStored)),
          ("compress", compressionValue data (get data "compress"))] } := by
  rw [compressionDirectives]
  by_cases hac : get data "allow-compression" = some "no"
  · simp [gated, compressionValue, hac]
  · rw [decide_eq_true hac, gated, if_pos rfl, importAll_append,
      importAll_optYes _ (show importArms.lookup "compress" = some (.valueOr "compress" "yes") by
        decide), optStr,
      importAll_optArgs st (show importArms.lookup "comp-lzo" = some .compLzo by decide),
      compressionValue, if_neg hac,
      compressionValue, if_neg hac]
    cases get data "comp-lzo" <;> rfl

theorem importAll_ifconfigDirectives : importAll st (ifconfigDirectives data) =
    { st with
      data := st.data.setAll [("local-ip", behind (get data "remote-ip") (get data "local-ip")),
        ("remote-ip", behind (get data "local-ip") (get data "remote-ip"))] } := by
  rw [ifconfigDirectives]
  cases get data "local-ip" with
  | none => cases get data "remote-ip" <;> rfl
  | some l => cases get data "remote-ip" <;> rfl

/-- The tag of a preserved route is `route` or unknown to the importer. -/
theorem route_or_unknown_of_mem_routeDirectives {data : VpnData} :
    ∀ x ∈ routeDirectives data, ∃ name args, x = .option name args ∧
      (name = "route" ∨ importArms.lookup name = none) := by
  intro x hx
  obtain ⟨name, args, rfl, hname⟩ := lookup_of_mem_routeDirectives
    (fun p hp ↦ List.all_eq_true.mp
      ((by decide : ∀ p ∈ importArms, p.1.toList.all isAscii = true) p hp)) x hx
  refine ⟨name, args, rfl, hname.elim (fun hfam ↦ ?_) .inr⟩
  exact (by decide : ∀ name ∈ routeFamily, name = "route" ∨ importArms.lookup name = none) name hfam

theorem x509Value_verifyX509Args (v : String) : x509Value (verifyX509Args v) = v := by
  rw [verifyX509Args]
  cases hs : splitOnce ':' v.toList with
  | none => rfl
  | some p =>
    obtain ⟨ty, name⟩ := p
    simp only
    split_ifs
    · rw [← String.toList_inj, (eq_append_of_splitOnce hs).2]
      simp [x509Value]
    · rfl

theorem importAll_verifyX509Directives : importAll st (verifyX509Directives data) =
    { st with data := st.data.setOpt "verify-x509-name" (get data "verify-x509-name") } := by
  rw [verifyX509Directives]
  cases get data "verify-x509-name" with
  | none => rfl
  | some v =>
    change Arm.verifyX509Name.apply (verifyX509Args v) st = _
    rw [Arm.apply, x509Value_verifyX509Args]
    rfl

theorem importAll_tlsAuth : importAll st (optArgs "tls-auth" (get data "ta")
      (get data "ta-dir").toList) =
    { st with
      data := st.data.setAll [("ta", get data "ta"),
        ("ta-dir", behind (get data "ta") (get data "ta-dir"))]
      haveTlsAuth := st.haveTlsAuth || (get data "ta").isSome } := by
  rw [importAll_optArgs st (show importArms.lookup "tls-auth" = some .tlsAuth by decide)]
  cases get data "ta" with
  | none => simp [behind]
  | some ta => cases get data "ta-dir" <;> simp [behind, Arm.apply]

theorem importAll_tlsVersionMinDirectives : importAll st (tlsVersionMinDirectives data) =
    { st with
      data := st.data.setAll [("tls-version-min", get data "tls-version-min"),
        ("tls-version-min-or-highest", behind (get data "tls-version-min")
          (yesIf (isYes data "tls-version-min-or-highest")))] } := by
  rw [tlsVersionMinDirectives,
    importAll_optArgs st (show importArms.lookup "tls-version-min" = some .tlsVersionMin by decide)]
  cases get data "tls-version-min" with
  | none => rfl
  | some v =>
    by_cases hy : get data "tls-version-min-or-highest" = some "yes"
    · simp [hy, Arm.apply, behind, isYes, yesIf]
    · simp [hy, Arm.apply, behind, isYes, yesIf]

theorem importAll_crlVerifyDirectives : importAll st (crlVerifyDirectives data) =
    { st with
      data := st.data.setAll [("crl-verify-file", get data "crl-verify-file"),
        ("crl-verify-dir",
          if (get data "crl-verify-file").isSome then none else get data "crl-verify-dir")] } := by
  rw [crlVerifyDirectives]
  cases get data "crl-verify-file" with
  | some file => rfl
  | none => cases get data "crl-verify-dir" <;> rfl

theorem importAll_proto : importAll st [.option "proto" [protoValue data]] =
    { st with data := st.data.setOpt "proto-tcp" (yesIf (isYes data "proto-tcp")) } := by
  rw [protoValue, isYes]
  by_cases hp : get data "proto-tcp" = some "yes"
  · rw [if_pos hp, hp]
    rfl
  · rw [if_neg hp, beq_eq_false_iff_ne.mpr hp]
    rfl

theorem importAll_dev : importAll st [.option "dev" [chosenDev data]] =
    { st with data := st.data.setOpt "dev" (some (chosenDev data)) } := rfl

/-- An option that the importer does not know is read over. -/
theorem importAll_unknownFlag {name : String} (h : importArms.lookup name = none) (b : Bool) :
    importAll st (optFlag name b) = st := by
  cases b with
  | false => rfl
  | true =>
    change importDirective st (.option name []) = _
    rw [importDirective, h]

theorem importAll_proxyDirectives : importAll st (proxyDirectives data) =
    { st with
      data := st.data.setAll [("proxy-type", (proxyValue data).map fun p ↦ p.1),
        ("proxy-server", (proxyValue data).map fun p ↦ p.2.1),
        ("proxy-port", (proxyValue data).map fun p ↦ p.2.2)] } := by
  rw [proxyDirectives, proxyValue]
  cases get data "proxy-type" with
  | none => rfl
  | some pt =>
    cases get data "proxy-server" with
    | none => rfl
    | some server =>
      -- The retry option that may follow is one that the importer does not know.
      by_cases hhttp : pt = "http"
      · simp only [if_pos hhttp, importAll_cons]
        rw [importAll_unknownFlag _ (by decide)]
        rfl
      by_cases hsocks : pt = "socks"
      · simp only [if_neg hhttp, if_pos hsocks, importAll_cons]
        rw [importAll_unknownFlag _ (by decide)]
        rfl
      · simp only [if_neg hhttp, if_neg hsocks]
        rfl

theorem importAll_tailDirectives : importAll st tailDirectives = st := rfl

end OwnArms

/-! ## The whole export -/

/-- The state of the import loop at the end of an export. -/
def reimportState (data : VpnData) : ImportState where
  data := Dict.empty.setAll (reimportEntries data)
  haveAuthUserPass := isPasswordLike (get data "connection-type")
  haveCert := (userCertValue data "cert").isSome
  haveKey := (userCertValue data "key").isSome
  haveSecret := (secretValue data).isSome
  haveCa := (caValue data).isSome
  haveTlsAuth := (tlsValue data "ta").isSome
  keyDirection := none

/-- The importer knows all but two options of the unconditional table. -/
theorem known_pairsStr : (pairsStr.filter fun p ↦ (importArms.lookup p.2).isSome).map Prod.fst =
    ["reneg-seconds", "cipher", "data-ciphers", "data-ciphers-fallback", "tls-cipher", "keysize",
      "allow-compression", "auth", "tunnel-mtu", "connect-timeout", "fragment-size", "port", "ping",
      "ping-exit", "ping-restart"] := by
  decide

/-- The importer knows every option of the TLS table. -/
theorem known_tlsPairs : (tlsPairs.filter fun p ↦ (importArms.lookup p.2).isSome).map Prod.fst =
    ["remote-cert-tls", "ns-cert-type", "tls-remote", "tls-version-max", "extra-certs"] := by
  decide

theorem importAll_known {pairs : List (String × String)} {ks : List String}
    (h : ∀ p ∈ pairs, importArms.lookup p.2 = some (.value p.1) ∨ importArms.lookup p.2 = none)
    (hks : (pairs.filter fun p ↦ (importArms.lookup p.2).isSome).map Prod.fst = ks)
    (st : ImportState) (data : VpnData) : importAll st (pairDirectives data pairs) =
      { st with data := st.data.setAll (ks.map fun k ↦ (k, get data k)) } := by
  rw [importAll_pairDirectives st h, ← hks, List.map_map]
  rfl

theorem importAll_fromNmData (data : VpnData) :
    importAll .init (fromNmData data).directives = reimportState data := by
  have hflag := fun st b k (h : importArms.lookup k = some (.flag k)) ↦
    importAll_flag st h b
  have hvalue := fun st v k (h : importArms.lookup k = some (.value k)) ↦
    importAll_value st h v
  have hyes := fun st v k (h : importArms.lookup k = some (.valueOr k "yes")) ↦
    importAll_optYes st h v
  simp only [fromNmData, List.flatten_cons, List.flatten_nil, List.append_nil, importAll_append,
    importAll_ignored _ (show importArms.lookup "client" = some .ignored by decide)]
  rw [importAll_remoteDirectives _ _ rfl]
  -- The blocks up to the preserved routes, then these, then the blocks after them.
  simp (disch := decide) only [hflag, hvalue, hyes, importAll_known (by decide) known_pairsStr,
    importAll_certDirectives, importAll_authUserPass, importAll_secretDirectives,
    importAll_compressionDirectives, importAll_ifconfigDirectives, List.map_cons, List.map_nil,
    Dict.setAll_cons, Dict.setAll_nil]
  rw [importAll_routes _ route_or_unknown_of_mem_routeDirectives]
  simp (disch := decide) only [Dict.setOpt_of_ne]
  rw [reimportState, reimportEntries, Dict.setAll_append]
  simp only [tlsValue, entriesBeforeRoutes, entriesFromRoutes]
  cases isTlsLike (get data "connection-type") with
  | true =>
    simp (disch := decide) only [gated, if_true, hvalue, importAll_verifyX509Directives,
      importAll_tlsAuth, importAll_tlsVersionMinDirectives, importAll_crlVerifyDirectives,
      importAll_known (by decide) known_tlsPairs, importAll_dev, importAll_proto,
      importAll_proxyDirectives, importAll_tailDirectives, List.map_cons, List.map_nil,
      Dict.setAll_cons, Dict.setAll_nil]
    rfl
  | false =>
    simp only [gated, Bool.false_eq_true, if_false, importAll_nil, importAll_dev,
      importAll_proto, importAll_proxyDirectives, importAll_tailDirectives,
      behind, Option.bind_none, ite_self, Dict.setOpt_none, Dict.setAll_cons, Dict.setAll_nil]
    rfl

/-- The keys of the entries. -/
def reimportKeys : List String :=
  ["remote", "remote-random", "remote-random-hostname", "allow-pull-fqdn", "tun-ipv6",
    "push-peer-info", "ca", "cert", "key", "static-key", "static-key-direction", "reneg-seconds",
    "cipher", "data-ciphers", "data-ciphers-fallback", "tls-cipher", "keysize",
    "allow-compression", "auth", "tunnel-mtu", "connect-timeout", "fragment-size", "port", "ping",
    "ping-exit", "ping-restart", "comp-lzo", "compress", "float", "mssfix", "local-ip",
    "remote-ip", "nm-openvpn3-extra-routes", "verify-x509-name", "ta", "ta-dir", "tls-crypt",
    "tls-crypt-v2", "tls-version-min", "tls-version-min-or-highest", "remote-cert-tls",
    "ns-cert-type", "tls-remote", "tls-version-max", "extra-certs", "crl-verify-file",
    "crl-verify-dir", "dev", "dev-type", "proto-tcp", "proxy-type", "proxy-server", "proxy-port"]

theorem reimportEntries_keys (data : VpnData) :
    (reimportEntries data).map Prod.fst = reimportKeys := rfl

theorem nodup_reimportKeys : reimportKeys.Nodup := by decide

/-- **Importing an export** gives the entries and the inferred connection type. -/
theorem asNmData_fromNmData (data : VpnData) : asNmData (fromNmData data) =
    Dict.insert (Dict.empty.setAll (reimportEntries data)) "connection-type"
      (inferConnectionType (reimportState data)) := by
  rw [asNmData, importAll_fromNmData]
  rfl

theorem reimport_connectionType (data : VpnData) : asNmData (fromNmData data) "connection-type" =
    some (inferConnectionType (reimportState data)) := by
  rw [asNmData_fromNmData, Dict.insert_self]

theorem reimport_of_mem {data : VpnData} {k : String} {v : Option String}
    (h : (k, v) ∈ reimportEntries data) : asNmData (fromNmData data) k = v := by
  have hmem : k ∈ reimportKeys := reimportEntries_keys data ▸ List.mem_map.mpr ⟨_, h, rfl⟩
  have hne : k ≠ "connection-type" := by
    rintro rfl
    revert hmem
    decide
  rw [asNmData_fromNmData, Dict.insert_of_ne hne,
    Dict.setAll_of_mem (reimportEntries_keys data ▸ nodup_reimportKeys) h, Dict.empty_apply,
    Option.or_none]

theorem reimport_of_not_mem {data : VpnData} {k : String} (h : k ∉ reimportKeys)
    (hne : k ≠ "connection-type") : asNmData (fromNmData data) k = none := by
  rw [asNmData_fromNmData, Dict.insert_of_ne hne,
    Dict.setAll_of_not_mem (reimportEntries_keys data ▸ h), Dict.empty_apply]

end ImportExport

end NmOpenvpn3
