import NmOpenvpn3.Ovpn.Config
import NmOpenvpn3.Ovpn.VpnData

/-!
# Export: from `vpn.data` to directives

`fromNmData` writes an `.ovpn` config for a `vpn.data` map. It is a concatenation of blocks, one for
each group of keys, in the order of the source; a block is empty when its keys are unset or its
connection type is another one.

`parse_emit_fromNmData` is the main result: the exported text means exactly what was exported.
-/

namespace NmOpenvpn3

namespace ImportExport

open Rust Ovpn

/-! ## Building blocks -/

/-- An option with a value, written if the value is there. -/
def optArgs (name : String) (value : Option String) (rest : List String) : List Directive :=
  value.toList.map fun v ↦ .option name (v :: rest)

/-- An option with one argument, written if the value is there. -/
def optStr (name : String) (value : Option String) : List Directive := optArgs name value []

/-- An option without arguments. -/
def optFlag (name : String) (b : Bool) : List Directive := if b then [.option name []] else []

/-- An option whose value `yes` is written as a flag. -/
def optYes (name : String) (value : Option String) : List Directive :=
  value.toList.map fun v ↦ .option name (if v = "yes" then [] else [v])

/-- A block that is written on a condition. -/
def gated (b : Bool) (ds : List Directive) : List Directive := if b then ds else []

/-! ## The blocks of the exporter -/

/-- One `remote` for each entry of the remote list. -/
def remoteDirectives (data : VpnData) : List Directive :=
  match get data "remote" with
  | some remotes => (remoteEntries remotes).map fun gw ↦ .option "remote" (remoteArgs gw)
  | none => []

/-- The exporter's condition for a single `pkcs12` directive. -/
def pkcs12Collapse (ca cert key : Option String) : Bool :=
  match ca, cert, key with
  | some a, some c, some k => a == c && c == k && isPkcs12Path c
  | _, _, _ => false

theorem pkcs12Collapse_iff {ca cert key : Option String} :
    pkcs12Collapse ca cert key = true ↔
      ∃ p, ca = some p ∧ cert = some p ∧ key = some p ∧ isPkcs12Path p = true := by
  cases ca with
  | none => simp [pkcs12Collapse]
  | some a =>
    cases cert with
    | none => simp [pkcs12Collapse]
    | some c =>
      cases key with
      | none => simp [pkcs12Collapse]
      | some k =>
        simp only [pkcs12Collapse, Bool.and_eq_true, beq_iff_eq, Option.some.injEq]
        constructor
        · rintro ⟨⟨rfl, rfl⟩, hp⟩
          exact ⟨a, rfl, rfl, rfl, hp⟩
        · rintro ⟨p, rfl, rfl, rfl, hp⟩
          exact ⟨⟨rfl, rfl⟩, hp⟩

/-- The certificate authority, the certificate and the private key. -/
def certDirectives (data : VpnData) : List Directive :=
  let cert := userCertValue data "cert"
  let key := userCertValue data "key"
  if pkcs12Collapse (caValue data) cert key then [.option "pkcs12" [cert.getD ""]]
  else optStr "ca" (caValue data) ++ optStr "cert" cert ++ optStr "key" key

/-- The static key, with its direction. -/
def secretDirectives (data : VpnData) : List Directive :=
  gated (get data "connection-type" = some "static-key")
    (optArgs "secret" (get data "static-key") (get data "static-key-direction").toList)

/-- The keys that are written as they are, with the option that each is written as. -/
def pairsStr : List (String × String) :=
  [("reneg-seconds", "reneg-sec"),
   ("max-routes", "max-routes"),
   ("cipher", "cipher"),
   ("data-ciphers", "data-ciphers"),
   ("data-ciphers-fallback", "data-ciphers-fallback"),
   ("tls-cipher", "tls-cipher"),
   ("keysize", "keysize"),
   ("allow-compression", "allow-compression"),
   ("auth", "auth"),
   ("mtu-disc", "mtu-disc"),
   ("tunnel-mtu", "tun-mtu"),
   ("connect-timeout", "connect-timeout"),
   ("fragment-size", "fragment"),
   ("port", "port"),
   ("ping", "ping"),
   ("ping-exit", "ping-exit"),
   ("ping-restart", "ping-restart")]

/-- The directives of a table of keys. -/
def pairDirectives (data : VpnData) (pairs : List (String × String)) : List Directive :=
  pairs.flatMap fun p ↦ optStr p.2 (get data p.1)

/-- Compression, unless it is disallowed. -/
def compressionDirectives (data : VpnData) : List Directive :=
  gated (get data "allow-compression" ≠ some "no")
    (optStr "comp-lzo" ((get data "comp-lzo").map compLzoWire) ++
      optYes "compress" (get data "compress"))

/-- Both ends of a point-to-point tunnel. -/
def ifconfigDirectives (data : VpnData) : List Directive :=
  match get data "local-ip", get data "remote-ip" with
  | some l, some r => [.option "ifconfig" [l, r]]
  | _, _ => []

/-- A preserved route line, tokenized again. -/
def routeDirective (line : List Char) : List Directive :=
  match tokenize line with
  | .ok (name :: rest) => [.option name rest]
  | _ => []

/-- The preserved routes that pass the allow-list. -/
def routeDirectives (data : VpnData) : List Directive :=
  match get data "nm-openvpn3-extra-routes" with
  | some routes => (safeRouteLines routes).flatMap routeDirective
  | none => []

/-- The name that the peer's certificate must carry. -/
def verifyX509Directives (data : VpnData) : List Directive :=
  (get data "verify-x509-name").toList.map fun x509 ↦
    .option "verify-x509-name" (verifyX509Args x509)

/-- The lowest TLS version. -/
def tlsVersionMinDirectives (data : VpnData) : List Directive :=
  optArgs "tls-version-min" (get data "tls-version-min")
    (if get data "tls-version-min-or-highest" = some "yes" then ["or-highest"] else [])

/-- The keys of the TLS context that are written as they are. -/
def tlsPairs : List (String × String) :=
  [("remote-cert-tls", "remote-cert-tls"),
   ("ns-cert-type", "ns-cert-type"),
   ("tls-remote", "tls-remote"),
   ("tls-version-max", "tls-version-max"),
   ("extra-certs", "extra-certs")]

/-- The revocation list, a file before a directory. -/
def crlVerifyDirectives (data : VpnData) : List Directive :=
  match get data "crl-verify-file", get data "crl-verify-dir" with
  | some file, _ => [.option "crl-verify" [file]]
  | none, some dir => [.option "crl-verify" [dir, "dir"]]
  | none, none => []

/-- The proxy in front of the remotes. -/
def proxyDirectives (data : VpnData) : List Directive :=
  match get data "proxy-type", get data "proxy-server" with
  | some pt, some server =>
    if pt = "http" then
      .option "http-proxy" [server, (get data "proxy-port").getD "8080"] ::
        optFlag "http-proxy-retry" (get data "proxy-retry" = some "yes")
    else if pt = "socks" then
      .option "socks-proxy" [server, (get data "proxy-port").getD "1080"] ::
        optFlag "socks-proxy-retry" (get data "proxy-retry" = some "yes")
    else []
  | _, _ => []

/-- The hard-coded end of every export. -/
def tailDirectives : List Directive :=
  [.option "nobind" [],
   .option "auth-nocache" [],
   .option "script-security" ["2"],
   .option "persist-key" [],
   .option "persist-tun" [],
   .option "user" ["nm-openvpn3"],
   .option "group" ["nm-openvpn3"]]

/-- `OvpnConfig::from_nm_data`. -/
def fromNmData (data : VpnData) : OvpnConfig :=
  let connectionType := get data "connection-type"
  let tls := isTlsLike connectionType
  ⟨List.flatten
    [optFlag "client" tls,
     remoteDirectives data,
     optFlag "remote-random" (isYes data "remote-random"),
     optFlag "remote-random-hostname" (isYes data "remote-random-hostname"),
     optFlag "allow-pull-fqdn" (isYes data "allow-pull-fqdn"),
     optFlag "tun-ipv6" (isYes data "tun-ipv6"),
     optFlag "push-peer-info" (isYes data "push-peer-info"),
     certDirectives data,
     optFlag "auth-user-pass" (isPasswordLike connectionType),
     secretDirectives data,
     pairDirectives data pairsStr,
     compressionDirectives data,
     optFlag "float" (isYes data "float"),
     optYes "mssfix" (get data "mssfix"),
     ifconfigDirectives data,
     routeDirectives data,
     gated tls (verifyX509Directives data),
     gated tls (optArgs "tls-auth" (get data "ta") (get data "ta-dir").toList),
     gated tls (optStr "tls-crypt" (get data "tls-crypt")),
     gated tls (optStr "tls-crypt-v2" (get data "tls-crypt-v2")),
     gated tls (tlsVersionMinDirectives data),
     gated tls (pairDirectives data tlsPairs),
     gated tls (crlVerifyDirectives data),
     [.option "dev" [chosenDev data]],
     optStr "dev-type" (get data "dev-type"),
     [.option "proto" [protoValue data]],
     proxyDirectives data,
     tailDirectives]⟩

/-! ## The options of an export -/

/-- The option names that the emitters write for keys that are set. -/
def optionTags : List String :=
  ["client", "remote", "remote-random", "remote-random-hostname", "allow-pull-fqdn", "tun-ipv6",
    "push-peer-info", "pkcs12", "ca", "cert", "key", "auth-user-pass", "secret", "reneg-sec",
    "max-routes", "cipher", "data-ciphers", "data-ciphers-fallback", "tls-cipher", "auth",
    "keysize", "allow-compression", "comp-lzo", "compress", "float", "mssfix", "mtu-disc",
    "tun-mtu", "connect-timeout", "fragment", "port", "ping", "ping-exit", "ping-restart",
    "ifconfig", "verify-x509-name", "tls-auth", "tls-crypt", "tls-crypt-v2", "tls-version-min",
    "tls-version-max", "remote-cert-tls", "ns-cert-type", "tls-remote", "extra-certs",
    "crl-verify", "dev", "dev-type", "proto", "http-proxy", "http-proxy-retry", "socks-proxy",
    "socks-proxy-retry"]

/-- The option names of the hard-coded end. -/
def tailTags : List String :=
  ["nobind", "auth-nocache", "script-security", "persist-key", "persist-tun", "user", "group"]

/-- The option names that the emitters write themselves. -/
def emitterTags : List String := optionTags ++ tailTags

theorem ordinaryName_of_mem_emitterTags {name : String} (h : name ∈ emitterTags) :
    OrdinaryName name := by
  have : ∀ name ∈ emitterTags, optionName name = name.toList ∧ blobTag name.toList = none := by
    decide
  exact this name h

/-- The directive is an option under one of the given names. -/
def IsTagged (tags : List String) (x : Directive) : Prop :=
  ∃ name args, x = .option name args ∧ name ∈ tags

/-- A property of every directive of a block. -/
def Every (P : Directive → Prop) (ds : List Directive) : Prop := ∀ x ∈ ds, P x

/-- The directives are options under the given names. -/
def AllTagged (tags : List String) (ds : List Directive) : Prop := Every (IsTagged tags) ds

section Tagged

variable {tags : List String} {name : String}

theorem AllTagged.mono {tags' : List String} {ds : List Directive} (h : AllTagged tags ds)
    (hsub : tags ⊆ tags') : AllTagged tags' ds := by
  intro x hx
  obtain ⟨name, args, rfl, hname⟩ := h x hx
  exact ⟨name, args, rfl, hsub hname⟩

theorem IsTagged.name_mem {args : List String} (h : IsTagged tags (.option name args)) :
    name ∈ tags := by
  obtain ⟨tag, args', he, htag⟩ := h
  obtain ⟨rfl, -⟩ := Directive.option.inj he
  exact htag

theorem allTagged_nil : AllTagged tags [] := by
  intro x hx
  simp at hx

theorem allTagged_optArgs (h : name ∈ tags) (v : Option String) (rest : List String) :
    AllTagged tags (optArgs name v rest) := by
  intro x hx
  obtain ⟨w, -, rfl⟩ := List.mem_map.mp hx
  exact ⟨name, _, rfl, h⟩

theorem allTagged_optFlag (h : name ∈ tags) (b : Bool) :
    AllTagged tags (optFlag name b) := by
  intro x hx
  rw [optFlag, List.mem_ite_nil_right, List.mem_singleton] at hx
  exact ⟨name, [], hx.2, h⟩

theorem allTagged_optYes (h : name ∈ tags) (v : Option String) :
    AllTagged tags (optYes name v) := by
  intro x hx
  obtain ⟨w, -, rfl⟩ := List.mem_map.mp hx
  exact ⟨name, _, rfl, h⟩

theorem allTagged_singleton (h : name ∈ tags) (args : List String) :
    AllTagged tags [.option name args] := by
  intro x hx
  exact ⟨name, args, List.mem_singleton.mp hx, h⟩

theorem allTagged_append {ds ds' : List Directive} (h : AllTagged tags ds)
    (h' : AllTagged tags ds') : AllTagged tags (ds ++ ds') :=
  fun x hx ↦ (List.mem_append.mp hx).elim (h x) (h' x)

theorem allTagged_gated {ds : List Directive} (b : Bool) (h : AllTagged tags ds) :
    AllTagged tags (gated b ds) := by
  intro x hx
  rw [gated, List.mem_ite_nil_right] at hx
  exact h x hx.2

/-- A block holds nothing of a kind that its names are not of. -/
theorem AllTagged.filter_eq_nil {ds : List Directive} (h : AllTagged tags ds)
    {p : Directive → Bool} (hno : ∀ name ∈ tags, ∀ args, p (.option name args) = false) :
    ds.filter p = [] := by
  refine List.filter_eq_nil_iff.mpr fun x hx ↦ ?_
  obtain ⟨name, args, rfl, hname⟩ := h x hx
  rw [hno name hname args]
  exact Bool.false_ne_true

/-- A block is of a kind that all of its names are of. -/
theorem AllTagged.filter_eq_self {ds : List Directive} (h : AllTagged tags ds)
    {p : Directive → Bool} (hyes : ∀ name ∈ tags, ∀ args, p (.option name args) = true) :
    ds.filter p = ds := by
  refine List.filter_eq_self.mpr fun x hx ↦ ?_
  obtain ⟨name, args, rfl, hname⟩ := h x hx
  exact hyes name hname args

theorem allTagged_pairDirectives {pairs : List (String × String)} (h : ∀ p ∈ pairs, p.2 ∈ tags)
    (data : VpnData) : AllTagged tags (pairDirectives data pairs) := by
  intro x hx
  obtain ⟨p, hp, hx⟩ := List.mem_flatMap.mp hx
  exact allTagged_optArgs (h p hp) _ _ x hx

end Tagged

section Blocks

variable (data : VpnData)

theorem allTagged_remoteDirectives : AllTagged ["remote"] (remoteDirectives data) := by
  unfold remoteDirectives
  split
  · intro x hx
    obtain ⟨gw, -, rfl⟩ := List.mem_map.mp hx
    exact ⟨_, _, rfl, by decide⟩
  · exact allTagged_nil

theorem allTagged_certDirectives :
    AllTagged ["pkcs12", "ca", "cert", "key"] (certDirectives data) := by
  rw [certDirectives]
  split_ifs
  · exact allTagged_singleton (by decide) _
  · exact allTagged_append (allTagged_append (allTagged_optArgs (by decide) _ _)
      (allTagged_optArgs (by decide) _ _)) (allTagged_optArgs (by decide) _ _)

theorem allTagged_ifconfigDirectives : AllTagged ["ifconfig"] (ifconfigDirectives data) := by
  unfold ifconfigDirectives
  split
  · exact allTagged_singleton (by decide) _
  · exact allTagged_nil

theorem allTagged_verifyX509Directives :
    AllTagged ["verify-x509-name"] (verifyX509Directives data) := by
  intro x hx
  obtain ⟨x509, -, rfl⟩ := List.mem_map.mp hx
  exact ⟨_, _, rfl, by decide⟩

theorem allTagged_crlVerifyDirectives : AllTagged ["crl-verify"] (crlVerifyDirectives data) := by
  unfold crlVerifyDirectives
  split
  · exact allTagged_singleton (by decide) _
  · exact allTagged_singleton (by decide) _
  · exact allTagged_nil

/-- The options of the proxy block. -/
def proxyTags : List String :=
  ["http-proxy", "http-proxy-retry", "socks-proxy", "socks-proxy-retry"]

theorem allTagged_proxyDirectives : AllTagged proxyTags (proxyDirectives data) := by
  unfold proxyDirectives
  split
  · split_ifs
    · exact allTagged_append (allTagged_singleton (by decide) _) (allTagged_optFlag (by decide) _)
    · exact allTagged_append (allTagged_singleton (by decide) _) (allTagged_optFlag (by decide) _)
    · exact allTagged_nil
  · exact allTagged_nil

theorem allTagged_tailDirectives : AllTagged tailTags tailDirectives := by
  intro x hx
  simp only [tailDirectives, List.mem_cons, List.not_mem_nil, or_false] at hx
  rcases hx with rfl | rfl | rfl | rfl | rfl | rfl | rfl <;> exact ⟨_, _, rfl, by decide⟩

end Blocks

/-- The options whose values no later stage of the exporter or the importer looks into. -/
def plainTags : List String :=
  ["client", "remote", "remote-random", "remote-random-hostname", "allow-pull-fqdn", "tun-ipv6",
    "push-peer-info", "pkcs12", "ca", "cert", "key", "auth-user-pass", "secret", "float", "mssfix",
    "ifconfig", "verify-x509-name", "tls-auth", "tls-crypt", "tls-crypt-v2", "crl-verify", "dev",
    "dev-type"]

/-- **The rule of the exporter**: a property of all exported directives is checked on the plain
options and on the blocks that are not plain. -/
theorem fromNmData_forall {data : VpnData} {P : Directive → Prop}
    (plain : ∀ x, IsTagged plainTags x → P x)
    (pairs : Every P (pairDirectives data pairsStr))
    (compression : Every P (compressionDirectives data))
    (routes : Every P (routeDirectives data))
    (version : Every P (tlsVersionMinDirectives data))
    (tlsContext : Every P (pairDirectives data tlsPairs))
    (proto : P (.option "proto" [protoValue data]))
    (proxy : Every P (proxyDirectives data))
    (tail : Every P tailDirectives) : Every P (fromNmData data).directives := by
  have tagged : ∀ {ds}, AllTagged plainTags ds → Every P ds := fun h x hx ↦ plain x (h x hx)
  have ifTls : ∀ {ds : List Directive} {b : Bool}, Every P ds → Every P (gated b ds) :=
    fun h x hx ↦ h x (List.mem_ite_nil_right.mp hx).2
  intro x hx
  obtain ⟨ds, hds, hx⟩ := List.mem_flatten.mp hx
  revert hds
  suffices hall : ∀ ds ∈ _, Every P ds from fun hds ↦ hall ds hds x hx
  simp only [List.forall_mem_cons]
  exact
    ⟨tagged (allTagged_optFlag (by decide) _),
     tagged ((allTagged_remoteDirectives data).mono (by decide)),
     tagged (allTagged_optFlag (by decide) _),
     tagged (allTagged_optFlag (by decide) _),
     tagged (allTagged_optFlag (by decide) _),
     tagged (allTagged_optFlag (by decide) _),
     tagged (allTagged_optFlag (by decide) _),
     tagged ((allTagged_certDirectives data).mono (by decide)),
     tagged (allTagged_optFlag (by decide) _),
     tagged (allTagged_gated _ (allTagged_optArgs (by decide) _ _)),
     pairs,
     compression,
     tagged (allTagged_optFlag (by decide) _),
     tagged (allTagged_optYes (by decide) _),
     tagged ((allTagged_ifconfigDirectives data).mono (by decide)),
     routes,
     ifTls (tagged ((allTagged_verifyX509Directives data).mono (by decide))),
     ifTls (tagged (allTagged_optArgs (by decide) _ _)),
     ifTls (tagged (allTagged_optArgs (by decide) _ _)),
     ifTls (tagged (allTagged_optArgs (by decide) _ _)),
     ifTls version,
     ifTls tlsContext,
     ifTls (tagged ((allTagged_crlVerifyDirectives data).mono (by decide))),
     tagged (allTagged_singleton (by decide) _),
     tagged (allTagged_optArgs (by decide) _ _),
     List.forall_mem_singleton.mpr proto,
     proxy,
     tail,
     fun _ h ↦ absurd h List.not_mem_nil⟩

/-- A preserved route is exported as its words. -/
theorem routeDirective_eq {routes : String} {line : List Char} (h : line ∈ safeRouteLines routes) :
    ∃ w args, routeWords line = w :: args ∧ OrdinaryName w ∧
      routeDirective line = [.option w args] := by
  obtain ⟨-, w, args, hw, ⟨t, ht⟩, -⟩ := routeWords_of_mem_safeRouteLines h
  refine ⟨w, args, hw, ordinaryName_of_head ht (by decide) (by decide), ?_⟩
  rw [routeDirective, tokenize_safeRouteLine (of_mem_safeRouteLines h).2.1, hw]

/-- A directive whose emission is one line that reads as it. -/
def IsOrdinary (x : Directive) : Prop := ∃ name args, x = .option name args ∧ OrdinaryName name

theorem isOrdinary_of_isTagged {tags : List String} (h : tags ⊆ emitterTags) {x : Directive}
    (hx : IsTagged tags x) : IsOrdinary x := by
  obtain ⟨name, args, rfl, ht⟩ := hx
  exact ⟨name, args, rfl, ordinaryName_of_mem_emitterTags (h ht)⟩

theorem every_routeDirectives {data : VpnData} {P : Directive → Prop}
    (h : ∀ routes line w args, line ∈ safeRouteLines routes → routeWords line = w :: args →
      OrdinaryName w → P (.option w args)) : Every P (routeDirectives data) := by
  intro x hx
  rw [routeDirectives] at hx
  split at hx
  · obtain ⟨line, hl, hx⟩ := List.mem_flatMap.mp hx
    obtain ⟨w, args, hw, hord, he⟩ := routeDirective_eq hl
    rw [he, List.mem_singleton] at hx
    exact hx ▸ h _ line w args hl hw hord
  · simp at hx

/-- The name of a preserved route is one of the route family, unless it is not ASCII. -/
theorem name_of_mem_routeDirectives {data : VpnData} :
    ∀ x ∈ routeDirectives data, ∃ name args, x = .option name args ∧
      ((∀ c ∈ name.toList, isAscii c = true) → name ∈ routeFamily) := by
  refine every_routeDirectives fun routes line w args hl hw _ ↦ ⟨w, args, rfl, ?_⟩
  obtain ⟨-, w', args', hw', -, hascii⟩ := routeWords_of_mem_safeRouteLines hl
  obtain ⟨rfl, rfl⟩ := List.cons.inj (hw.symm.trans hw')
  exact hascii

/-- A table of ASCII names has entries for preserved routes under names of the route family only. -/
theorem lookup_of_mem_routeDirectives {α : Type*} {table : List (String × α)}
    (h : ∀ p ∈ table, ∀ c ∈ p.1.toList, isAscii c = true) {data : VpnData} :
    ∀ x ∈ routeDirectives data, ∃ name args, x = .option name args ∧
      (name ∈ routeFamily ∨ table.lookup name = none) := by
  intro x hx
  obtain ⟨name, args, rfl, hname⟩ := name_of_mem_routeDirectives x hx
  refine ⟨name, args, rfl, ?_⟩
  cases hl : table.lookup name with
  | none => exact .inr rfl
  | some a =>
    obtain ⟨l, l', rfl, -⟩ := List.lookup_eq_some_iff.mp hl
    exact .inl (hname (h (name, a) (List.mem_append_right _ List.mem_cons_self)))

theorem isOrdinary_fromNmData (data : VpnData) : Every IsOrdinary (fromNmData data).directives := by
  have tagged : ∀ {tags ds}, AllTagged tags ds → tags ⊆ emitterTags → Every IsOrdinary ds :=
    fun h hsub x hx ↦ isOrdinary_of_isTagged hsub (h x hx)
  have ordinary : ∀ {ds}, AllTagged emitterTags ds → Every IsOrdinary ds :=
    fun h ↦ tagged h (List.Subset.refl _)
  exact fromNmData_forall
    (fun x ↦ isOrdinary_of_isTagged (by decide))
    (ordinary (allTagged_pairDirectives (by decide) data))
    (ordinary (allTagged_gated _
      (allTagged_append (allTagged_optArgs (by decide) _ _) (allTagged_optYes (by decide) _))))
    (every_routeDirectives fun _ _ w args _ _ hord ↦ ⟨w, args, rfl, hord⟩)
    (ordinary (allTagged_optArgs (by decide) _ _))
    (ordinary (allTagged_pairDirectives (by decide) data))
    ⟨_, _, rfl, ordinaryName_of_mem_emitterTags (by decide)⟩
    (tagged (allTagged_proxyDirectives data) (by decide))
    (tagged allTagged_tailDirectives (by decide))

/-- A config of ordinary options is read back from its emission. -/
theorem parse_emit {c : OvpnConfig} (h : Every IsOrdinary c.directives) :
    OvpnConfig.parse c.emit = c.validate.map fun _ ↦ c := by
  obtain ⟨ds⟩ := c
  obtain ⟨ls, hls, hread⟩ : ∃ ls, ds.flatMap Directive.emit = ls.flatMap (· ++ ['\n']) ∧
      ReadAsAll ls ds := by
    induction ds with
    | nil => exact ⟨[], rfl, .nil⟩
    | cons x ds ih =>
      obtain ⟨ls, hls, hread⟩ := ih fun y hy ↦ h y (List.mem_cons_of_mem _ hy)
      obtain ⟨name, args, rfl, hname⟩ := h x List.mem_cons_self
      refine ⟨wordsLine (name :: args) :: ls, ?_,
        .cons ⟨name, args, rfl, readsAs_wordsLine hname args⟩ hread⟩
      rw [List.flatMap_cons, hls, List.flatMap_cons]
      rfl
  rw [OvpnConfig.emit, hls, parse_flatMap_newline hread]

/-- **Exported text means exactly what was exported**: it is accepted exactly when the exported
directives are valid, and then it parses to these directives. -/
theorem parse_emit_fromNmData (data : VpnData) :
    ((∃ c, OvpnConfig.parse (fromNmData data).emit = .ok c) ↔
        (fromNmData data).validate = .ok ()) ∧
      ∀ c, OvpnConfig.parse (fromNmData data).emit = .ok c →
        c.directives = (fromNmData data).directives := by
  rw [parse_emit (isOrdinary_fromNmData data)]
  cases (fromNmData data).validate with
  | error e => simp [Except.map]
  | ok u => simp [Except.map]

end ImportExport

end NmOpenvpn3
