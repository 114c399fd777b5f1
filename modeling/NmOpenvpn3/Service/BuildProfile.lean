import NmOpenvpn3.ImportExport.Export

/-!
# The live-connect profile

`buildProfileString` writes the profile that the root service hands to openvpn3, from the same
`vpn.data` as the exporter but with code of its own: another order, another treatment of integers
and routes, and text that is written line by line through a `Writer`.

The writer is modelled by the list of its calls. `directive` says which directive a call writes, and
`map_directive_settingCalls` gives the directives of a whole profile as a list of blocks that can be
compared with the exporter's.

`buildProfileString_lines` is the injection-freedom result: the profile has one line for each call,
every line is tokenized into what the call was given, and so no value starts a directive.
-/

namespace NmOpenvpn3

namespace Service

open Rust Ovpn ImportExport

/-! ## The writer -/

/-- One call of the profile writer: an option line of words to be escaped, or text as it is. -/
inductive WriterCall where
  | line (args : List String)
  | rawLine (raw : List Char)

/-- The text that a call appends, before its line feed. -/
def WriterCall.text : WriterCall → List Char
  | .line args => wordsLine args
  | .rawLine raw => raw

/-- The profile that a sequence of calls writes. -/
def writeAll (calls : List WriterCall) : String :=
  String.ofList (calls.flatMap fun c ↦ c.text ++ ['\n'])

/-- `line_opt`, for a value that decides whether there is a line, and the arguments behind it. -/
def lineOpt (tag : String) (value : Option String) (rest : List String) : List WriterCall :=
  value.toList.map fun v ↦ .line (tag :: v :: rest)

/-- `line_str`. -/
def lineStr (tag : String) (value : Option String) : List WriterCall := lineOpt tag value []

/-- An integer value, which is written as it stands if it parses. -/
def intValue (value : Option String) : Option String := value.filter fun v ↦ (parseI64 v).isSome

/-- `line_int`. -/
def lineInt (tag : String) (value : Option String) : List WriterCall := lineStr tag (intValue value)

/-- A line without arguments, written on a condition. -/
def lineFlag (tag : String) (b : Bool) : List WriterCall := if b then [.line [tag]] else []

/-- A block that is written on a condition. -/
def callsIf (b : Bool) (calls : List WriterCall) : List WriterCall := if b then calls else []

/-! ## The blocks of the profile -/

/-- One `remote` line for each entry of the remote list. -/
def remoteCalls (gateways : String) : List WriterCall :=
  (remoteEntries gateways).map fun gw ↦ .line ("remote" :: remoteArgs gw)

/-- The connect path's condition for a single `pkcs12` line, which ignores the CA. -/
def pkcs12CollapseConnect (cert key : Option String) : Bool :=
  match cert, key with
  | some c, some k => c == k && isPkcs12Path c
  | _, _ => false

/-- The certificate authority, the certificate and the private key. -/
def certCalls (data : VpnData) : List WriterCall :=
  let cert := userCertValue data "cert"
  let key := userCertValue data "key"
  if pkcs12CollapseConnect cert key then [.line ["pkcs12", cert.getD ""]]
  else lineStr "ca" (caValue data) ++ lineStr "cert" cert ++ lineStr "key" key

/-- The static key, with its direction. -/
def secretCalls (data : VpnData) : List WriterCall :=
  callsIf (get data "connection-type" = some "static-key")
    (lineOpt "secret" (get data "static-key") (get data "static-key-direction").toList)

/-- Compression, unless it is disallowed. -/
def compressionCalls (data : VpnData) : List WriterCall :=
  callsIf (get data "allow-compression" ≠ some "no")
    (lineStr "comp-lzo" ((get data "comp-lzo").map compLzoWire) ++
      (get data "compress").toList.map fun v ↦
        .line ("compress" :: if v = "yes" then [] else [v]))

/-- `mssfix`: a flag, or a number printed again; anything else is dropped. -/
def mssfixCalls (data : VpnData) : List WriterCall :=
  match get data "mssfix" with
  | none => []
  | some v =>
    if v = "yes" then [.line ["mssfix"]]
    else match parseI64 v with
      | some n => [.line ["mssfix", toString n]]
      | none => []

/-- The revocation list, a file before a directory. -/
def crlVerifyCalls (data : VpnData) : List WriterCall :=
  match get data "crl-verify-file", get data "crl-verify-dir" with
  | some file, _ => [.line ["crl-verify", file]]
  | none, some dir => [.line ["crl-verify", dir, "dir"]]
  | none, none => []

/-- Both ends of a point-to-point tunnel. -/
def ifconfigCalls (data : VpnData) : List WriterCall :=
  match get data "local-ip", get data "remote-ip" with
  | some l, some r => [.line ["ifconfig", l, r]]
  | _, _ => []

/-- The preserved routes that pass the allow-list, as they are. -/
def routeCalls (data : VpnData) : List WriterCall :=
  match get data "nm-openvpn3-extra-routes" with
  | some routes => (safeRouteLines routes).map .rawLine
  | none => []

/-- The TLS context, without the certificates and the revocation list. -/
def tlsCalls (data : VpnData) : List WriterCall := List.flatten
  [lineStr "remote-cert-tls" (get data "remote-cert-tls"),
   lineStr "ns-cert-type" (get data "ns-cert-type"),
   lineStr "tls-remote" (get data "tls-remote"),
   (get data "verify-x509-name").toList.map fun x509 ↦
     .line ("verify-x509-name" :: verifyX509Args x509),
   lineOpt "tls-auth" (get data "ta") (get data "ta-dir").toList,
   lineStr "tls-crypt" (get data "tls-crypt"),
   lineStr "tls-crypt-v2" (get data "tls-crypt-v2"),
   lineOpt "tls-version-min" (get data "tls-version-min")
     (if get data "tls-version-min-or-highest" = some "yes" then ["or-highest"] else []),
   lineStr "tls-version-max" (get data "tls-version-max"),
   lineStr "extra-certs" (get data "extra-certs")]

/-- The proxy in front of the remotes. -/
def proxyCalls (data : VpnData) : List WriterCall :=
  match get data "proxy-type", get data "proxy-server" with
  | some pt, some server =>
    if pt = "http" then
      .line ["http-proxy", server, (get data "proxy-port").getD "8080"] ::
        lineFlag "http-proxy-retry" (get data "proxy-retry" = some "yes")
    else if pt = "socks" then
      .line ["socks-proxy", server, (get data "proxy-port").getD "1080"] ::
        lineFlag "socks-proxy-retry" (get data "proxy-retry" = some "yes")
    else []
  | _, _ => []

/-- The hard-coded end of every profile. -/
def tailCalls : List WriterCall :=
  [.line ["nobind"],
   .line ["auth-nocache"],
   .line ["script-security", "2"],
   .line ["persist-key"],
   .line ["persist-tun"],
   .line ["user", "nm-openvpn3"],
   .line ["group", "nm-openvpn3"]]

/-- The calls between the remote list and the hard-coded end. -/
def settingCalls (data : VpnData) : List WriterCall :=
  let connectionType := get data "connection-type"
  let tls := isTlsLike connectionType
  List.flatten
    [lineFlag "remote-random" (isYes data "remote-random"),
     lineFlag "remote-random-hostname" (isYes data "remote-random-hostname"),
     lineFlag "allow-pull-fqdn" (isYes data "allow-pull-fqdn"),
     lineFlag "tun-ipv6" (isYes data "tun-ipv6"),
     lineFlag "push-peer-info" (isYes data "push-peer-info"),
     certCalls data,
     lineFlag "auth-user-pass" (isPasswordLike connectionType),
     secretCalls data,
     lineInt "reneg-sec" (get data "reneg-seconds"),
     lineInt "max-routes" (get data "max-routes"),
     lineStr "cipher" (get data "cipher"),
     lineStr "data-ciphers" (get data "data-ciphers"),
     lineStr "data-ciphers-fallback" (get data "data-ciphers-fallback"),
     lineStr "tls-cipher" (get data "tls-cipher"),
     lineStr "auth" (get data "auth"),
     lineInt "keysize" (get data "keysize"),
     lineStr "allow-compression" (get data "allow-compression"),
     compressionCalls data,
     lineFlag "float" (isYes data "float"),
     mssfixCalls data,
     lineStr "mtu-disc" (get data "mtu-disc"),
     lineInt "tun-mtu" (get data "tunnel-mtu"),
     lineInt "connect-timeout" (get data "connect-timeout"),
     lineInt "fragment" (get data "fragment-size"),
     callsIf tls (crlVerifyCalls data),
     [.line ["dev", chosenDev data]],
     lineStr "dev-type" (get data "dev-type"),
     [.line ["proto", protoValue data]],
     lineInt "port" (get data "port"),
     lineInt "ping" (get data "ping"),
     lineInt "ping-exit" (get data "ping-exit"),
     lineInt "ping-restart" (get data "ping-restart"),
     ifconfigCalls data,
     routeCalls data,
     callsIf tls (tlsCalls data),
     proxyCalls data]

/-- The calls of `build_profile_string`, which needs a `remote`. -/
def writerCalls (data : VpnData) : Except String (List WriterCall) :=
  match get data "remote" with
  | none => .error "vpn.data['remote'] is required"
  | some gateways =>
    .ok (lineFlag "client" (isTlsLike (get data "connection-type")) ++ remoteCalls gateways ++
      settingCalls data ++ tailCalls)

/-- `build_profile_string`. The secrets, which it does not look at, are left out. -/
def buildProfileString (data : VpnData) : Except String String := writeAll <$> writerCalls data

/-! ## Lines and directives of calls -/

/-- What the tokenizer makes of the line of a call. -/
def WriterCall.words : WriterCall → List String
  | .line args => args
  | .rawLine raw => routeWords raw

/-- The directive that the words of an option line denote. -/
def toDirective (ws : List String) : Directive := .option (ws.headD "") ws.tail

/-- The directive that a call writes. -/
def WriterCall.directive (c : WriterCall) : Directive := toDirective c.words

section Directives

variable (tag : String) (value : Option String) (rest : List String)

@[simp] theorem map_directive_lineOpt :
    (lineOpt tag value rest).map WriterCall.directive = optArgs tag value rest := by
  cases value <;> rfl

@[simp] theorem map_directive_lineStr :
    (lineStr tag value).map WriterCall.directive = optStr tag value :=
  map_directive_lineOpt tag value []

@[simp] theorem map_directive_lineInt :
    (lineInt tag value).map WriterCall.directive = optStr tag (intValue value) :=
  map_directive_lineStr tag (intValue value)

@[simp] theorem map_directive_lineFlag (b : Bool) :
    (lineFlag tag b).map WriterCall.directive = optFlag tag b := by
  cases b <;> rfl

@[simp] theorem map_directive_callsIf (b : Bool) (calls : List WriterCall) :
    (callsIf b calls).map WriterCall.directive = gated b (calls.map WriterCall.directive) := by
  cases b <;> rfl

end Directives

section Blocks

variable (data : VpnData)

theorem map_directive_remoteCalls {gateways : String} (h : get data "remote" = some gateways) :
    (remoteCalls gateways).map WriterCall.directive = remoteDirectives data := by
  rw [remoteCalls, remoteDirectives, h, List.map_map]
  rfl

/-- The connect path's certificates, where the exporter may differ. -/
def certDirectivesConnect : List Directive :=
  let cert := userCertValue data "cert"
  let key := userCertValue data "key"
  if pkcs12CollapseConnect cert key then [.option "pkcs12" [cert.getD ""]]
  else optStr "ca" (caValue data) ++ optStr "cert" cert ++ optStr "key" key

theorem map_directive_certCalls :
    (certCalls data).map WriterCall.directive = certDirectivesConnect data := by
  rw [certCalls, certDirectivesConnect]
  split_ifs
  · rfl
  · simp only [List.map_append, map_directive_lineStr]

theorem map_directive_secretCalls :
    (secretCalls data).map WriterCall.directive = secretDirectives data := by
  rw [secretCalls, map_directive_callsIf, map_directive_lineOpt]
  rfl

theorem map_directive_compressionCalls :
    (compressionCalls data).map WriterCall.directive = compressionDirectives data := by
  rw [compressionCalls, map_directive_callsIf, List.map_append, map_directive_lineStr,
    List.map_map]
  rfl

/-- The connect path's `mssfix`, where the exporter may differ. -/
def mssfixDirectivesConnect : List Directive := (mssfixCalls data).map WriterCall.directive

theorem map_directive_crlVerifyCalls :
    (crlVerifyCalls data).map WriterCall.directive = crlVerifyDirectives data := by
  rw [crlVerifyCalls, crlVerifyDirectives]
  cases get data "crl-verify-file" with
  | some file => rfl
  | none => cases get data "crl-verify-dir" <;> rfl

theorem map_directive_ifconfigCalls :
    (ifconfigCalls data).map WriterCall.directive = ifconfigDirectives data := by
  rw [ifconfigCalls, ifconfigDirectives]
  cases get data "local-ip" with
  | none => rfl
  | some l => cases get data "remote-ip" <;> rfl

theorem map_directive_routeCalls :
    (routeCalls data).map WriterCall.directive = routeDirectives data := by
  rw [routeCalls, routeDirectives]
  cases get data "nm-openvpn3-extra-routes" with
  | none => rfl
  | some routes =>
    rw [List.map_map, List.map_eq_flatMap]
    refine List.flatMap_congr fun line hline ↦ ?_
    obtain ⟨w, args, hw, -, he⟩ := routeDirective_eq hline
    rw [he, Function.comp_apply, WriterCall.directive, WriterCall.words, hw]
    rfl

theorem map_directive_proxyCalls :
    (proxyCalls data).map WriterCall.directive = proxyDirectives data := by
  rw [proxyCalls, proxyDirectives]
  cases get data "proxy-type" with
  | none => rfl
  | some pt =>
    cases get data "proxy-server" with
    | none => rfl
    | some server =>
      by_cases hhttp : pt = "http"
      · simp only [if_pos hhttp, List.map_cons, map_directive_lineFlag]
        rfl
      by_cases hsocks : pt = "socks"
      · simp only [if_neg hhttp, if_pos hsocks, List.map_cons, map_directive_lineFlag]
        rfl
      · simp only [if_neg hhttp, if_neg hsocks, List.map_nil]

theorem map_directive_tlsCalls : (tlsCalls data).map WriterCall.directive = List.flatten
    [optStr "remote-cert-tls" (get data "remote-cert-tls"),
     optStr "ns-cert-type" (get data "ns-cert-type"),
     optStr "tls-remote" (get data "tls-remote"),
     verifyX509Directives data,
     optArgs "tls-auth" (get data "ta") (get data "ta-dir").toList,
     optStr "tls-crypt" (get data "tls-crypt"),
     optStr "tls-crypt-v2" (get data "tls-crypt-v2"),
     tlsVersionMinDirectives data,
     optStr "tls-version-max" (get data "tls-version-max"),
     optStr "extra-certs" (get data "extra-certs")] := by
  rw [tlsCalls, List.map_flatten]
  simp only [List.map_cons, List.map_nil, map_directive_lineStr, map_directive_lineOpt,
    List.map_map]
  rfl

/-- The directives of `settingCalls`. -/
theorem map_directive_settingCalls :
    (settingCalls data).map WriterCall.directive = List.flatten
    [optFlag "remote-random" (isYes data "remote-random"),
     optFlag "remote-random-hostname" (isYes data "remote-random-hostname"),
     optFlag "allow-pull-fqdn" (isYes data "allow-pull-fqdn"),
     optFlag "tun-ipv6" (isYes data "tun-ipv6"),
     optFlag "push-peer-info" (isYes data "push-peer-info"),
     certDirectivesConnect data,
     optFlag "auth-user-pass" (isPasswordLike (get data "connection-type")),
     secretDirectives data,
     optStr "reneg-sec" (intValue (get data "reneg-seconds")),
     optStr "max-routes" (intValue (get data "max-routes")),
     optStr "cipher" (get data "cipher"),
     optStr "data-ciphers" (get data "data-ciphers"),
     optStr "data-ciphers-fallback" (get data "data-ciphers-fallback"),
     optStr "tls-cipher" (get data "tls-cipher"),
     optStr "auth" (get data "auth"),
     optStr "keysize" (intValue (get data "keysize")),
     optStr "allow-compression" (get data "allow-compression"),
     compressionDirectives data,
     optFlag "float" (isYes data "float"),
     mssfixDirectivesConnect data,
     optStr "mtu-disc" (get data "mtu-disc"),
     optStr "tun-mtu" (intValue (get data "tunnel-mtu")),
     optStr "connect-timeout" (intValue (get data "connect-timeout")),
     optStr "fragment" (intValue (get data "fragment-size")),
     gated (isTlsLike (get data "connection-type")) (crlVerifyDirectives data),
     [.option "dev" [chosenDev data]],
     optStr "dev-type" (get data "dev-type"),
     [.option "proto" [protoValue data]],
     optStr "port" (intValue (get data "port")),
     optStr "ping" (intValue (get data "ping")),
     optStr "ping-exit" (intValue (get data "ping-exit")),
     optStr "ping-restart" (intValue (get data "ping-restart")),
     ifconfigDirectives data,
     routeDirectives data,
     gated (isTlsLike (get data "connection-type"))
       ((tlsCalls data).map WriterCall.directive),
     proxyDirectives data] := by
  rw [settingCalls, List.map_flatten]
  simp only [List.map_cons, List.map_nil, map_directive_lineStr, map_directive_lineInt,
    map_directive_lineFlag, map_directive_callsIf, map_directive_certCalls,
    map_directive_secretCalls, map_directive_compressionCalls, map_directive_crlVerifyCalls,
    map_directive_ifconfigCalls, map_directive_routeCalls, map_directive_proxyCalls]
  rfl

end Blocks

/-! ## Tags of calls -/

/-- The calls are option lines under the given tags. -/
def AllLines (tags : List String) (calls : List WriterCall) : Prop :=
  ∀ c ∈ calls, ∃ tag args, c = .line (tag :: args) ∧ tag ∈ tags

section Lines

variable {tags : List String} {tag : String}

theorem allLines_nil : AllLines tags [] := fun _ h ↦ absurd h List.not_mem_nil

theorem allLines_singleton (h : tag ∈ tags) (args : List String) :
    AllLines tags [.line (tag :: args)] :=
  fun _ hc ↦ ⟨tag, args, List.mem_singleton.mp hc, h⟩

theorem allLines_lineOpt (h : tag ∈ tags) (value : Option String) (rest : List String) :
    AllLines tags (lineOpt tag value rest) := by
  intro c hc
  obtain ⟨v, -, rfl⟩ := List.mem_map.mp hc
  exact ⟨tag, _, rfl, h⟩

theorem allLines_lineFlag (h : tag ∈ tags) (b : Bool) : AllLines tags (lineFlag tag b) := by
  intro c hc
  rw [lineFlag, List.mem_ite_nil_right, List.mem_singleton] at hc
  exact ⟨tag, [], hc.2, h⟩

theorem allLines_append {calls calls' : List WriterCall} (h : AllLines tags calls)
    (h' : AllLines tags calls') : AllLines tags (calls ++ calls') :=
  fun c hc ↦ (List.mem_append.mp hc).elim (h c) (h' c)

theorem allLines_callsIf {calls : List WriterCall} (b : Bool) (h : AllLines tags calls) :
    AllLines tags (callsIf b calls) := by
  intro c hc
  rw [callsIf, List.mem_ite_nil_right] at hc
  exact h c hc.2

theorem allLines_flatten {blocks : List (List WriterCall)} (h : ∀ b ∈ blocks, AllLines tags b) :
    AllLines tags blocks.flatten := by
  intro c hc
  obtain ⟨b, hb, hc⟩ := List.mem_flatten.mp hc
  exact h b hb c hc

end Lines

section LineBlocks

variable (data : VpnData)

theorem allLines_remoteCalls (gateways : String) : AllLines optionTags (remoteCalls gateways) := by
  intro c hc
  obtain ⟨gw, -, rfl⟩ := List.mem_map.mp hc
  exact ⟨_, _, rfl, by decide⟩

theorem allLines_certCalls : AllLines optionTags (certCalls data) := by
  rw [certCalls]
  split_ifs
  · exact allLines_singleton (by decide) _
  · exact allLines_append (allLines_append (allLines_lineOpt (by decide) _ _)
      (allLines_lineOpt (by decide) _ _)) (allLines_lineOpt (by decide) _ _)

theorem allLines_compressionCalls : AllLines optionTags (compressionCalls data) := by
  refine allLines_callsIf _ (allLines_append (allLines_lineOpt (by decide) _ _) fun c hc ↦ ?_)
  obtain ⟨v, -, rfl⟩ := List.mem_map.mp hc
  exact ⟨_, _, rfl, by decide⟩

theorem allLines_mssfixCalls : AllLines optionTags (mssfixCalls data) := by
  rw [mssfixCalls]
  cases get data "mssfix" with
  | none => exact allLines_nil
  | some v =>
    by_cases hv : v = "yes"
    · rw [hv]
      exact allLines_singleton (by decide) _
    · simp only [if_neg hv]
      cases parseI64 v with
      | none => exact allLines_nil
      | some n => exact allLines_singleton (by decide) _

theorem allLines_crlVerifyCalls : AllLines optionTags (crlVerifyCalls data) := by
  rw [crlVerifyCalls]
  cases get data "crl-verify-file" with
  | some file => exact allLines_singleton (by decide) _
  | none =>
    cases get data "crl-verify-dir" with
    | some dir => exact allLines_singleton (by decide) _
    | none => exact allLines_nil

theorem allLines_ifconfigCalls : AllLines optionTags (ifconfigCalls data) := by
  unfold ifconfigCalls
  split
  · exact allLines_singleton (by decide) _
  · exact allLines_nil

theorem allLines_tlsCalls : AllLines optionTags (tlsCalls data) := by
  refine allLines_flatten ?_
  simp only [List.forall_mem_cons]
  refine ⟨allLines_lineOpt (by decide) _ _, allLines_lineOpt (by decide) _ _,
    allLines_lineOpt (by decide) _ _, fun c hc ↦ ?_, allLines_lineOpt (by decide) _ _,
    allLines_lineOpt (by decide) _ _, allLines_lineOpt (by decide) _ _,
    allLines_lineOpt (by decide) _ _, allLines_lineOpt (by decide) _ _,
    allLines_lineOpt (by decide) _ _, fun _ h ↦ absurd h List.not_mem_nil⟩
  obtain ⟨x509, -, rfl⟩ := List.mem_map.mp hc
  exact ⟨_, _, rfl, by decide⟩

theorem allLines_proxyCalls : AllLines optionTags (proxyCalls data) := by
  unfold proxyCalls
  split
  · split_ifs
    · exact allLines_append (allLines_singleton (by decide) _) (allLines_lineFlag (by decide) _)
    · exact allLines_append (allLines_singleton (by decide) _) (allLines_lineFlag (by decide) _)
    · exact allLines_nil
  · exact allLines_nil

/-- The calls before the hard-coded end are option lines under the emitter's tags, or preserved
routes. -/
theorem line_or_route_of_mem_settingCalls {c : WriterCall} (h : c ∈ settingCalls data) :
    (∃ tag args, c = .line (tag :: args) ∧ tag ∈ optionTags) ∨ c ∈ routeCalls data := by
  obtain ⟨calls, hcalls, hc⟩ := List.mem_flatten.mp h
  revert hcalls
  suffices hall : ∀ calls ∈ _, AllLines optionTags calls ∨ calls = routeCalls data from
    fun hcalls ↦ (hall calls hcalls).elim (fun ht ↦ .inl (ht c hc)) fun he ↦ .inr (he ▸ hc)
  simp only [List.forall_mem_cons]
  exact
    ⟨.inl (allLines_lineFlag (by decide) _),
     .inl (allLines_lineFlag (by decide) _),
     .inl (allLines_lineFlag (by decide) _),
     .inl (allLines_lineFlag (by decide) _),
     .inl (allLines_lineFlag (by decide) _),
     .inl (allLines_certCalls data),
     .inl (allLines_lineFlag (by decide) _),
     .inl (allLines_callsIf _ (allLines_lineOpt (by decide) _ _)),
     .inl (allLines_lineOpt (by decide) _ _),
     .inl (allLines_lineOpt (by decide) _ _),
     .inl (allLines_lineOpt (by decide) _ _),
     .inl (allLines_lineOpt (by decide) _ _),
     .inl (allLines_lineOpt (by decide) _ _),
     .inl (allLines_lineOpt (by decide) _ _),
     .inl (allLines_lineOpt (by decide) _ _),
     .inl (allLines_lineOpt (by decide) _ _),
     .inl (allLines_lineOpt (by decide) _ _),
     .inl (allLines_compressionCalls data),
     .inl (allLines_lineFlag (by decide) _),
     .inl (allLines_mssfixCalls data),
     .inl (allLines_lineOpt (by decide) _ _),
     .inl (allLines_lineOpt (by decide) _ _),
     .inl (allLines_lineOpt (by decide) _ _),
     .inl (allLines_lineOpt (by decide) _ _),
     .inl (allLines_callsIf _ (allLines_crlVerifyCalls data)),
     .inl (allLines_singleton (by decide) _),
     .inl (allLines_lineOpt (by decide) _ _),
     .inl (allLines_singleton (by decide) _),
     .inl (allLines_lineOpt (by decide) _ _),
     .inl (allLines_lineOpt (by decide) _ _),
     .inl (allLines_lineOpt (by decide) _ _),
     .inl (allLines_lineOpt (by decide) _ _),
     .inl (allLines_ifconfigCalls data),
     .inr trivial,
     .inl (allLines_callsIf _ (allLines_tlsCalls data)),
     .inl (allLines_proxyCalls data),
     fun _ h ↦ absurd h List.not_mem_nil⟩

end LineBlocks

/-! ## Reading a profile -/

/-- A profile is what the calls write. -/
theorem buildProfileString_eq_ok {data : VpnData} {profile : String}
    (h : buildProfileString data = .ok profile) :
    ∃ calls, writerCalls data = .ok calls ∧ writeAll calls = profile := by
  cases hcalls : writerCalls data with
  | error e => simp [buildProfileString, hcalls] at h
  | ok calls => exact ⟨calls, rfl, by simpa [buildProfileString, hcalls] using h⟩

/-- There are calls only for a map with a remote list. -/
theorem exists_remote_of_writerCalls {data : VpnData} {calls : List WriterCall}
    (h : writerCalls data = .ok calls) : ∃ gateways, get data "remote" = some gateways := by
  rw [writerCalls] at h
  cases hg : get data "remote" with
  | none => simp [hg] at h
  | some gateways => exact ⟨gateways, rfl⟩

/-- A preserved route call writes a safe line. -/
theorem exists_safeRouteLine_of_mem_routeCalls {data : VpnData} {c : WriterCall}
    (h : c ∈ routeCalls data) :
    ∃ routes line, c = .rawLine line ∧ line ∈ safeRouteLines routes := by
  unfold routeCalls at h
  split at h
  · obtain ⟨line, hl, rfl⟩ := List.mem_map.mp h
    exact ⟨_, line, rfl, hl⟩
  · simp at h

/-- The calls before the hard-coded end, and that end. -/
theorem writerCalls_eq_ok {data : VpnData} {calls : List WriterCall}
    (h : writerCalls data = .ok calls) : ∃ front, calls = front ++ tailCalls ∧
      ∀ c ∈ front, (∃ tag args, c = .line (tag :: args) ∧ tag ∈ optionTags) ∨
        ∃ routes line, c = .rawLine line ∧ line ∈ safeRouteLines routes := by
  obtain ⟨gateways, hg⟩ := exists_remote_of_writerCalls h
  rw [writerCalls, hg] at h
  refine ⟨_, (Except.ok.inj h).symm, fun c hc ↦ ?_⟩
  rw [List.mem_append, List.mem_append] at hc
  rcases hc with (hc | hc) | hc
  · exact .inl (allLines_lineFlag (by decide) _ c hc)
  · exact .inl (allLines_remoteCalls gateways c hc)
  · exact (line_or_route_of_mem_settingCalls data hc).imp_right
      exists_safeRouteLine_of_mem_routeCalls

theorem readsAs_line {tag : String} (h : tag ∈ emitterTags) (args : List String) :
    ReadsAs (WriterCall.line (tag :: args)).text tag args :=
  readsAs_wordsLine (ordinaryName_of_mem_emitterTags h) args

theorem readsAs_rawLine {routes : String} {line : List Char} (h : line ∈ safeRouteLines routes) :
    ∃ w args, routeWords line = w :: args ∧ ReadsAs (WriterCall.rawLine line).text w args := by
  obtain ⟨hhead, w, args, hw, ⟨t, ht⟩, -⟩ := routeWords_of_mem_safeRouteLines h
  obtain ⟨-, hsafe, hctl⟩ := of_mem_safeRouteLines h
  refine ⟨w, args, hw, ⟨⟨'r', hhead, by decide⟩, ?_, ?_, ?_,
    ordinaryName_of_head ht (by decide) (by decide)⟩⟩
  · intro hn
    exact absurd (hctl _ hn) (by decide)
  · intro hl
    exact absurd (hctl _ (List.mem_of_getLast? hl)) (by decide)
  · exact hw ▸ tokenize_safeRouteLine hsafe

/-- Every call writes one line, which reads as the directive of the call. -/
theorem readAsAll_of_writerCalls {data : VpnData} {calls : List WriterCall}
    (h : writerCalls data = .ok calls) :
    ReadAsAll (calls.map WriterCall.text) (calls.map WriterCall.directive) := by
  obtain ⟨front, rfl, hfront⟩ := writerCalls_eq_ok h
  have htail : AllLines tailTags tailCalls := by
    intro c hc
    simp only [tailCalls, List.mem_cons, List.not_mem_nil, or_false] at hc
    rcases hc with rfl | rfl | rfl | rfl | rfl | rfl | rfl <;> exact ⟨_, _, rfl, by decide⟩
  rw [ReadAsAll, List.forall₂_map_left_iff, List.forall₂_map_right_iff]
  refine List.forall₂_same.mpr fun c hc ↦ ?_
  rcases List.mem_append.mp hc with hc | hc
  · rcases hfront c hc with ⟨tag, args, rfl, ht⟩ | ⟨routes, line, rfl, hl⟩
    · exact ⟨tag, args, rfl, readsAs_line (List.mem_append_left _ ht) args⟩
    · obtain ⟨w, args, hw, hr⟩ := readsAs_rawLine hl
      refine ⟨w, args, ?_, hr⟩
      rw [WriterCall.directive, WriterCall.words, hw]
      rfl
  · obtain ⟨tag, args, rfl, ht⟩ := htail c hc
    exact ⟨tag, args, rfl, readsAs_line (List.mem_append_right _ ht) args⟩

/-- A profile parses to the directives of its calls, unless validation rejects them. -/
theorem parse_writeAll {data : VpnData} {calls : List WriterCall}
    (h : writerCalls data = .ok calls) : OvpnConfig.parse (writeAll calls) =
      (OvpnConfig.validate ⟨calls.map WriterCall.directive⟩).map fun _ ↦
        ⟨calls.map WriterCall.directive⟩ := by
  rw [← parse_flatMap_newline (readAsAll_of_writerCalls h), writeAll, List.flatMap_map]

/-- The words of the lines of a profile, line by line. -/
theorem tokenize_text_of_writerCalls {data : VpnData} {calls : List WriterCall}
    (h : writerCalls data = .ok calls) {c : WriterCall} (hc : c ∈ calls) :
    tokenize c.text = .ok c.words := by
  cases c with
  | line args => exact tokenize_wordsLine args
  | rawLine raw =>
    obtain ⟨front, rfl, hfront⟩ := writerCalls_eq_ok h
    rcases List.mem_append.mp hc with hc | hc
    · rcases hfront _ hc with ⟨tag, args, he, -⟩ | ⟨routes, line, he, hl⟩
      · simp at he
      · cases he
        exact tokenize_safeRouteLine (of_mem_safeRouteLines hl).2.1
    · simp [tailCalls] at hc

/-- The lines before the hard-coded end do not begin with one of its tags. -/
theorem head_words_not_mem_tailTags {c : WriterCall}
    (h : (∃ tag args, c = .line (tag :: args) ∧ tag ∈ optionTags) ∨
      ∃ routes line, c = .rawLine line ∧ line ∈ safeRouteLines routes) {tag : String}
    (ht : tag ∈ tailTags) : c.words.head? ≠ some tag := by
  have hdisj : ∀ t ∈ tailTags, t ∉ optionTags := by decide
  have htail : ∀ t ∈ tailTags, t.toList.head? ≠ some 'r' := by decide
  rcases h with ⟨tag', args, rfl, ht'⟩ | ⟨routes, line, rfl, hl⟩
  · intro he
    obtain rfl : tag' = tag := by simpa [WriterCall.words] using he
    exact hdisj _ ht ht'
  · obtain ⟨-, w, args, hw, ⟨t, hwt⟩, -⟩ := routeWords_of_mem_safeRouteLines hl
    intro he
    obtain rfl : w = tag := by simpa [WriterCall.words, hw] using he
    exact htail _ ht (by rw [hwt]; rfl)

/-- The lines of a profile that begin with a tag of the hard-coded end are those of that end. -/
theorem filter_tailTag {data : VpnData} {calls : List WriterCall}
    (h : writerCalls data = .ok calls) {tag : String} (ht : tag ∈ tailTags) :
    (calls.map WriterCall.words).filter (·.head? = some tag) =
      (tailCalls.map WriterCall.words).filter (·.head? = some tag) := by
  obtain ⟨front, rfl, hfront⟩ := writerCalls_eq_ok h
  have hnil : (front.map WriterCall.words).filter (·.head? = some tag) = [] := by
    refine List.filter_eq_nil_iff.mpr fun ws hws ↦ ?_
    obtain ⟨c, hc, rfl⟩ := List.mem_map.mp hws
    simpa using head_words_not_mem_tailTags (hfront c hc) ht
  rw [List.map_append, List.filter_append, hnil, List.nil_append]

/-- **No value injects a directive into a profile.** Split at line feeds, a profile has one line for
each writer call, and each line is tokenized into what the call was given. So a first word is one of
the emitter's tags, or of the route family as far as it is ASCII; the privileged directives occur
once, with the emitter's arguments; and the hard-coded end comes last. -/
theorem buildProfileString_lines (data : VpnData) (profile : String)
    (h : buildProfileString data = .ok profile) :
    ∃ calls, writerCalls data = .ok calls ∧
      profile.toList.splitOn '\n' = calls.map WriterCall.text ++ [[]] ∧
      (calls.map WriterCall.text).map tokenize = (calls.map WriterCall.words).map .ok ∧
      (∀ ws ∈ calls.map WriterCall.words, ∃ w args, ws = w :: args ∧
        ((∀ c ∈ w.toList, isAscii c = true) → w ∈ emitterTags ∨ w ∈ routeFamily)) ∧
      (calls.map WriterCall.words).filter (·.head? = some "script-security") =
        [["script-security", "2"]] ∧
      (calls.map WriterCall.words).filter (·.head? = some "user") = [["user", "nm-openvpn3"]] ∧
      (calls.map WriterCall.words).filter (·.head? = some "group") = [["group", "nm-openvpn3"]] ∧
      (calls.map WriterCall.words).drop (calls.length - 7) =
        [["nobind"], ["auth-nocache"], ["script-security", "2"], ["persist-key"], ["persist-tun"],
          ["user", "nm-openvpn3"], ["group", "nm-openvpn3"]] := by
  obtain ⟨calls, hcalls, rfl⟩ := buildProfileString_eq_ok h
  refine ⟨calls, hcalls, ?_, ?_, ?_, ?_, ?_, ?_, ?_⟩
  · rw [writeAll, String.toList_ofList, ← List.flatMap_map (g := (· ++ ['\n']))]
    exact splitOn_flatMap_newline fun l hl ↦ ((readAsAll_of_writerCalls hcalls).lines l hl).1
  · rw [List.map_map, List.map_map]
    exact List.map_congr_left fun c hc ↦ tokenize_text_of_writerCalls hcalls hc
  · -- A first word is the tag of a setting, of a preserved route, or of the hard-coded end.
    intro ws hws
    obtain ⟨c, hc, rfl⟩ := List.mem_map.mp hws
    obtain ⟨front, rfl, hfront⟩ := writerCalls_eq_ok hcalls
    rcases List.mem_append.mp hc with hc | hc
    · rcases hfront c hc with ⟨tag, args, rfl, ht⟩ | ⟨routes, line, rfl, hl⟩
      · exact ⟨tag, args, rfl, fun _ ↦ .inl (List.mem_append_left _ ht)⟩
      · obtain ⟨-, w, args, hw, -, hascii⟩ := routeWords_of_mem_safeRouteLines hl
        exact ⟨w, args, hw, fun ha ↦ .inr (hascii ha)⟩
    · simp only [tailCalls, List.mem_cons, List.not_mem_nil, or_false] at hc
      rcases hc with rfl | rfl | rfl | rfl | rfl | rfl | rfl <;>
        exact ⟨_, _, rfl, fun _ ↦ .inl (by decide)⟩
  · rw [filter_tailTag hcalls (by decide)]
    decide
  · rw [filter_tailTag hcalls (by decide)]
    decide
  · rw [filter_tailTag hcalls (by decide)]
    decide
  · obtain ⟨front, rfl, -⟩ := writerCalls_eq_ok hcalls
    rw [List.map_append, List.length_append,
      show front.length + tailCalls.length - 7 = (front.map WriterCall.words).length by
        rw [List.length_map]; exact Nat.add_sub_cancel _ _,
      List.drop_left]
    rfl

/-- A certificate path and a route list that try to smuggle directives in. -/
private def hostileData : VpnData := Dict.ofList
  [("remote", "gw.example.com"), ("connection-type", "tls"), ("cert", "x\nscript-security 3"),
    ("nm-openvpn3-extra-routes", "route 10.0.0.0\nup /tmp/evil.sh")]

theorem buildProfileString_lines_hostileData : ∃ calls, writerCalls hostileData = .ok calls ∧
    (calls.map WriterCall.words).filter (·.head? = some "script-security") =
      [["script-security", "2"]] := by
  obtain ⟨calls, hcalls, -, -, -, hs, -⟩ := buildProfileString_lines hostileData
    ("client\nremote 'gw.example.com'\ncert \"x\\nscript-security 3\"\ndev tun\nproto udp\n" ++
      "route 10.0.0.0\nnobind\nauth-nocache\nscript-security 2\npersist-key\npersist-tun\n" ++
      "user nm-openvpn3\ngroup nm-openvpn3\n") (by decide +kernel)
  exact ⟨calls, hcalls, hs⟩

end Service

end NmOpenvpn3
