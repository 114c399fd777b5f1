import NmOpenvpn3.ImportExport.Export

/-!
# Import: from directives to `vpn.data`

`asNmData` projects a config onto a `vpn.data` map. One loop over the directives writes keys and
keeps a few flags; after it a standalone `key-direction` finds its key, and the connection type is
inferred from the flags.

What the loop does for one option is its `Arm`, and `importArms` lists the arms under their option
names, in the order of the source. Most arms store the first argument under a key; an arm that does
something of its own has a name of its own.
-/

namespace NmOpenvpn3

namespace ImportExport

open Rust Ovpn

/-! ## The loop -/

/-- The variables of the import loop. -/
structure ImportState where
  data : VpnData
  haveAuthUserPass : Bool
  haveCert : Bool
  haveKey : Bool
  haveSecret : Bool
  haveCa : Bool
  haveTlsAuth : Bool
  keyDirection : Option String

/-- Before the first directive. -/
def ImportState.init : ImportState := ⟨Dict.empty, false, false, false, false, false, false, none⟩

/-- What the importer does with an option. -/
inductive Arm where
  | ignored
  | authUserPass
  | value (key : String)
  | valueOr (key default : String)
  | flag (key : String)
  | proto
  | remote
  | compLzo
  | verifyX509Name
  | tlsVersionMin
  | ca
  | cert
  | key
  | pkcs12
  | secret
  | tlsAuth
  | keyDirection
  | crlVerify
  | httpProxy
  | socksProxy
  | ifconfig
  | route
  | keepalive
  deriving DecidableEq

/-- The arms of the importer. -/
def importArms : List (String × Arm) :=
  [("client", .ignored),
   ("tls-client", .ignored),
   ("auth-user-pass", .authUserPass),
   ("dev", .value "dev"),
   ("dev-type", .value "dev-type"),
   ("proto", .proto),
   ("remote", .remote),
   ("port", .value "port"),
   ("cipher", .value "cipher"),
   ("data-ciphers", .value "data-ciphers"),
   ("data-ciphers-fallback", .value "data-ciphers-fallback"),
   ("auth", .value "auth"),
   ("keysize", .value "keysize"),
   ("tls-cipher", .value "tls-cipher"),
   ("tun-mtu", .value "tunnel-mtu"),
   ("fragment", .value "fragment-size"),
   ("mssfix", .valueOr "mssfix" "yes"),
   ("ping", .value "ping"),
   ("ping-exit", .value "ping-exit"),
   ("ping-restart", .value "ping-restart"),
   ("reneg-sec", .value "reneg-seconds"),
   ("connect-timeout", .value "connect-timeout"),
   ("server-poll-timeout", .value "connect-timeout"),
   ("comp-lzo", .compLzo),
   ("compress", .valueOr "compress" "yes"),
   ("allow-compression", .value "allow-compression"),
   ("float", .flag "float"),
   ("remote-random", .flag "remote-random"),
   ("remote-random-hostname", .flag "remote-random-hostname"),
   ("push-peer-info", .flag "push-peer-info"),
   ("tun-ipv6", .flag "tun-ipv6"),
   ("allow-pull-fqdn", .flag "allow-pull-fqdn"),
   ("ns-cert-type", .value "ns-cert-type"),
   ("remote-cert-tls", .value "remote-cert-tls"),
   ("tls-remote", .value "tls-remote"),
   ("verify-x509-name", .verifyX509Name),
   ("tls-version-min", .tlsVersionMin),
   ("tls-version-max", .value "tls-version-max"),
   ("ca", .ca),
   ("cert", .cert),
   ("key", .key),
   ("pkcs12", .pkcs12),
   ("secret", .secret),
   ("tls-auth", .tlsAuth),
   ("key-direction", .keyDirection),
   ("tls-crypt", .value "tls-crypt"),
   ("tls-crypt-v2", .value "tls-crypt-v2"),
   ("extra-certs", .value "extra-certs"),
   ("crl-verify", .crlVerify),
   ("http-proxy", .httpProxy),
   ("socks-proxy", .socksProxy),
   ("ifconfig", .ifconfig),
   ("route", .route),
   ("keepalive", .keepalive),
   ("nobind", .ignored),
   ("auth-nocache", .ignored),
   ("persist-key", .ignored),
   ("persist-tun", .ignored),
   ("script-security", .ignored),
   ("user", .ignored),
   ("group", .ignored)]

/-- Append to an entry, behind a separator unless it is empty. -/
def appendEntry (sep : String) (entry : Option String) (item : String) : String :=
  let e := entry.getD ""
  (if e = "" then "" else e ++ sep) ++ item

/-- An IPv6 literal goes into brackets, so that its colons are not taken for delimiters. -/
def bracketHost (host : String) : String :=
  if ':' ∈ host.toList ∧ host.toList.head? ≠ some '[' then "[" ++ host ++ "]" else host

/-- The entry of the remote list for the arguments of a `remote`. -/
def remoteEntry (args : List String) : String :=
  bracketHost (args[0]?.getD "") ++
    (if args[1]?.isSome ∨ args[2]?.isSome then ":" ++ args[1]?.getD "" else "") ++
    (match args[2]? with
    | some p => ":" ++ p
    | none => "")

/-- The line that preserves a `route`. -/
def routeLine (args : List String) : String := " ".intercalate ("route" :: args)

/-- The value that stores a certificate name and its optional type. -/
def x509Value (args : List String) : String :=
  match args[1]? with
  | some t => t ++ ":" ++ args[0]?.getD ""
  | none => args[0]?.getD ""

/-- The key of a revocation list. -/
def crlVerifyKey (args : List String) : String :=
  if args[1]? = some "dir" then "crl-verify-dir" else "crl-verify-file"

/-- One option of the loop. -/
def Arm.apply (args : List String) (st : ImportState) : Arm → ImportState
  | .ignored => st
  | .authUserPass => { st with haveAuthUserPass := true }
  | .value k => { st with data := st.data.setOpt k args[0]? }
  | .valueOr k v => { st with data := st.data.insert k (args[0]?.getD v) }
  | .flag k => { st with data := st.data.insert k "yes" }
  | .proto =>
    match args[0]? with
    | some p =>
      if "udp".toList.isPrefixOf p.toList then st
      else { st with data := st.data.insert "proto-tcp" "yes" }
    | none => st
  | .remote =>
    { st with
      data := st.data.insert "remote" (appendEntry "," (st.data "remote") (remoteEntry args)) }
  | .compLzo =>
    let v := args[0]?.getD "yes"
    { st with data := st.data.insert "comp-lzo" (if v = "no" then "no-by-default" else v) }
  | .verifyX509Name => { st with data := st.data.insert "verify-x509-name" (x509Value args) }
  | .tlsVersionMin =>
    { st with
      data := (st.data.setOpt "tls-version-min" args[0]?).setOpt "tls-version-min-or-highest"
        (if args[1]? = some "or-highest" then some "yes" else none) }
  | .ca => { st with data := st.data.setOpt "ca" args[0]?, haveCa := st.haveCa || args[0]?.isSome }
  | .cert =>
    { st with data := st.data.setOpt "cert" args[0]?, haveCert := st.haveCert || args[0]?.isSome }
  | .key =>
    { st with data := st.data.setOpt "key" args[0]?, haveKey := st.haveKey || args[0]?.isSome }
  | .pkcs12 =>
    { st with
      data := ((st.data.setOpt "ca" args[0]?).setOpt "cert" args[0]?).setOpt "key" args[0]?
      haveCa := st.haveCa || args[0]?.isSome
      haveCert := st.haveCert || args[0]?.isSome
      haveKey := st.haveKey || args[0]?.isSome }
  | .secret =>
    { st with
      data := (st.data.setOpt "static-key" args[0]?).setOpt "static-key-direction" args[1]?
      haveSecret := st.haveSecret || args[0]?.isSome }
  | .tlsAuth =>
    { st with
      data := (st.data.setOpt "ta" args[0]?).setOpt "ta-dir" args[1]?
      haveTlsAuth := true }
  | .keyDirection => { st with keyDirection := args[0]?.or st.keyDirection }
  | .crlVerify => { st with data := st.data.setOpt (crlVerifyKey args) args[0]? }
  | .httpProxy =>
    match args[0]? with
    | some server =>
      { st with
        data := (((st.data.insert "proxy-type" "http").insert "proxy-server" server).setOpt
          "proxy-port" args[1]?).setOpt "http-proxy-auth-file" args[2]? }
    | none => st
  | .socksProxy =>
    match args[0]? with
    | some server =>
      { st with
        data := ((st.data.insert "proxy-type" "socks").insert "proxy-server" server).setOpt
          "proxy-port" args[1]? }
    | none => st
  | .ifconfig =>
    match args[0]?, args[1]? with
    | some l, some r =>
      { st with data := (st.data.insert "local-ip" l).insert "remote-ip" r }
    | _, _ => st
  | .route =>
    { st with
      data := st.data.insert "nm-openvpn3-extra-routes"
        (appendEntry "\n" (st.data "nm-openvpn3-extra-routes") (routeLine args)) }
  | .keepalive =>
    match args[0]?, args[1]? with
    | some a, some b => { st with data := (st.data.insert "ping" a).insert "ping-restart" b }
    | _, _ => st

/-- One inline blob of the loop: only that the slot is filled is recorded. -/
def importBlob (st : ImportState) (name : String) : ImportState :=
  { st with
    haveCa := st.haveCa || name == "ca"
    haveCert := st.haveCert || name == "cert"
    haveKey := st.haveKey || name == "key"
    haveSecret := st.haveSecret || name == "secret" }

/-- One directive of the loop. Unknown options change nothing. -/
def importDirective (st : ImportState) : Directive → ImportState
  | .option name args =>
    match importArms.lookup name with
    | some arm => arm.apply args st
    | none => st
  | .blob name _ => importBlob st name

/-- The loop over a list of directives. -/
def importAll (st : ImportState) (ds : List Directive) : ImportState := ds.foldl importDirective st

/-! ## After the loop -/

/-- A standalone `key-direction` goes to `tls-auth`, else to the static key, unless an argument has
already set the direction there. -/
def resolveKeyDirection (st : ImportState) : VpnData :=
  match st.keyDirection with
  | some dir =>
    if st.haveTlsAuth then st.data.orInsert "ta-dir" dir
    else if st.haveSecret then st.data.orInsert "static-key-direction" dir
    else st.data
  | none => st.data

/-- The connection type, by what the config carries. -/
def inferConnectionType (st : ImportState) : String :=
  if st.haveSecret then "static-key"
  else if st.haveCert && st.haveKey && st.haveAuthUserPass then "password-tls"
  else if st.haveCert && st.haveKey then "tls"
  else if st.haveAuthUserPass then "password"
  else if st.haveCa then "tls"
  else "tls"

/-- `OvpnConfig::as_nm_data`. -/
def asNmData (c : OvpnConfig) : VpnData :=
  let st := importAll .init c.directives
  (resolveKeyDirection st).insert "connection-type" (inferConnectionType st)

/-! ## What an arm touches -/

/-- The keys that an arm may write. -/
def Arm.keys : Arm → List String
  | .ignored | .authUserPass | .keyDirection => []
  | .value k | .valueOr k _ | .flag k => [k]
  | .proto => ["proto-tcp"]
  | .remote => ["remote"]
  | .compLzo => ["comp-lzo"]
  | .verifyX509Name => ["verify-x509-name"]
  | .tlsVersionMin => ["tls-version-min", "tls-version-min-or-highest"]
  | .ca => ["ca"]
  | .cert => ["cert"]
  | .key => ["key"]
  | .pkcs12 => ["ca", "cert", "key"]
  | .secret => ["static-key", "static-key-direction"]
  | .tlsAuth => ["ta", "ta-dir"]
  | .crlVerify => ["crl-verify-file", "crl-verify-dir"]
  | .httpProxy => ["proxy-type", "proxy-server", "proxy-port", "http-proxy-auth-file"]
  | .socksProxy => ["proxy-type", "proxy-server", "proxy-port"]
  | .ifconfig => ["local-ip", "remote-ip"]
  | .route => ["nm-openvpn3-extra-routes"]
  | .keepalive => ["ping", "ping-restart"]

theorem Arm.apply_data_of_not_mem {arm : Arm} {k : String} (h : k ∉ arm.keys)
    (args : List String) (st : ImportState) : (arm.apply args st).data k = st.data k := by
  cases arm with
  | ignored | authUserPass | keyDirection => rfl
  | value k' =>
    exact Dict.setOpt_of_ne (by simpa [keys] using h) _ _
  | valueOr k' v =>
    exact Dict.insert_of_ne (by simpa [keys] using h) _ _
  | flag k' => exact Dict.insert_of_ne (by simpa [keys] using h) _ _
  | remote | route | compLzo | verifyX509Name =>
    exact Dict.insert_of_ne (by simpa [keys] using h) _ _
  | ca | cert | key => exact Dict.setOpt_of_ne (by simpa [keys] using h) _ _
  | crlVerify =>
    -- The key depends on the arguments.
    simp only [keys, List.mem_cons, List.not_mem_nil, or_false, not_or] at h
    refine Dict.setOpt_of_ne ?_ _ _
    unfold crlVerifyKey
    split_ifs
    exacts [h.2, h.1]
  | tlsVersionMin | secret | tlsAuth =>
    simp only [keys, List.mem_cons, List.not_mem_nil, or_false, not_or] at h
    simp only [apply, Dict.setOpt_of_ne h.1, Dict.setOpt_of_ne h.2]
  | pkcs12 =>
    simp only [keys, List.mem_cons, List.not_mem_nil, or_false, not_or] at h
    simp only [apply, Dict.setOpt_of_ne h.1, Dict.setOpt_of_ne h.2.1, Dict.setOpt_of_ne h.2.2]
  | proto =>
    simp only [apply]
    split
    · split_ifs
      · rfl
      · exact Dict.insert_of_ne (by simpa [keys] using h) _ _
    · rfl
  | httpProxy =>
    simp only [keys, List.mem_cons, List.not_mem_nil, or_false, not_or] at h
    simp only [apply]
    split
    · simp only [Dict.setOpt_of_ne h.2.2.2, Dict.setOpt_of_ne h.2.2.1,
        Dict.insert_of_ne h.2.1, Dict.insert_of_ne h.1]
    · rfl
  | socksProxy =>
    simp only [keys, List.mem_cons, List.not_mem_nil, or_false, not_or] at h
    simp only [apply]
    split
    · simp only [Dict.setOpt_of_ne h.2.2, Dict.insert_of_ne h.2.1, Dict.insert_of_ne h.1]
    · rfl
  | ifconfig | keepalive =>
    simp only [keys, List.mem_cons, List.not_mem_nil, or_false, not_or] at h
    simp only [apply]
    split
    · simp only [Dict.insert_of_ne h.2, Dict.insert_of_ne h.1]
    · rfl

/-! ## Rules of the loop -/

@[simp] theorem importAll_nil (st : ImportState) : importAll st [] = st := rfl

@[simp] theorem importAll_cons (st : ImportState) (d : Directive) (ds : List Directive) :
    importAll st (d :: ds) = importAll (importDirective st d) ds := rfl

@[simp] theorem importAll_append (st : ImportState) (ds ds' : List Directive) :
    importAll st (ds ++ ds') = importAll (importAll st ds) ds' :=
  List.foldl_append

theorem mem_of_lookup {name : String} {arm : Arm} (h : importArms.lookup name = some arm) :
    (name, arm) ∈ importArms := by
  obtain ⟨l, l', hl, -⟩ := List.lookup_eq_some_iff.mp h
  rw [hl]
  exact List.mem_append_right _ List.mem_cons_self

end ImportExport

end NmOpenvpn3
