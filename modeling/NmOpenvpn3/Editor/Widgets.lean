import NmOpenvpn3.Agreement.Reexport
import NmOpenvpn3.ImportExport.Connection
import NmOpenvpn3.Rust.Float

/-!
# The connection editor

The editor shows a connection's settings map as a tree of rows, `buildWidgetTree`, and writes the
rows back into the map on Apply, `updateConnection`. A row is what the toolkit makes of it: an entry
row is its text, a switch row its state, a choice row the index of the chosen entry, and a spin row
the value that was set, within the bounds of the row. Labels, visibility and the secrets, which are
not in the map, are left out.

What is written is a list of items, `EditorState.items`, in the order of the source. The lemmas of
the last section say what the map holds after rows that were not touched: `get_unedited` for the
keys of the editor, and `unedited_of_not_mem` for all others.
-/

namespace NmOpenvpn3

namespace Editor

open Rust Ovpn
open ImportExport (isCString)
open Agreement (HasRequiredFields validateRequiredFields)

/-! ## Vocabularies -/

/-- `CONTYPES`. -/
def contypes : List String := ["tls", "password", "password-tls", "static-key"]

/-- `ALLOW_COMPRESSION`. -/
def allowCompressionIds : List String := ["", "no", "asym", "yes"]

/-- `REMOTE_CERT_TLS`. -/
def remoteCertTlsIds : List String := ["", "client", "server"]

/-- `NS_CERT_TYPE`. -/
def nsCertTypeIds : List String := ["", "client", "server"]

/-- `TLS_VERSIONS`. -/
def tlsVersionIds : List String := ["", "1.0", "1.1", "1.2", "1.3"]

/-- `PROXY_TYPES`. -/
def proxyTypeIds : List String := ["", "http", "socks"]

/-- `COMP_LZO`. -/
def compLzoIds : List String := ["", "yes", "no", "adaptive"]

/-- `DEV_TYPES`. -/
def devTypeIds : List String := ["", "tun", "tap"]

/-- `COMPRESS`. -/
def compressIds : List String := ["", "lzo", "lz4", "lz4-v2"]

/-- `CIPHERS`. -/
def cipherIds : List String :=
  ["", "AES-256-GCM", "AES-192-GCM", "AES-128-GCM", "CHACHA20-POLY1305", "AES-256-CBC",
    "AES-192-CBC", "AES-128-CBC", "BF-CBC"]

/-- `AUTH_ALGS`. -/
def authAlgIds : List String :=
  ["", "SHA1", "SHA224", "SHA256", "SHA384", "SHA512", "RIPEMD160", "MD5"]

/-- `KEY_DIR`. -/
def keyDirIds : List String := ["", "0", "1"]

/-- `WIDGET_DATA_KEYS`: the keys that are written from the rows. All others are replayed. -/
def widgetDataKeys : List String :=
  ["connection-type", "remote", "port", "ca", "cert", "key", "static-key", "static-key-direction",
    "username", "nm-openvpn3-profile", "dev", "dev-type", "proto-tcp", "tunnel-mtu", "mssfix",
    "fragment-size", "ping", "ping-restart", "reneg-seconds", "connect-timeout",
    "allow-compression", "comp-lzo", "compress", "cipher", "data-ciphers", "data-ciphers-fallback",
    "tls-cipher", "auth", "keysize", "tls-version-min", "tls-version-min-or-highest",
    "tls-version-max", "verify-x509-name", "remote-cert-tls", "ns-cert-type", "ta", "ta-dir",
    "tls-crypt", "tls-crypt-v2", "proxy-type", "proxy-server", "proxy-port", "http-proxy-username",
    "override-route-nopull", "override-force-default-gateway", "override-block-ipv6",
    "override-dns-setup-disabled", "override-dco", "override-log-level"]

/-! ## Rows -/

/-- `ComboBinding`: the ids of a choice row, and the index of the chosen one. -/
structure ComboBinding where
  ids : List String
  selected : ℕ

/-- `ComboBinding::selected_id`. -/
def ComboBinding.selectedId (b : ComboBinding) : String := b.ids[b.selected]?.getD ""

/-- `combo_row`. A value outside of the vocabulary becomes an entry of its own. The ids of a
vocabulary differ, so at most one of them is matched. -/
def comboRow (choices : List String) (initial : Option String) : ComboBinding :=
  match initial with
  | none => ⟨choices, 0⟩
  | some v =>
    match choices.idxOf? v with
    | some i => ⟨choices, i⟩
    | none => if v = "" then ⟨choices, 0⟩ else ⟨choices ++ [v], choices.length⟩

/-- `spin_row`: the value that the row holds. -/
def spinRow (min max : ℕ) (value : F64) : F64 := value.clamp (.finite min) (.finite max)

/-- `TIMER_SECS_MAX`. -/
def timerSecsMax : ℕ := 2 ^ 31 - 1

/-- `parse_int_default`. -/
def parseIntDefault (s : Option String) (default : F64) : F64 := (s.bind parseF64).getD default

/-- `yes_or_empty`. -/
def yesOrEmpty (b : Bool) : String := if b then "yes" else ""

/-! ## Connection types -/

/-- `ContypeFlags`. -/
structure ContypeFlags where
  tlsLike : Bool
  needsUserCert : Bool
  needsPassword : Bool
  isStaticKey : Bool

/-- `ContypeFlags::from_id`. -/
def ContypeFlags.fromId (ct : String) : ContypeFlags where
  tlsLike := ct = "tls" ∨ ct = "password" ∨ ct = "password-tls"
  needsUserCert := ct = "tls" ∨ ct = "password-tls"
  needsPassword := ct = "password" ∨ ct = "password-tls"
  isStaticKey := ct = "static-key"

/-! ## The rows of a connection -/

/-- `EditorState`, without the rows of the secrets. -/
structure EditorState where
  contype : ComboBinding
  remote : String
  port : F64
  ca : String
  cert : String
  key : String
  username : String
  profilePath : String
  staticKey : String
  staticKeyDir : ComboBinding
  dev : String
  devType : ComboBinding
  protoTcp : Bool
  tunMtu : F64
  mssfixEnabled : Bool
  mssfixBytes : F64
  fragment : F64
  keepalivePing : F64
  keepaliveRestart : F64
  renegSeconds : F64
  connectTimeout : F64
  allowCompression : ComboBinding
  compLzo : ComboBinding
  compress : ComboBinding
  cipher : ComboBinding
  dataCiphers : String
  dataCiphersFallback : ComboBinding
  tlsCipher : String
  auth : ComboBinding
  keysize : F64
  tlsVersionMin : ComboBinding
  tlsVersionMinOrHighest : Bool
  tlsVersionMax : ComboBinding
  verifyX509Name : String
  remoteCertTls : ComboBinding
  nsCertType : ComboBinding
  ta : String
  taDir : ComboBinding
  tlsCrypt : String
  tlsCryptV2 : String
  proxyType : ComboBinding
  proxyServer : String
  proxyPort : F64
  proxyUser : String
  orRouteNopull : Bool
  orForceDefaultGateway : Bool
  orBlockIpv6 : Bool
  orDnsSetupDisabled : Bool
  orDco : Bool
  orLogLevel : F64
  initialData : VpnData

/-- The text that an entry row is given. -/
def initialText (initial : VpnData) (k : String) : String := (initial k).getD ""

/-- The value of a spin row from `0` to `max`. -/
def initialSpin (initial : VpnData) (k : String) (max : ℕ) : F64 :=
  spinRow 0 max (parseIntDefault (initial k) (.finite 0))

/-- The byte count that `mssfix` is read as. -/
def mssfixBytesInitial (initial : VpnData) : F64 :=
  ((parseF64 (initialText initial "mssfix")).getD (.finite 0)).max (.finite 0)

/-- `build_widget_tree`. -/
def buildWidgetTree (initial : VpnData) : EditorState where
  contype := comboRow contypes (some ((initial "connection-type").getD "tls"))
  remote := initialText initial "remote"
  port := initialSpin initial "port" 65535
  ca := initialText initial "ca"
  cert := initialText initial "cert"
  key := initialText initial "key"
  username := initialText initial "username"
  profilePath := initialText initial "nm-openvpn3-profile"
  staticKey := initialText initial "static-key"
  staticKeyDir := comboRow keyDirIds (initial "static-key-direction")
  dev := initialText initial "dev"
  devType := comboRow devTypeIds (initial "dev-type")
  protoTcp := initial "proto-tcp" = some "yes"
  tunMtu := initialSpin initial "tunnel-mtu" 65535
  mssfixEnabled :=
    initialText initial "mssfix" = "yes" ∨ (F64.finite 0).lt (mssfixBytesInitial initial)
  mssfixBytes := spinRow 0 65535 (mssfixBytesInitial initial)
  fragment := initialSpin initial "fragment-size" 65535
  keepalivePing := initialSpin initial "ping" timerSecsMax
  keepaliveRestart := initialSpin initial "ping-restart" timerSecsMax
  renegSeconds := initialSpin initial "reneg-seconds" timerSecsMax
  connectTimeout := initialSpin initial "connect-timeout" timerSecsMax
  allowCompression := comboRow allowCompressionIds (initial "allow-compression")
  compLzo := comboRow compLzoIds (initial "comp-lzo")
  compress := comboRow compressIds (initial "compress")
  cipher := comboRow cipherIds (initial "cipher")
  dataCiphers := initialText initial "data-ciphers"
  dataCiphersFallback := comboRow cipherIds (initial "data-ciphers-fallback")
  tlsCipher := initialText initial "tls-cipher"
  auth := comboRow authAlgIds (initial "auth")
  keysize := initialSpin initial "keysize" 65535
  tlsVersionMin := comboRow tlsVersionIds (initial "tls-version-min")
  tlsVersionMinOrHighest := initial "tls-version-min-or-highest" = some "yes"
  tlsVersionMax := comboRow tlsVersionIds (initial "tls-version-max")
  verifyX509Name := initialText initial "verify-x509-name"
  remoteCertTls := comboRow remoteCertTlsIds (initial "remote-cert-tls")
  nsCertType := comboRow nsCertTypeIds (initial "ns-cert-type")
  ta := initialText initial "ta"
  taDir := comboRow keyDirIds (initial "ta-dir")
  tlsCrypt := initialText initial "tls-crypt"
  tlsCryptV2 := initialText initial "tls-crypt-v2"
  proxyType := comboRow proxyTypeIds (initial "proxy-type")
  proxyServer := initialText initial "proxy-server"
  proxyPort := initialSpin initial "proxy-port" 65535
  proxyUser := initialText initial "http-proxy-username"
  orRouteNopull := initial "override-route-nopull" = some "yes"
  orForceDefaultGateway := initial "override-force-default-gateway" = some "yes"
  orBlockIpv6 := initial "override-block-ipv6" = some "yes"
  orDnsSetupDisabled := initial "override-dns-setup-disabled" = some "yes"
  orDco := initial "override-dco" = some "yes"
  orLogLevel := initialSpin initial "override-log-level" 6
  initialData := initial

/-! ## Apply -/

/-- An item that is written only for some connection types. -/
def cond (b : Bool) (s : String) : String := if b then s else ""

/-- The text of a spin row, where `0` counts as unset. -/
def intOrEmpty (v : ℤ) : String := if 0 < v then toString v else ""

/-- The text of the `mssfix` switch and its byte count. -/
def mssfixValue (enabled : Bool) (bytes : ℤ) : String :=
  if !enabled then "" else if 0 < bytes then toString bytes else "yes"

/-- The items that Apply sets, key by key. An empty text removes its key. -/
def EditorState.items (st : EditorState) : List (String × String) :=
  let ct := st.contype.selectedId
  let flags := ContypeFlags.fromId ct
  [("connection-type", ct),
   ("remote", st.remote),
   ("port", intOrEmpty st.port.toI64),
   ("ca", cond flags.tlsLike st.ca),
   ("cert", cond flags.needsUserCert st.cert),
   ("key", cond flags.needsUserCert st.key),
   ("username", cond flags.needsPassword st.username),
   ("static-key", cond flags.isStaticKey st.staticKey),
   ("static-key-direction", cond flags.isStaticKey st.staticKeyDir.selectedId),
   ("nm-openvpn3-profile", st.profilePath),
   ("dev", st.dev),
   ("dev-type", st.devType.selectedId),
   ("proto-tcp", yesOrEmpty st.protoTcp),
   ("tunnel-mtu", intOrEmpty st.tunMtu.toI64),
   ("mssfix", mssfixValue st.mssfixEnabled st.mssfixBytes.toI64),
   ("fragment-size", intOrEmpty st.fragment.toI64),
   ("ping", intOrEmpty st.keepalivePing.toI64),
   ("ping-restart", intOrEmpty st.keepaliveRestart.toI64),
   ("reneg-seconds", intOrEmpty st.renegSeconds.toI64),
   ("connect-timeout", intOrEmpty st.connectTimeout.toI64),
   ("allow-compression", st.allowCompression.selectedId),
   ("comp-lzo", st.compLzo.selectedId),
   ("compress", st.compress.selectedId),
   ("cipher", st.cipher.selectedId),
   ("data-ciphers", st.dataCiphers),
   ("data-ciphers-fallback", st.dataCiphersFallback.selectedId),
   ("tls-cipher", st.tlsCipher),
   ("auth", st.auth.selectedId),
   ("keysize", intOrEmpty st.keysize.toI64),
   ("tls-version-min", st.tlsVersionMin.selectedId),
   ("tls-version-min-or-highest", yesOrEmpty st.tlsVersionMinOrHighest),
   ("tls-version-max", st.tlsVersionMax.selectedId),
   ("verify-x509-name", st.verifyX509Name),
   ("remote-cert-tls", st.remoteCertTls.selectedId),
   ("ns-cert-type", st.nsCertType.selectedId),
   ("ta", st.ta),
   ("ta-dir", st.taDir.selectedId),
   ("tls-crypt", st.tlsCrypt),
   ("tls-crypt-v2", st.tlsCryptV2),
   ("proxy-type", st.proxyType.selectedId),
   ("proxy-server", st.proxyServer),
   ("proxy-port", intOrEmpty st.proxyPort.toI64),
   ("http-proxy-username", st.proxyUser),
   ("override-route-nopull", yesOrEmpty st.orRouteNopull),
   ("override-force-default-gateway", yesOrEmpty st.orForceDefaultGateway),
   ("override-block-ipv6", yesOrEmpty st.orBlockIpv6),
   ("override-dns-setup-disabled", yesOrEmpty st.orDnsSetupDisabled),
   ("override-dco", yesOrEmpty st.orDco),
   ("override-log-level", intOrEmpty st.orLogLevel.toI64)]

/-- Set an item of the connection. An empty text removes it, and so does one that is no C string. -/
def setItem (settings : VpnData) (k v : String) : VpnData :=
  if v = "" ∨ isCString v = false then settings.remove k else settings.insert k v

/-- The items of the initial map that the editor does not own are set again. -/
def replay (initial settings : VpnData) : VpnData := fun k ↦
  if widgetDataKeys.contains k || !isCString k then settings k
  else match (initial k).filter isCString with
    | some v => some v
    | none => settings k

/-- `iface_update_connection`: the connection's settings after Apply, or why it is refused. -/
def updateConnection (st : EditorState) (settings : VpnData) : Except String VpnData :=
  match validateRequiredFields st.contype.selectedId st.remote st.ca st.cert st.key st.username
    st.staticKey with
  | some msg => .error msg
  | none => .ok (st.items.foldl (fun d p ↦ setItem d p.1 p.2) (replay st.initialData settings))

/-! ## Choices -/

/-- **A choice row loses nothing**: what it was given is chosen, in the vocabulary or not. -/
theorem selectedId_comboRow_some {choices : List String} {v : String} (h : v ∈ choices ∨ v ≠ "") :
    (comboRow choices (some v)).selectedId = v := by
  rw [comboRow]
  cases hidx : choices.idxOf? v with
  | some i =>
    obtain ⟨hi, hv, -⟩ := List.idxOf?_eq_some_iff.mp hidx
    simp [ComboBinding.selectedId, hi, hv]
  | none =>
    have hv : v ≠ "" := h.resolve_left (List.idxOf?_eq_none_iff.mp hidx)
    simp [ComboBinding.selectedId, hv]

theorem selectedId_comboRow {choices : List String} (h : choices[0]? = some "")
    (initial : Option String) : (comboRow choices initial).selectedId = initial.getD "" := by
  cases initial with
  | none => simp [comboRow, ComboBinding.selectedId, h]
  | some v =>
    refine selectedId_comboRow_some ?_
    by_cases hv : v = ""
    · exact .inl (hv ▸ List.mem_of_getElem? h)
    · exact .inr hv

/-! ## What is set -/

section Items

variable {settings : VpnData} {items : List (String × String)}

theorem get_setItem_self (k : String) {v : String} (h : isCString v = true) :
    get (setItem settings k v) k = argIsSet (some v) := by
  rw [setItem, Ovpn.get]
  by_cases hv : v = ""
  · rw [if_pos (.inl hv), hv]
    simp [Dict.remove, argIsSet, Option.filter]
  · rw [if_neg (by simp [hv, h]), Dict.insert_self]

theorem setItem_of_ne {k k' : String} (h : k' ≠ k) (v : String) :
    setItem settings k v k' = settings k' := by
  rw [setItem]
  split_ifs
  · exact Dict.remove_of_ne h settings
  · exact Dict.insert_of_ne h settings v

theorem foldl_setItem_of_not_mem {k : String} (h : k ∉ items.map Prod.fst) :
    items.foldl (fun d p ↦ setItem d p.1 p.2) settings k = settings k := by
  induction items generalizing settings with
  | nil => rfl
  | cons p items ih =>
    rw [List.map_cons, List.mem_cons, not_or] at h
    rw [List.foldl_cons, ih h.2, setItem_of_ne h.1]

/-- Each key is set once, so the map holds what it is set to. -/
theorem get_foldl_setItem (hnd : (items.map Prod.fst).Nodup) {k v : String}
    (hmem : (k, v) ∈ items) (hv : isCString v = true) :
    get (items.foldl (fun d p ↦ setItem d p.1 p.2) settings) k = argIsSet (some v) := by
  induction items generalizing settings with
  | nil => cases hmem
  | cons p items ih =>
    rw [List.map_cons, List.nodup_cons] at hnd
    rw [List.foldl_cons]
    rcases List.mem_cons.mp hmem with rfl | hmem
    · rw [Ovpn.get, foldl_setItem_of_not_mem hnd.1]
      exact get_setItem_self k hv
    · exact ih hnd.2 hmem

end Items

/-- The keys that are set are those that the editor owns. -/
theorem map_fst_items_perm (st : EditorState) :
    (st.items.map Prod.fst).Perm widgetDataKeys := by
  have hkeys : st.items.map Prod.fst = (buildWidgetTree Dict.empty).items.map Prod.fst := rfl
  rw [hkeys]
  decide

/-! ## Apply without an edit -/

/-- The data items of a VPN setting, which are C strings. -/
structure DataItems where
  data : VpnData
  cString : ∀ k v, data k = some v → isCString v = true

/-- The data items that a list of entries builds. -/
def DataItems.ofList (l : List (String × String)) (hnd : (l.map Prod.fst).Nodup)
    (h : ∀ p ∈ l, isCString p.2 = true) : DataItems where
  data := Dict.ofList l
  cString k v hk := by
    rcases (Dict.insertAll_of_nodup hnd _ k v).mp hk with hmem | ⟨-, hempty⟩
    · exact h (k, v) hmem
    · cases hempty

/-- The settings after Apply on rows that were not touched. -/
def applyUnedited (data : VpnData) : Except String VpnData :=
  updateConnection (buildWidgetTree data) data

/-- The items that it sets. -/
def unedited (data : VpnData) : VpnData :=
  (buildWidgetTree data).items.foldl (fun d p ↦ setItem d p.1 p.2) data

theorem replay_self (data : VpnData) : replay data data = data := by
  funext k
  rw [replay]
  split_ifs
  · rfl
  · split
    · rename_i v hv
      exact (Option.filter_eq_some_iff.mp hv).1.symm
    · rfl

theorem applyUnedited_eq_ok {data : VpnData} {ct : String}
    (hct : data "connection-type" = some ct) (hne : ct ≠ "") (hreq : HasRequiredFields data) :
    applyUnedited data = .ok (unedited data) := by
  have hrow : (buildWidgetTree data).contype.selectedId = (data "connection-type").getD "" := by
    change (comboRow contypes (some ((data "connection-type").getD "tls"))).selectedId = _
    rw [hct]
    exact selectedId_comboRow_some (.inr hne)
  -- The rows hold the texts that the check reads.
  have hvalid : validateRequiredFields (buildWidgetTree data).contype.selectedId
      (buildWidgetTree data).remote (buildWidgetTree data).ca (buildWidgetTree data).cert
      (buildWidgetTree data).key (buildWidgetTree data).username
      (buildWidgetTree data).staticKey = none := by
    rw [hrow]
    exact hreq
  have hreplay : replay (buildWidgetTree data).initialData data = data := replay_self data
  rw [applyUnedited, updateConnection, hvalid, hreplay]
  rfl

section Unedited

variable (s : DataItems)

theorem nodup_map_fst_items (st : EditorState) : (st.items.map Prod.fst).Nodup :=
  (map_fst_items_perm st).nodup_iff.mpr (by decide)

/-- A key that the editor does not own stays as it is. -/
theorem unedited_of_not_mem (data : VpnData) {k : String} (h : k ∉ widgetDataKeys) :
    unedited data k = data k :=
  foldl_setItem_of_not_mem fun hk ↦ h ((map_fst_items_perm _).mem_iff.mp hk)

theorem get_unedited (data : VpnData) {k v : String}
    (h : (buildWidgetTree data).items.lookup k = some v) (hv : isCString v = true) :
    get (unedited data) k = argIsSet (some v) := by
  obtain ⟨l, l', hl, -⟩ := List.lookup_eq_some_iff.mp h
  exact get_foldl_setItem (nodup_map_fst_items _) (hl ▸ List.mem_append_right _ List.mem_cons_self)
    hv

theorem isCString_initialText (k : String) : isCString (initialText s.data k) = true := by
  rw [initialText]
  cases hv : s.data k with
  | none => rfl
  | some v => exact s.cString k v hv

theorem argIsSet_initialText (data : VpnData) (k : String) :
    argIsSet (some (initialText data k)) = get data k := by
  rw [initialText, Ovpn.get]
  cases data k <;> rfl

/-- The key of an entry row keeps its text. -/
theorem get_unedited_text {k : String}
    (h : (buildWidgetTree s.data).items.lookup k = some (initialText s.data k)) :
    get (unedited s.data) k = get s.data k := by
  rw [get_unedited s.data h (isCString_initialText s k), argIsSet_initialText]

/-- The key of a choice row keeps its id. -/
theorem get_unedited_choice {k : String} {choices : List String} (hchoices : choices[0]? = some "")
    (h : (buildWidgetTree s.data).items.lookup k =
      some (comboRow choices (s.data k)).selectedId) :
    get (unedited s.data) k = get s.data k := by
  rw [selectedId_comboRow hchoices] at h
  exact get_unedited_text s h

end Unedited

end Editor

end NmOpenvpn3
