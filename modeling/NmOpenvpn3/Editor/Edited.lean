import NmOpenvpn3.Editor.Unedited

/-!
# Apply after edits

Whatever is edited in the rows, Apply is a write that the editor reads back: each owned key holds
what its row says, the other keys stay, and an editor that is opened on the result and applied at
once writes the same map again. `apply_edited` says so for all rows and all maps.

The rows are described by the list of their `fields`, in the order in which Apply writes them. What
is opened, edited and written is then a matter of the `Kind` of a row, and the argument is made once
for each kind.
-/

namespace NmOpenvpn3

namespace Editor

open Rust Ovpn Service Agreement
open ImportExport (isCString)

/-! ## Kinds of rows -/

/-- The kinds of rows, with the entries of a choice row and the upper bound of a spin row. -/
inductive Kind where
  | contype
  | text
  | choice (ids : List String)
  | switch
  | spin (max : ℕ)
  | mssfix

/-- A row as the user left it. -/
inductive Row where
  | text (text : String)
  | choice (binding : ComboBinding)
  | switch (on : Bool)
  | spin (value : F64)
  | mssfix (enabled : Bool) (bytes : F64)

/-- What a row writes. -/
def Row.value : Row → String
  | .text t => t
  | .choice b => b.selectedId
  | .switch on => yesOrEmpty on
  | .spin x => intOrEmpty x.toI64
  | .mssfix enabled bytes => mssfixValue enabled bytes.toI64

/-- The row that is built for an item. -/
def Kind.row : Kind → Option String → Row
  | .contype, v => .choice (comboRow contypes (some (v.getD "tls")))
  | .text, v => .text (v.getD "")
  | .choice ids, v => .choice (comboRow ids v)
  | .switch, v => .switch (v = some "yes")
  | .spin max, v => .spin (spinRow 0 max (parseIntDefault v (.finite 0)))
  | .mssfix, v =>
    let bytes := ((parseF64 (v.getD "")).getD (.finite 0)).max (.finite 0)
    .mssfix (v.getD "" = "yes" ∨ (F64.finite 0).lt bytes) (spinRow 0 65535 bytes)

/-- What may become of a row by edits. An entry row holds any text, which the toolkit keeps as a
C string, a choice row any of its entries, and a spin row any value within its bounds. -/
def Kind.Edits : Kind → Option String → Row → Prop
  | .contype, v, .choice b =>
    b.ids = (comboRow contypes (some (v.getD "tls"))).ids ∧ b.selected < b.ids.length
  | .text, _, .text t => isCString t = true
  | .choice ids, v, .choice b => b.ids = (comboRow ids v).ids ∧ b.selected < b.ids.length
  | .switch, _, .switch _ => True
  | .spin max, _, .spin x => ∃ y, x = spinRow 0 max y
  | .mssfix, _, .mssfix _ x => ∃ y, x = spinRow 0 65535 y
  | _, _, _ => False

/-- The entries and the bounds that the rows of the editor have. -/
def Kind.Regular : Kind → Prop
  | .choice ids => ids[0]? = some "" ∧ ∀ id ∈ ids, isCString id = true
  | .spin max => max < 2 ^ 53
  | _ => True

instance : DecidablePred Kind.Regular
  | .choice ids =>
    inferInstanceAs (Decidable (ids[0]? = some "" ∧ ∀ id ∈ ids, isCString id = true))
  | .spin max => inferInstanceAs (Decidable (max < 2 ^ 53))
  | .contype | .text | .switch | .mssfix => inferInstanceAs (Decidable True)

/-! ### Choices -/

theorem mem_comboRow_ids {ids : List String} {v : Option String} {id : String}
    (h : id ∈ (comboRow ids v).ids) : id ∈ ids ∨ v = some id ∧ id ≠ "" := by
  cases v with
  | none => exact .inl h
  | some w =>
    rw [comboRow] at h
    split at h
    · exact .inl h
    · split_ifs at h with hw
      · exact .inl h
      · obtain h | h := List.mem_append.mp h
        · exact .inl h
        · obtain rfl := List.mem_singleton.mp h
          exact .inr ⟨rfl, hw⟩

theorem selectedId_mem {b : ComboBinding} (h : b.selected < b.ids.length) :
    b.selectedId ∈ b.ids := by
  rw [ComboBinding.selectedId, List.getElem?_eq_getElem h]
  exact List.getElem_mem h

/-- The connection type is never empty. -/
theorem selectedId_contype_ne {b : ComboBinding} {v : Option String}
    (h : Kind.contype.Edits v (.choice b)) : b.selectedId ≠ "" := by
  obtain ⟨hids, hsel⟩ := h
  obtain hmem | ⟨-, hne⟩ := mem_comboRow_ids (hids ▸ selectedId_mem hsel)
  · rintro he
    exact absurd (he ▸ hmem) (by decide)
  · exact hne

/-! ### Numbers -/

theorem toI64_spinRow_mem {m : ℕ} (hm : m < 2 ^ 53) (x : F64) :
    0 ≤ (spinRow 0 m x).toI64 ∧ (spinRow 0 m x).toI64 ≤ m := by
  rw [spinRow, Nat.cast_zero]
  exact F64.toI64_clamp_mem hm x

theorem isI64_of_mem {m : ℕ} (hm : m < 2 ^ 53) {n : ℤ} (h : 0 ≤ n ∧ n ≤ m) : IsI64 n := by
  have hlarge : (m : ℤ) < 2 ^ 53 := by exact_mod_cast hm
  constructor <;> omega

/-- A spin row reads back what it has written. -/
theorem spinInt_intOrEmpty {m : ℕ} (hm : m < 2 ^ 53) {n : ℤ} (h : 0 ≤ n ∧ n ≤ m) :
    spinInt m (argIsSet (some (intOrEmpty n))) = n := by
  have hi64 := isI64_of_mem hm h
  rw [argIsSet_intOrEmpty hi64]
  split_ifs with hpos
  · rw [spinInt_of_parseI64 hm (parseI64_toString hi64)]
    omega
  · rw [spinInt_unset hm none rfl]
    omega

/-- The switch of `mssfix` and its byte count read back what they have written. -/
theorem mssfix_again (enabled : Bool) {n : ℤ} (h : 0 ≤ n ∧ n ≤ 65535) :
    (Kind.mssfix.row (argIsSet (some (mssfixValue enabled n)))).value = mssfixValue enabled n := by
  have hlarge : 65535 < 2 ^ 53 := by norm_num
  have hi64 : IsI64 n := isI64_of_mem hlarge (m := 65535) h
  -- The row is the one that the editor builds for a map with this item.
  obtain ⟨v, hv⟩ : ∃ v, v = argIsSet (some (mssfixValue enabled n)) := ⟨_, rfl⟩
  have hon := mssfixEnabled_eq fun _ ↦ v
  have hbytes := toI64_mssfixBytes fun _ ↦ v
  have hrow : (Kind.mssfix.row v).value =
      mssfixValue (buildWidgetTree fun _ ↦ v).mssfixEnabled
        (spinRow 0 65535 (mssfixBytesInitial fun _ ↦ v)).toI64 := rfl
  rw [← hv, hrow, hbytes]
  rw [argIsSet_mssfixValue hi64] at hv
  cases enabled with
  | false =>
    simp only [Bool.false_eq_true, if_false] at hv
    have hoff : (buildWidgetTree fun _ ↦ v).mssfixEnabled = false := by
      rw [← Bool.not_eq_true, hon, hv]
      rintro (he | ⟨x, hx, -⟩)
      · exact absurd he (by decide)
      · cases hx
    rw [hoff]
    rfl
  | true =>
    rw [if_pos rfl] at hv
    by_cases hpos : 0 < n
    · rw [if_pos hpos] at hv
      obtain ⟨x, hx, hle⟩ := parseF64_of_parseI64 (parseI64_toString hi64)
      have habove : (F64.finite 0).lt x = true :=
        F64.lt_of_le_pos (a := (1 : ℤ)) (by norm_num) ((hle 1 le_rfl (by norm_num)).mpr hpos)
      have hswitch : (buildWidgetTree fun _ ↦ v).mssfixEnabled = true :=
        hon.mpr (.inr ⟨x, by rw [hv]; exact hx, habove⟩)
      rw [hswitch, hv, spinInt_of_parseI64 hlarge (parseI64_toString hi64)]
      congr 1
      omega
    · rw [if_neg hpos] at hv
      have hswitch : (buildWidgetTree fun _ ↦ v).mssfixEnabled = true :=
        hon.mpr (.inl (by rw [hv]; rfl))
      have hzero : ¬0 < spinInt 65535 (some "yes") := by
        rw [spinInt_pos_iff hlarge (by norm_num)]
        rintro ⟨x, hx, -⟩
        cases hx
      rw [hswitch, hv, mssfixValue, mssfixValue]
      simp [hpos, hzero]

/-! ### What is written is read back -/

/-- Every row writes a C string. -/
theorem isCString_row {kind : Kind} {v : Option String} {r : Row} (hkind : kind.Regular)
    (hv : ∀ w, v = some w → isCString w = true) (h : kind.Edits v r) :
    isCString r.value = true := by
  cases kind <;> cases r <;> try exact h.elim
  case contype.choice b =>
    obtain hmem | ⟨he, -⟩ := mem_comboRow_ids (h.1 ▸ selectedId_mem h.2)
    · exact (by decide : ∀ id ∈ contypes, isCString id = true) _ hmem
    · cases v with
      | none =>
        rw [Row.value, ← Option.some_inj.mp he]
        decide
      | some w => exact hv _ he
  case choice.choice ids b =>
    obtain hmem | ⟨he, -⟩ := mem_comboRow_ids (h.1 ▸ selectedId_mem h.2)
    · exact hkind.2 _ hmem
    · exact hv _ he
  case text.text t => exact h
  case switch.switch on => cases on <;> decide
  case spin.spin max x =>
    obtain ⟨y, rfl⟩ := h
    exact isCString_intOrEmpty (isI64_of_mem hkind (toI64_spinRow_mem hkind y))
  case mssfix.mssfix enabled x =>
    obtain ⟨y, rfl⟩ := h
    exact isCString_mssfixValue
      (isI64_of_mem (by norm_num) (toI64_spinRow_mem (m := 65535) (by norm_num) y)) enabled

theorem getD_argIsSet (v : String) : (argIsSet (some v)).getD "" = v := by
  by_cases hv : v = ""
  · subst hv
    rfl
  · rw [argIsSet_some hv, Option.getD_some]

/-- **Every row reads back what it has written.** -/
theorem Kind.Regular.value_row {kind : Kind} {v : Option String} {r : Row} (hkind : kind.Regular)
    (h : kind.Edits v r) : (kind.row (argIsSet (some r.value))).value = r.value := by
  cases kind <;> cases r <;> try exact h.elim
  case contype.choice b =>
    have hne := selectedId_contype_ne h
    rw [Row.value, argIsSet_some hne]
    exact selectedId_comboRow_some (.inr hne)
  case choice.choice ids b =>
    exact (selectedId_comboRow hkind.1 _).trans (getD_argIsSet _)
  case text.text t => exact getD_argIsSet t
  case switch.switch on => cases on <;> decide
  case spin.spin max x =>
    obtain ⟨y, rfl⟩ := h
    exact congrArg intOrEmpty (spinInt_intOrEmpty hkind (toI64_spinRow_mem hkind y))
  case mssfix.mssfix enabled x =>
    obtain ⟨y, rfl⟩ := h
    exact mssfix_again enabled (toI64_spinRow_mem (m := 65535) (by norm_num) y)

/-! ## The rows of the editor -/

/-- A row of the editor: its key, the connection types that use it, and its kind. -/
structure Field where
  key : String
  used : ContypeFlags → Bool
  kind : Kind

/-- A row that all connection types use. -/
def Field.of (key : String) (kind : Kind) : Field := ⟨key, fun _ ↦ true, kind⟩

/-- The rows, in the order in which Apply writes them. -/
def fields : List Field :=
  [.of "connection-type" .contype, .of "remote" .text, .of "port" (.spin 65535),
    ⟨"ca", ContypeFlags.tlsLike, .text⟩, ⟨"cert", ContypeFlags.needsUserCert, .text⟩,
    ⟨"key", ContypeFlags.needsUserCert, .text⟩, ⟨"username", ContypeFlags.needsPassword, .text⟩,
    ⟨"static-key", ContypeFlags.isStaticKey, .text⟩,
    ⟨"static-key-direction", ContypeFlags.isStaticKey, .choice keyDirIds⟩,
    .of "nm-openvpn3-profile" .text, .of "dev" .text, .of "dev-type" (.choice devTypeIds),
    .of "proto-tcp" .switch, .of "tunnel-mtu" (.spin 65535), .of "mssfix" .mssfix,
    .of "fragment-size" (.spin 65535), .of "ping" (.spin timerSecsMax),
    .of "ping-restart" (.spin timerSecsMax), .of "reneg-seconds" (.spin timerSecsMax),
    .of "connect-timeout" (.spin timerSecsMax),
    .of "allow-compression" (.choice allowCompressionIds), .of "comp-lzo" (.choice compLzoIds),
    .of "compress" (.choice compressIds), .of "cipher" (.choice cipherIds),
    .of "data-ciphers" .text, .of "data-ciphers-fallback" (.choice cipherIds),
    .of "tls-cipher" .text, .of "auth" (.choice authAlgIds), .of "keysize" (.spin 65535),
    .of "tls-version-min" (.choice tlsVersionIds), .of "tls-version-min-or-highest" .switch,
    .of "tls-version-max" (.choice tlsVersionIds), .of "verify-x509-name" .text,
    .of "remote-cert-tls" (.choice remoteCertTlsIds), .of "ns-cert-type" (.choice nsCertTypeIds),
    .of "ta" .text, .of "ta-dir" (.choice keyDirIds), .of "tls-crypt" .text,
    .of "tls-crypt-v2" .text, .of "proxy-type" (.choice proxyTypeIds), .of "proxy-server" .text,
    .of "proxy-port" (.spin 65535), .of "http-proxy-username" .text,
    .of "override-route-nopull" .switch, .of "override-force-default-gateway" .switch,
    .of "override-block-ipv6" .switch, .of "override-dns-setup-disabled" .switch,
    .of "override-dco" .switch, .of "override-log-level" (.spin 6)]

/-- The rows as they stand. -/
def EditorState.rows (st : EditorState) : List Row :=
  [.choice st.contype, .text st.remote, .spin st.port, .text st.ca, .text st.cert, .text st.key,
    .text st.username, .text st.staticKey, .choice st.staticKeyDir, .text st.profilePath,
    .text st.dev, .choice st.devType, .switch st.protoTcp, .spin st.tunMtu,
    .mssfix st.mssfixEnabled st.mssfixBytes, .spin st.fragment, .spin st.keepalivePing,
    .spin st.keepaliveRestart, .spin st.renegSeconds, .spin st.connectTimeout,
    .choice st.allowCompression, .choice st.compLzo, .choice st.compress, .choice st.cipher,
    .text st.dataCiphers, .choice st.dataCiphersFallback, .text st.tlsCipher, .choice st.auth,
    .spin st.keysize, .choice st.tlsVersionMin, .switch st.tlsVersionMinOrHighest,
    .choice st.tlsVersionMax, .text st.verifyX509Name, .choice st.remoteCertTls,
    .choice st.nsCertType, .text st.ta, .choice st.taDir, .text st.tlsCrypt, .text st.tlsCryptV2,
    .choice st.proxyType, .text st.proxyServer, .spin st.proxyPort, .text st.proxyUser,
    .switch st.orRouteNopull, .switch st.orForceDefaultGateway, .switch st.orBlockIpv6,
    .switch st.orDnsSetupDisabled, .switch st.orDco, .spin st.orLogLevel]

/-- The item of a row. -/
def Field.item (flags : ContypeFlags) (f : Field) (r : Row) : String × String :=
  (f.key, cond (f.used flags) r.value)

theorem items_eq (st : EditorState) : st.items =
    List.zipWith (Field.item (ContypeFlags.fromId st.contype.selectedId)) fields st.rows := rfl

theorem rows_buildWidgetTree (initial : VpnData) :
    (buildWidgetTree initial).rows = fields.map fun f ↦ f.kind.row (initial f.key) := rfl

theorem regular_of_mem : ∀ f ∈ fields, f.kind.Regular := by decide

/-- The rows of an editor that was opened on a map, after any edits. -/
structure Edited (initial : VpnData) (st : EditorState) : Prop where
  rows : List.Forall₂ (fun f r ↦ Kind.Edits f.kind (initial f.key) r) fields st.rows
  initialData : st.initialData = initial

theorem mem_items_iff {st : EditorState} {p : String × String} : p ∈ st.items ↔
    ∃ f r, (f, r) ∈ fields.zip st.rows ∧
      p = Field.item (ContypeFlags.fromId st.contype.selectedId) f r := by
  rw [items_eq, ← List.map_uncurry_zip_eq_zipWith, List.mem_map]
  simp [Function.uncurry, eq_comm]

theorem map_eq_zipWith {α β γ : Type*} {g : α → γ} {h : α → β → γ} {l : List α} {l' : List β}
    (hl : List.Forall₂ (fun a b ↦ g a = h a b) l l') : l.map g = List.zipWith h l l' := by
  induction hl with
  | nil => rfl
  | cons hab _ ih => rw [List.map_cons, List.zipWith_cons_cons, hab, ih]

/-! ## What is set -/

section Items

variable {settings : VpnData} {items : List (String × String)}

theorem setItem_self (k : String) {v : String} (h : isCString v = true) :
    setItem settings k v k = argIsSet (some v) := by
  rw [setItem]
  by_cases hv : v = ""
  · rw [if_pos (.inl hv), hv]
    simp [Dict.remove, argIsSet, Option.filter]
  · rw [if_neg (by simp [hv, h]), Dict.insert_self, argIsSet_some hv]

/-- Each key is set once, and holds what it is set to. -/
theorem foldl_setItem_of_mem (hnd : (items.map Prod.fst).Nodup) {p : String × String}
    (hmem : p ∈ items) (hv : isCString p.2 = true) :
    items.foldl (fun d p ↦ setItem d p.1 p.2) settings p.1 = argIsSet (some p.2) := by
  induction items generalizing settings with
  | nil => cases hmem
  | cons q items ih =>
    rw [List.map_cons, List.nodup_cons] at hnd
    rw [List.foldl_cons]
    obtain rfl | hmem := List.mem_cons.mp hmem
    · rw [foldl_setItem_of_not_mem hnd.1]
      exact setItem_self _ hv
    · exact ih hnd.2 hmem

/-- A map that holds the items is not changed by setting them. -/
theorem foldl_setItem_eq_self {d : VpnData}
    (h : ∀ p ∈ items, isCString p.2 = true ∧ d p.1 = argIsSet (some p.2)) :
    items.foldl (fun d p ↦ setItem d p.1 p.2) d = d := by
  induction items with
  | nil => rfl
  | cons p items ih =>
    have hself : setItem d p.1 p.2 = d := by
      funext k
      by_cases hk : k = p.1
      · rw [hk, setItem_self _ (h p List.mem_cons_self).1, (h p List.mem_cons_self).2]
      · exact setItem_of_ne hk _
    rw [List.foldl_cons, hself]
    exact ih fun q hq ↦ h q (List.mem_cons_of_mem _ hq)

end Items

theorem comboRow_selected_lt {ids : List String} (hids : ids ≠ []) (v : Option String) :
    (comboRow ids v).selected < (comboRow ids v).ids.length := by
  have hpos : 0 < ids.length := List.length_pos_of_ne_nil hids
  cases v with
  | none => exact hpos
  | some w =>
    rw [comboRow]
    split
    · rename_i i hidx
      exact (List.idxOf?_eq_some_iff.mp hidx).1
    · split_ifs
      · exact hpos
      · simp

/-- A row that was not touched. -/
theorem Kind.edits_row {kind : Kind} (hkind : kind.Regular) {v : Option String}
    (hv : ∀ w, v = some w → isCString w = true) : kind.Edits v (kind.row v) := by
  cases kind with
  | contype => exact ⟨rfl, comboRow_selected_lt (by decide) _⟩
  | choice ids =>
    refine ⟨rfl, comboRow_selected_lt ?_ _⟩
    rintro rfl
    cases hkind.1
  | text =>
    cases v with
    | none => rfl
    | some w => exact hv w rfl
  | switch => trivial
  | spin max => exact ⟨_, rfl⟩
  | mssfix => exact ⟨_, rfl⟩

theorem edited_buildWidgetTree (s : DataItems) : Edited s.data (buildWidgetTree s.data) := by
  refine ⟨?_, rfl⟩
  rw [rows_buildWidgetTree, List.forall₂_map_right_iff, List.forall₂_same]
  exact fun f hf ↦ Kind.edits_row (regular_of_mem f hf) (s.cString f.key)

/-! ## Apply -/

/-- The check does not look at the rows that the connection type does not use. -/
theorem validateRequiredFields_cond (ct remote ca cert key username staticKey : String) :
    validateRequiredFields ct remote (cond (ContypeFlags.fromId ct).tlsLike ca)
        (cond (ContypeFlags.fromId ct).needsUserCert cert)
        (cond (ContypeFlags.fromId ct).needsUserCert key)
        (cond (ContypeFlags.fromId ct).needsPassword username)
        (cond (ContypeFlags.fromId ct).isStaticKey staticKey) =
      validateRequiredFields ct remote ca cert key username staticKey := by
  by_cases htls : ct = "tls"
  · subst htls
    rfl
  by_cases hpassword : ct = "password"
  · subst hpassword
    rfl
  by_cases hboth : ct = "password-tls"
  · subst hboth
    rfl
  by_cases hstatic : ct = "static-key"
  · subst hstatic
    rfl
  · simp [validateRequiredFields, htls, hpassword, hboth, hstatic]

section Apply

variable {s : DataItems} {st : EditorState} {settings d : VpnData}

/-- The items that Apply sets are C strings. -/
theorem isCString_item (hst : Edited s.data st) {p : String × String} (h : p ∈ st.items) :
    isCString p.2 = true := by
  obtain ⟨f, r, hmem, rfl⟩ := mem_items_iff.mp h
  have hrow := isCString_row (regular_of_mem f (List.of_mem_zip hmem).1) (s.cString f.key)
    (List.forall₂_zip hst.rows hmem)
  rw [Field.item, cond]
  split_ifs
  · exact hrow
  · rfl

theorem updateConnection_eq_ok (h : updateConnection st settings = .ok d) :
    validateRequiredFields st.contype.selectedId st.remote st.ca st.cert st.key st.username
        st.staticKey = none ∧
      d = st.items.foldl (fun d p ↦ setItem d p.1 p.2) (replay st.initialData settings) := by
  rw [updateConnection] at h
  split at h
  · cases h
  · exact ⟨‹_›, (Except.ok.inj h).symm⟩

/-- The map holds what the rows say. -/
def Holds (d : VpnData) (st : EditorState) : Prop :=
  ∀ p ∈ st.items, d p.1 = argIsSet (some p.2)

theorem Holds.lookup (hd : Holds d st) {k v : String} (h : st.items.lookup k = some v) :
    d k = argIsSet (some v) := by
  obtain ⟨l, l', hl, -⟩ := List.lookup_eq_some_iff.mp h
  exact hd (k, v) (hl ▸ List.mem_append_right _ List.mem_cons_self)

/-- An owned key holds what its row says. -/
theorem holds_of_updateConnection (hst : Edited s.data st)
    (h : updateConnection st settings = .ok d) : Holds d st := by
  intro p hp
  rw [(updateConnection_eq_ok h).2]
  exact foldl_setItem_of_mem (nodup_map_fst_items st) hp (isCString_item hst hp)

/-- A key that the editor does not own holds what the editor was opened with. -/
theorem updateConnection_of_not_mem (hst : Edited s.data st)
    (h : updateConnection st settings = .ok d) {k : String} (hk : k ∉ widgetDataKeys) :
    d k = if isCString k then (s.data k).or (settings k) else settings k := by
  rw [(updateConnection_eq_ok h).2,
    foldl_setItem_of_not_mem fun hmem ↦ hk ((map_fst_items_perm st).mem_iff.mp hmem),
    hst.initialData, replay]
  have hcontains : widgetDataKeys.contains k = false := by simpa using hk
  rw [hcontains, Bool.false_or]
  cases hkc : isCString k with
  | false => rfl
  | true =>
    cases hv : s.data k with
    | none => rfl
    | some v => simp [Option.filter, s.cString k v hv]

/-- The editor that is opened on the map has the same rows, as far as they are written. -/
theorem Holds.items_again (hd : Holds d st) (hst : Edited s.data st) :
    (buildWidgetTree d).items = st.items := by
  have hhead := (List.forall₂_cons.mp hst.rows).1
  have hct : (buildWidgetTree d).contype.selectedId = st.contype.selectedId := by
    have hregular : Kind.contype.Regular := trivial
    have hrow := hregular.value_row hhead
    rw [← hd ("connection-type", (Row.choice st.contype).value) List.mem_cons_self] at hrow
    exact hrow
  rw [items_eq, items_eq, hct, rows_buildWidgetTree, List.zipWith_map_right, List.zipWith_self]
  refine map_eq_zipWith ((List.forall₂_iff_zip.mpr ⟨hst.rows.length_eq, fun hmem ↦ ?_⟩))
  rename_i f r
  have hitem := hd _ (mem_items_iff.mpr ⟨f, r, hmem, rfl⟩)
  have hrow := (regular_of_mem f (List.of_mem_zip hmem).1).value_row
    (List.forall₂_zip hst.rows hmem)
  simp only [Field.item, cond] at hitem ⊢
  split_ifs at hitem ⊢ with hused
  · rw [hitem, hrow]
  · rfl

/-- The check reads the rows in the map. -/
theorem Holds.hasRequiredFields_iff (hd : Holds d st) : HasRequiredFields d ↔
    validateRequiredFields st.contype.selectedId st.remote st.ca st.cert st.key st.username
      st.staticKey = none := by
  have field {k v : String} (hlookup : st.items.lookup k = some v) : (d k).getD "" = v := by
    rw [hd.lookup hlookup, getD_argIsSet]
  simp only [HasRequiredFields]
  rw [field (k := "connection-type") rfl, field (k := "remote") rfl, field (k := "ca") rfl,
    field (k := "cert") rfl, field (k := "key") rfl, field (k := "username") rfl,
    field (k := "static-key") rfl, validateRequiredFields_cond]

/-- Opening the editor on the map and applying at once changes nothing. -/
theorem Holds.apply_again (hd : Holds d st) (hst : Edited s.data st) (hreq : HasRequiredFields d) :
    updateConnection (buildWidgetTree d) d = .ok d := by
  have hne := selectedId_contype_ne (List.forall₂_cons.mp hst.rows).1
  have hct : d "connection-type" = some st.contype.selectedId := by
    rw [hd.lookup (k := "connection-type") rfl, argIsSet_some hne]
  have hunedited : unedited d = d := by
    rw [unedited, hd.items_again hst]
    exact foldl_setItem_eq_self fun p hp ↦ ⟨isCString_item hst hp, hd p hp⟩
  have hok := applyUnedited_eq_ok hct hne hreq
  rw [hunedited] at hok
  exact hok

/-- **Apply is a write that is read back.** For any rows that edits may lead to: each owned key
holds what its row says, and any other key what the editor was opened with or, without that, what
the connection has. The result passes the check of the required fields, and opening the editor on it
and applying at once changes nothing. -/
theorem apply_edited (hst : Edited s.data st) (h : updateConnection st settings = .ok d) :
    (∀ p ∈ st.items, d p.1 = argIsSet (some p.2)) ∧
      (∀ k ∉ widgetDataKeys, isCString k = true → d k = (s.data k).or (settings k)) ∧
      HasRequiredFields d ∧ updateConnection (buildWidgetTree d) d = .ok d := by
  have hitem := holds_of_updateConnection hst h
  have hreq := hitem.hasRequiredFields_iff.mpr (updateConnection_eq_ok h).1
  refine ⟨hitem, fun k hk hkc ↦ ?_, hreq, hitem.apply_again hst hreq⟩
  rw [updateConnection_of_not_mem hst h hk, if_pos hkc]

end Apply

/-- A connection with a cipher that the editor does not know. -/
private def openedItems : DataItems := .ofList
  [("connection-type", "tls"), ("remote", "gw"), ("ca", "ca.pem"), ("cipher", "CAMELLIA-256-CBC"),
    ("float", "yes")] (by decide) (by decide)

/-- It is given a static key, and a port that the row does not hold. -/
private def editedRows : EditorState :=
  { buildWidgetTree openedItems.data with
    contype := ⟨contypes, 3⟩
    staticKey := "static.key"
    port := spinRow 0 65535 (.finite 70000) }

theorem apply_edited_staticKey : ∃ d, updateConnection editedRows openedItems.data = .ok d ∧
    d "ca" = none ∧ d "cipher" = some "CAMELLIA-256-CBC" ∧
      updateConnection (buildWidgetTree d) d = .ok d := by
  have hst : Edited openedItems.data editedRows := by
    have hrows := (edited_buildWidgetTree openedItems).rows
    refine ⟨?_, rfl⟩
    rw [fields, EditorState.rows] at hrows ⊢
    simp only [List.forall₂_cons] at hrows ⊢
    obtain ⟨-, hremote, -, hca, hcert, hkey, husername, -, hrest⟩ := hrows
    exact ⟨⟨rfl, by decide⟩, hremote, ⟨.finite 70000, rfl⟩, hca, hcert, hkey, husername,
      (by decide : isCString "static.key" = true), hrest⟩
  have hok : updateConnection editedRows openedItems.data =
      .ok (editedRows.items.foldl (fun d p ↦ setItem d p.1 p.2)
        (replay openedItems.data openedItems.data)) := rfl
  obtain ⟨hitem, -, -, hagain⟩ := apply_edited hst hok
  exact ⟨_, hok, hitem ("ca", "") (by decide), hitem ("cipher", "CAMELLIA-256-CBC") (by decide),
    hagain⟩

end Editor

end NmOpenvpn3
