import NmOpenvpn3.Editor.Edited

/-!
# A session of the editor

From opening to closing, rows are edited in any order and Apply is pressed any number of times. Two
things depend on more than the rows of the moment.

Rows that the connection type does not use are hidden, by handlers that follow the choice of the
type. `applied_as_shown` says that Apply takes hidden rows for blank ones, so it writes what can be
seen. And the password rows start blank whatever is stored, so a blank one leaves the stored secret
alone. `session_setting` says what the connection holds after any number of Applies.
-/

namespace NmOpenvpn3

namespace Editor

open Rust Ovpn
open ImportExport (isCString)
open Agreement (validateRequiredFields)

/-! ## Rows that come and go -/

/-- The password rows. -/
structure Passwords where
  certPass : String
  password : String
  proxyPass : String

/-- Which of the rows that come and go are shown. -/
structure Visible where
  ca : Bool
  cert : Bool
  key : Bool
  certPass : Bool
  username : Bool
  password : Bool
  staticKey : Bool
  staticKeyDir : Bool
  mssfixBytes : Bool

/-- `apply_contype_visibility`. -/
def applyContypeVisibility (v : Visible) (contype : String) : Visible :=
  let flags := ContypeFlags.fromId contype
  { v with
    ca := flags.tlsLike
    cert := flags.needsUserCert
    key := flags.needsUserCert
    certPass := flags.needsUserCert
    username := flags.needsPassword
    password := flags.needsPassword
    staticKey := flags.isStaticKey
    staticKeyDir := flags.isStaticKey }

/-! ## Secrets -/

/-- What the editor sees of a VPN setting. The flags of a secret are a data item, under the key of
the secret with `-flags` behind it. -/
structure VpnSetting where
  data : VpnData
  secrets : VpnData

/-- Set a secret, which the agent of the user owns from then on. A blank row is passed over. -/
def setSecret (s : VpnSetting) (k v : String) : VpnSetting :=
  if v = "" then s
  else if isCString v then ⟨s.data.insert (k ++ "-flags") "1", s.secrets.insert k v⟩
  else { s with secrets := s.secrets.remove k }

/-- The secrets that Apply sets, key by key. -/
def secretItems (st : EditorState) (p : Passwords) : List (String × String) :=
  let flags := ContypeFlags.fromId st.contype.selectedId
  [("cert-pass", cond flags.needsUserCert p.certPass),
   ("password", cond flags.needsPassword p.password),
   ("http-proxy-password", p.proxyPass)]

/-- `iface_update_connection`, with the secrets. They are set between the items, but no item has
the key of their flags. -/
def updateSetting (st : EditorState) (p : Passwords) (s : VpnSetting) :
    Except String VpnSetting :=
  match updateConnection st s.data with
  | .error msg => .error msg
  | .ok data => .ok ((secretItems st p).foldl (fun s p ↦ setSecret s p.1 p.2) { s with data })

/-! ## Sessions -/

/-- An open editor and the connection that it edits. -/
structure Session where
  st : EditorState
  passwords : Passwords
  visible : Visible
  setting : VpnSetting

/-- `new_editor`. The password rows are blank, and rows are shown unless they are hidden. -/
def newEditor (setting : VpnSetting) : Session :=
  let st := buildWidgetTree setting.data
  { st
    passwords := ⟨"", "", ""⟩
    visible := applyContypeVisibility ⟨true, true, true, true, true, true, true, true,
      st.mssfixEnabled⟩ st.contype.selectedId
    setting }

/-- A connection type is chosen, which `wire_contype_visibility` has a handler for. -/
def Session.chooseContype (s : Session) (i : ℕ) : Session :=
  { s with
    st := { s.st with contype := { s.st.contype with selected := i } }
    visible := applyContypeVisibility s.visible ((s.st.contype.ids[i]?).getD "") }

/-- The `mssfix` switch is set, which `wire_mssfix_visibility` has a handler for. -/
def Session.switchMssfix (s : Session) (on : Bool) : Session :=
  { s with
    st := { s.st with mssfixEnabled := on }
    visible := { s.visible with mssfixBytes := on } }

/-- The toolkit keeps the text of an entry as a C string. -/
structure Passwords.CString (p : Passwords) : Prop where
  certPass : isCString p.certPass = true
  password : isCString p.password = true
  proxyPass : isCString p.proxyPass = true

/-- The sessions on a connection, with the rows at the accepted Applies, the latest first. An Apply
that is refused changes nothing. -/
inductive Reaches (items : DataItems) (secrets : VpnData) :
    List (EditorState × Passwords) → Session → Prop where
  | opened : Reaches items secrets [] (newEditor ⟨items.data, secrets⟩)
  | contype {hist : List (EditorState × Passwords)} {s : Session} (h : Reaches items secrets hist s)
    {i : ℕ} (hi : i < s.st.contype.ids.length) : Reaches items secrets hist (s.chooseContype i)
  | mssfix {hist : List (EditorState × Passwords)} {s : Session} (h : Reaches items secrets hist s)
    (on : Bool) : Reaches items secrets hist (s.switchMssfix on)
  | edit {hist : List (EditorState × Passwords)} {s : Session} (h : Reaches items secrets hist s)
    {st : EditorState} {p : Passwords} (hst : Edited items.data st)
    (hcontype : st.contype = s.st.contype) (hmssfix : st.mssfixEnabled = s.st.mssfixEnabled)
    (hp : p.CString) : Reaches items secrets hist { s with st, passwords := p }
  | apply {hist : List (EditorState × Passwords)} {s : Session} (h : Reaches items secrets hist s)
    {setting : VpnSetting} (hok : updateSetting s.st s.passwords s.setting = .ok setting) :
    Reaches items secrets ((s.st, s.passwords) :: hist) { s with setting }

/-! ### The rows of a session -/

/-- The rows that Apply uses, of those that come and go. -/
def EditorState.used (st : EditorState) : Visible :=
  let flags := ContypeFlags.fromId st.contype.selectedId
  { ca := flags.tlsLike
    cert := flags.needsUserCert
    key := flags.needsUserCert
    certPass := flags.needsUserCert
    username := flags.needsPassword
    password := flags.needsPassword
    staticKey := flags.isStaticKey
    staticKeyDir := flags.isStaticKey
    mssfixBytes := st.mssfixEnabled }

section Rows

variable {items : DataItems} {st : EditorState}

theorem Edited.chooseContype (h : Edited items.data st) {i : ℕ} (hi : i < st.contype.ids.length) :
    Edited items.data { st with contype := { st.contype with selected := i } } where
  rows := .cons ⟨(List.forall₂_cons.mp h.rows).1.1, hi⟩ (List.forall₂_cons.mp h.rows).2
  initialData := h.initialData

theorem Edited.switchMssfix (h : Edited items.data st) (on : Bool) :
    Edited items.data { st with mssfixEnabled := on } where
  rows := by
    have hrows := h.rows
    rw [fields, EditorState.rows] at hrows ⊢
    simp only [List.forall₂_cons] at hrows ⊢
    exact hrows
  initialData := h.initialData

end Rows

section Session

variable {items : DataItems} {secrets : VpnData} {hist : List (EditorState × Passwords)}
  {s : Session}

theorem Reaches.edited (h : Reaches items secrets hist s) : Edited items.data s.st := by
  induction h with
  | opened => exact edited_buildWidgetTree items
  | contype _ hi ih => exact ih.chooseContype hi
  | mssfix _ on ih => exact ih.switchMssfix on
  | edit _ hst => exact hst
  | apply _ _ ih => exact ih

theorem Reaches.cString (h : Reaches items secrets hist s) : s.passwords.CString := by
  induction h with
  | opened => exact ⟨rfl, rfl, rfl⟩
  | contype _ _ ih => exact ih
  | mssfix _ _ ih => exact ih
  | edit _ _ _ _ hp => exact hp
  | apply _ _ ih => exact ih

/-- **The rows that are shown are those that are used**, whatever was chosen in between. -/
theorem Reaches.visible_eq (h : Reaches items secrets hist s) : s.visible = s.st.used := by
  induction h with
  | opened => rfl
  | contype _ _ ih =>
    rw [Session.chooseContype, ih]
    rfl
  | mssfix _ _ ih =>
    rw [Session.switchMssfix, ih]
    rfl
  | edit _ _ hcontype hmssfix _ ih => rw [ih, EditorState.used, EditorState.used, hcontype, hmssfix]
  | apply _ _ ih => exact ih

end Session

/-! ## What can be seen -/

/-- The rows as they look: a hidden row like a blank one. -/
def Visible.screen (v : Visible) (st : EditorState) : EditorState :=
  { st with
    ca := cond v.ca st.ca
    cert := cond v.cert st.cert
    key := cond v.key st.key
    username := cond v.username st.username
    staticKey := cond v.staticKey st.staticKey
    staticKeyDir := bif v.staticKeyDir then st.staticKeyDir else ⟨keyDirIds, 0⟩
    mssfixBytes := bif v.mssfixBytes then st.mssfixBytes else .finite 0 }

/-- The password rows as they look. -/
def Visible.screenPasswords (v : Visible) (p : Passwords) : Passwords :=
  { p with
    certPass := cond v.certPass p.certPass
    password := cond v.password p.password }

@[simp] theorem cond_cond (b : Bool) (v : String) : cond b (cond b v) = cond b v := by
  cases b <;> rfl

@[simp] theorem cond_blank (b : Bool) : cond b "" = "" := by
  cases b <;> rfl

theorem mssfixValue_screen (on : Bool) (x : F64) :
    mssfixValue on (bif on then x else .finite 0).toI64 = mssfixValue on x.toI64 := by
  cases on <;> rfl

theorem cond_selectedId (b : Bool) (binding : ComboBinding) :
    cond b (bif b then binding else ⟨keyDirIds, 0⟩).selectedId = cond b binding.selectedId := by
  cases b <;> rfl

theorem items_screen (st : EditorState) : (st.used.screen st).items = st.items := by
  simp only [EditorState.items, Visible.screen, EditorState.used, cond_cond, mssfixValue_screen,
    cond_selectedId]

theorem secretItems_screen (st : EditorState) (p : Passwords) :
    secretItems (st.used.screen st) (st.used.screenPasswords p) = secretItems st p := by
  simp only [secretItems, Visible.screen, Visible.screenPasswords, EditorState.used, cond_cond]

/-- Hidden rows count as blank. -/
theorem updateSetting_screen (st : EditorState) (p : Passwords) (s : VpnSetting) :
    updateSetting (st.used.screen st) (st.used.screenPasswords p) s = updateSetting st p s := by
  have hvalid := validateRequiredFields_cond st.contype.selectedId st.remote st.ca st.cert st.key
    st.username st.staticKey
  have hupdate : updateConnection (st.used.screen st) s.data = updateConnection st s.data := by
    rw [updateConnection, updateConnection, items_screen, ← hvalid]
    rfl
  rw [updateSetting, updateSetting, hupdate, secretItems_screen]

/-- The check, in terms of what the connection type uses. -/
theorem validateRequiredFields_eq_none {ct remote ca cert key username staticKey : String} :
    validateRequiredFields ct remote ca cert key username staticKey = none ↔
      remote ≠ "" ∧
        ((ContypeFlags.fromId ct).needsUserCert = true → ca ≠ "" ∧ cert ≠ "" ∧ key ≠ "") ∧
        ((ContypeFlags.fromId ct).needsPassword = true → username ≠ "") ∧
        ((ContypeFlags.fromId ct).isStaticKey = true → staticKey ≠ "") := by
  simp only [validateRequiredFields, ContypeFlags.fromId, decide_eq_true_eq]
  split_ifs <;> grind

section Session

variable {items : DataItems} {secrets : VpnData} {hist : List (EditorState × Passwords)}
  {s : Session}

theorem updateSetting_isOk_iff (st : EditorState) (p : Passwords) (setting : VpnSetting) :
    (∃ r, updateSetting st p setting = .ok r) ↔
      validateRequiredFields st.contype.selectedId st.remote st.ca st.cert st.key st.username
        st.staticKey = none := by
  rw [updateSetting, updateConnection]
  cases validateRequiredFields st.contype.selectedId st.remote st.ca st.cert st.key st.username
    st.staticKey <;> simp

/-- **Apply takes what can be seen.** However the connection type was changed back and forth, hidden
rows count as blank, an Apply is refused only for a row that is shown and blank, and a choice that
is taken back leaves the editor as it was. -/
theorem applied_as_shown (h : Reaches items secrets hist s) :
    (∀ setting, updateSetting (s.visible.screen s.st) (s.visible.screenPasswords s.passwords)
      setting = updateSetting s.st s.passwords setting) ∧
    (∀ setting, (∃ r, updateSetting s.st s.passwords setting = .ok r) ↔
      s.st.remote ≠ "" ∧
        (s.visible.cert = true → s.st.ca ≠ "" ∧ s.st.cert ≠ "" ∧ s.st.key ≠ "") ∧
        (s.visible.username = true → s.st.username ≠ "") ∧
        (s.visible.staticKey = true → s.st.staticKey ≠ "")) ∧
    ∀ i, (s.chooseContype i).chooseContype s.st.contype.selected = s := by
  refine ⟨fun setting ↦ ?_, fun setting ↦ ?_, fun i ↦ ?_⟩
  · rw [h.visible_eq]
    exact updateSetting_screen _ _ _
  · rw [updateSetting_isOk_iff, validateRequiredFields_eq_none, h.visible_eq]
    rfl
  · have hvisible :
        s.visible = ((s.chooseContype i).chooseContype s.st.contype.selected).visible := by
      rw [Session.chooseContype, Session.chooseContype, h.visible_eq]
      rfl
    rw [Session.chooseContype, Session.chooseContype] at hvisible ⊢
    cases s
    simp only at hvisible ⊢
    rw [← hvisible]

end Session

/-! ## What is stored -/

theorem lookup_of_mem {α β : Type*} [DecidableEq α] {l : List (α × β)}
    (hnd : (l.map Prod.fst).Nodup) {p : α × β} (hp : p ∈ l) : l.lookup p.1 = some p.2 := by
  induction l with
  | nil => cases hp
  | cons q l ih =>
    rw [List.map_cons, List.nodup_cons] at hnd
    rw [List.lookup_cons]
    obtain rfl | hp := List.mem_cons.mp hp
    · rw [beq_self_eq_true]
    · have hne : p.1 ≠ q.1 := fun heq ↦ hnd.1 (heq ▸ List.mem_map_of_mem hp)
      rw [beq_eq_false_iff_ne.mpr hne]
      exact ih hnd.2 hp

/-- The secret that an Apply sets. -/
def typed (k : String) (a : EditorState × Passwords) : Option String :=
  argIsSet ((secretItems a.1 a.2).lookup k)

/-- The keys of the flags that an Apply sets. -/
def flagged (a : EditorState × Passwords) : List String :=
  ((secretItems a.1 a.2).filter (·.2 ≠ "")).map (·.1 ++ "-flags")

/-- The flags that any of the Applies has set. -/
def everFlagged (hist : List (EditorState × Passwords)) (k : String) : Option String :=
  if k ∈ hist.flatMap flagged then some "1" else none

/-- The connection after the accepted Applies on it: the rows of the last one, what the editor was
opened with, and the last text that was typed for each secret. -/
def afterApplies (items : DataItems) (secrets : VpnData) (hist : List (EditorState × Passwords)) :
    VpnSetting where
  data k :=
    match hist with
    | [] => items.data k
    | a :: _ =>
      if k ∈ widgetDataKeys then argIsSet (a.1.items.lookup k)
      else if k ∈ flagged a then some "1"
      else (items.data k).or (everFlagged hist k)
  secrets k := (hist.findSome? (typed k)).or (secrets k)

section Secrets

variable {l : List (String × String)}

theorem setSecret_of_cString {v : String} (h : isCString v = true) (s : VpnSetting) (k : String) :
    setSecret s k v =
      if v = "" then s else ⟨s.data.insert (k ++ "-flags") "1", s.secrets.insert k v⟩ := by
  rw [setSecret, if_pos h]

theorem secrets_foldl_setSecret (hnd : (l.map Prod.fst).Nodup)
    (hl : ∀ p ∈ l, isCString p.2 = true) (s : VpnSetting) (k : String) :
    (l.foldl (fun s p ↦ setSecret s p.1 p.2) s).secrets k =
      (argIsSet (l.lookup k)).or (s.secrets k) := by
  induction l generalizing s with
  | nil => rfl
  | cons p l ih =>
    rw [List.map_cons, List.nodup_cons] at hnd
    rw [List.forall_mem_cons] at hl
    rw [List.foldl_cons, ih hnd.2 hl.2, setSecret_of_cString hl.1, List.lookup_cons]
    by_cases hk : k = p.1
    · subst hk
      have hnone : l.lookup p.1 = none := by
        refine List.lookup_eq_none_iff.mpr fun q hq ↦ bne_iff_ne.mpr fun heq ↦ hnd.1 ?_
        rw [heq]
        exact List.mem_map_of_mem hq
      rw [hnone, beq_self_eq_true]
      split_ifs with hv
      · rw [hv]
        rfl
      · simp [argIsSet, Option.filter, hv]
    · rw [beq_eq_false_iff_ne.mpr hk]
      split_ifs
      · rfl
      · exact congrArg _ (Dict.insert_of_ne hk _ _)

theorem data_foldl_setSecret (hl : ∀ p ∈ l, isCString p.2 = true) (s : VpnSetting) (k : String) :
    (l.foldl (fun s p ↦ setSecret s p.1 p.2) s).data k =
      if k ∈ (l.filter (·.2 ≠ "")).map (·.1 ++ "-flags") then some "1" else s.data k := by
  induction l generalizing s with
  | nil => rfl
  | cons p l ih =>
    rw [List.forall_mem_cons] at hl
    rw [List.foldl_cons, ih hl.2, setSecret_of_cString hl.1]
    by_cases hv : p.2 = ""
    · rw [if_pos hv, List.filter_cons_of_neg (by simpa using hv)]
    · rw [if_neg hv, List.filter_cons_of_pos (by simpa using hv), List.map_cons]
      by_cases hk : k = p.1 ++ "-flags"
      · simp [hk]
      · exact if_congr (by simp [hk]) rfl (Dict.insert_of_ne hk _ _)

end Secrets

section Session

variable {items : DataItems} {secrets : VpnData} {hist : List (EditorState × Passwords)}
  {s : Session}

theorem isCString_secretItem {st : EditorState} {p : Passwords} (hp : p.CString)
    {q : String × String} (h : q ∈ secretItems st p) : isCString q.2 = true := by
  have hcond {v : String} (hv : isCString v = true) (b : Bool) : isCString (cond b v) = true := by
    cases b
    · rfl
    · exact hv
  simp only [secretItems, List.mem_cons, List.not_mem_nil, or_false] at h
  obtain rfl | rfl | rfl := h
  · exact hcond hp.certPass _
  · exact hcond hp.password _
  · exact hp.proxyPass

theorem nodup_map_fst_secretItems (st : EditorState) (p : Passwords) :
    ((secretItems st p).map Prod.fst).Nodup :=
  (by decide : ["cert-pass", "password", "http-proxy-password"].Nodup)

/-- The flags of a secret are no row of the editor. -/
theorem not_mem_flagged {k : String} (hk : k ∈ widgetDataKeys) (a : EditorState × Passwords) :
    k ∉ flagged a := by
  have hflags : ∀ k ∈ ["cert-pass-flags", "password-flags", "http-proxy-password-flags"],
      k ∉ widgetDataKeys := by decide
  intro h
  obtain ⟨q, hq, rfl⟩ := List.mem_map.mp h
  have hmem := List.mem_map_of_mem (f := fun q : String × String ↦ q.1 ++ "-flags")
    (List.mem_of_mem_filter hq)
  exact hflags _ hmem hk

theorem isCString_flagged {k : String} {a : EditorState × Passwords} (h : k ∈ flagged a) :
    isCString k = true := by
  obtain ⟨q, hq, rfl⟩ := List.mem_map.mp h
  have hmem := List.mem_map_of_mem (f := fun q : String × String ↦ q.1 ++ "-flags")
    (List.mem_of_mem_filter hq)
  exact (by decide : ∀ k ∈ ["cert-pass-flags", "password-flags", "http-proxy-password-flags"],
    isCString k = true) _ hmem

/-- The rows at an accepted Apply are rows of the editor, and have passed the check. -/
theorem Reaches.accepted (h : Reaches items secrets hist s) {a : EditorState × Passwords}
    (ha : a ∈ hist) : Edited items.data a.1 ∧ validateRequiredFields a.1.contype.selectedId
      a.1.remote a.1.ca a.1.cert a.1.key a.1.username a.1.staticKey = none := by
  induction h with
  | opened => cases ha
  | contype _ _ ih => exact ih ha
  | mssfix _ _ ih => exact ih ha
  | edit _ _ _ _ _ ih => exact ih ha
  | apply h hok ih =>
    obtain rfl | ha := List.mem_cons.mp ha
    · exact ⟨h.edited, (updateSetting_isOk_iff _ _ _).mp ⟨_, hok⟩⟩
    · exact ih ha

/-- What one accepted Apply does. -/
theorem updateSetting_eq_ok {st : EditorState} {p : Passwords} {setting r : VpnSetting}
    (hst : Edited items.data st) (hp : p.CString) (h : updateSetting st p setting = .ok r) :
    (∀ k, r.secrets k = (typed k (st, p)).or (setting.secrets k)) ∧
      (∀ k ∈ widgetDataKeys, r.data k = argIsSet (st.items.lookup k)) ∧
      ∀ k ∉ widgetDataKeys, r.data k =
        if k ∈ flagged (st, p) then some "1"
        else if isCString k then (items.data k).or (setting.data k) else setting.data k := by
  rw [updateSetting] at h
  cases hdata : updateConnection st setting.data with
  | error msg =>
    rw [hdata] at h
    cases h
  | ok data =>
    rw [hdata] at h
    obtain rfl := Except.ok.inj h
    have hcs : ∀ q ∈ secretItems st p, isCString q.2 = true := fun _ ↦ isCString_secretItem hp
    have hflags (k : String) : ((secretItems st p).foldl (fun s p ↦ setSecret s p.1 p.2)
        { setting with data }).data k = if k ∈ flagged (st, p) then some "1" else data k :=
      data_foldl_setSecret hcs _ k
    refine ⟨fun k ↦ ?_, fun k hk ↦ ?_, fun k hk ↦ ?_⟩
    · exact secrets_foldl_setSecret (nodup_map_fst_secretItems st p) hcs _ k
    · rw [hflags, if_neg (not_mem_flagged hk (st, p))]
      obtain ⟨q, hq, rfl⟩ := List.mem_map.mp ((map_fst_items_perm st).mem_iff.mpr hk)
      rw [lookup_of_mem (nodup_map_fst_items st) hq]
      exact holds_of_updateConnection hst hdata q hq
    · rw [hflags, updateConnection_of_not_mem hst hdata hk]

theorem everFlagged_cons {k : String} {a : EditorState × Passwords} (h : k ∉ flagged a)
    (hist : List (EditorState × Passwords)) : everFlagged (a :: hist) k = everFlagged hist k :=
  if_congr (by simp [h]) rfl rfl

theorem everFlagged_of_not_cString {k : String} (h : isCString k ≠ true)
    (hist : List (EditorState × Passwords)) : everFlagged hist k = none := by
  refine if_neg fun hk ↦ ?_
  obtain ⟨a, -, ha⟩ := List.mem_flatMap.mp hk
  exact h (isCString_flagged ha)

/-- An item that the editor does not own, and is asked to set again. -/
theorem or_afterApplies {k : String} (hk : k ∉ widgetDataKeys) :
    (items.data k).or ((afterApplies items secrets hist).data k) =
      (items.data k).or (everFlagged hist k) := by
  cases hist with
  | nil => simp [afterApplies, everFlagged]
  | cons a hist =>
    simp only [afterApplies, hk, if_false]
    by_cases ha : k ∈ flagged a
    · simp [ha, everFlagged]
    · simp [ha, ← Option.or_assoc, everFlagged]

/-- A key that is no C string is never set. -/
theorem afterApplies_of_not_cString {k : String} (hk : k ∉ widgetDataKeys)
    (h : isCString k ≠ true) : (afterApplies items secrets hist).data k = items.data k := by
  cases hist with
  | nil => rfl
  | cons a hist =>
    simp only [afterApplies, hk, if_false]
    rw [if_neg fun ha ↦ h (isCString_flagged ha), everFlagged_of_not_cString h, Option.or_none]

theorem Reaches.setting_eq (h : Reaches items secrets hist s) :
    s.setting = afterApplies items secrets hist := by
  induction h with
  | opened => rfl
  | contype _ _ ih => exact ih
  | mssfix _ _ ih => exact ih
  | edit _ _ _ _ _ ih => exact ih
  | @apply hist s h setting hok ih =>
    obtain ⟨hsecrets, hwidget, hother⟩ := updateSetting_eq_ok h.edited h.cString hok
    have hdata : setting.data =
        (afterApplies items secrets ((s.st, s.passwords) :: hist)).data := by
      funext k
      by_cases hk : k ∈ widgetDataKeys
      · simp only [hwidget k hk, afterApplies, hk, if_true]
      · rw [hother k hk, ih, or_afterApplies hk]
        by_cases hkc : isCString k = true
        · simp only [hkc, afterApplies, hk, if_true, if_false]
          split_ifs with hflag
          · rfl
          · rw [everFlagged_cons hflag]
        · rw [afterApplies_of_not_cString hk hkc, afterApplies_of_not_cString hk hkc,
            if_neg fun ha ↦ hkc (isCString_flagged ha), if_neg hkc]
    have hstored : setting.secrets =
        (afterApplies items secrets ((s.st, s.passwords) :: hist)).secrets := by
      funext k
      rw [hsecrets, ih, afterApplies]
      simp only [afterApplies, List.findSome?_cons]
      cases typed k (s.st, s.passwords) <;> simp
    cases setting
    simp only at hdata hstored ⊢
    rw [hdata, hstored]

/-- The rows of the editor hold what they said at the last Apply. -/
theorem Reaches.holds {a : EditorState × Passwords} (h : Reaches items secrets (a :: hist) s) :
    Holds s.setting.data a.1 := by
  intro p hp
  have hk : p.1 ∈ widgetDataKeys :=
    (map_fst_items_perm a.1).mem_iff.mp (List.mem_map_of_mem hp)
  rw [h.setting_eq]
  simp only [afterApplies, hk, if_true, lookup_of_mem (nodup_map_fst_items a.1) hp]

/-- **The connection is a function of the accepted Applies.** Whatever else happened in between, the
rows of the editor hold what they said at the last Apply, other items what the editor was opened
with, and a secret is the last one that was typed in a row that was used. Opening the editor again
and applying at once changes nothing, no secret either, though all password rows are blank. -/
theorem session_setting (h : Reaches items secrets hist s) :
    s.setting = afterApplies items secrets hist ∧ (hist ≠ [] →
      updateSetting (newEditor s.setting).st (newEditor s.setting).passwords s.setting =
        .ok s.setting) := by
  refine ⟨h.setting_eq, fun hne ↦ ?_⟩
  obtain ⟨a, rest, rfl⟩ := List.exists_cons_of_ne_nil hne
  obtain ⟨hst, hvalid⟩ := h.accepted List.mem_cons_self
  have hagain := h.holds.apply_again hst (h.holds.hasRequiredFields_iff.mpr hvalid)
  have hblank : secretItems (newEditor s.setting).st (newEditor s.setting).passwords =
      [("cert-pass", ""), ("password", ""), ("http-proxy-password", "")] := by
    simp [secretItems, newEditor]
  rw [updateSetting, newEditor, hagain, ← newEditor, hblank]
  rfl

end Session

/-- A connection with a password. -/
def passwordItems : DataItems := .ofList
  [("connection-type", "password"), ("remote", "gw"), ("username", "u")] (by decide) (by decide)

/-- The rows of an editor on it, with the password typed. -/
def passwordRows : EditorState × Passwords :=
  (buildWidgetTree passwordItems.data, ⟨"", "pw", ""⟩)

private theorem reaches_typed : Reaches passwordItems Dict.empty []
    { newEditor ⟨passwordItems.data, Dict.empty⟩ with passwords := passwordRows.2 } :=
  .edit .opened (edited_buildWidgetTree passwordItems) rfl rfl ⟨rfl, by decide, rfl⟩

/-- The password is applied. -/
theorem exists_reaches_passwordRows :
    ∃ s, Reaches passwordItems Dict.empty [passwordRows] s := by
  obtain ⟨setting, hok⟩ := (updateSetting_isOk_iff passwordRows.1 passwordRows.2
    ⟨passwordItems.data, Dict.empty⟩).mpr (by decide)
  exact ⟨_, reaches_typed.apply hok⟩

/-- With another type, the certificate is asked for. -/
theorem applied_as_shown_tls : ∃ s, Reaches passwordItems Dict.empty [] s ∧
    s.visible.cert = true ∧ ¬∃ r, updateSetting s.st s.passwords s.setting = .ok r := by
  have h := reaches_typed.contype (i := 0) (by decide)
  refine ⟨_, h, rfl, fun hok ↦ ?_⟩
  obtain ⟨-, hcert, -⟩ := ((applied_as_shown h).2.1 _).mp hok
  exact (hcert rfl).1 rfl

theorem session_setting_typed : ∃ s, Reaches passwordItems Dict.empty [passwordRows] s ∧
    s.setting.secrets "password" = some "pw" ∧ s.setting.data "password-flags" = some "1" := by
  obtain ⟨s, h⟩ := exists_reaches_passwordRows
  refine ⟨s, h, ?_, ?_⟩
  · rw [(session_setting h).1]
    rfl
  · rw [(session_setting h).1]
    rfl

end Editor

end NmOpenvpn3
