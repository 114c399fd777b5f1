import NmOpenvpn3.Agreement.Credentials
import NmOpenvpn3.AuthDialog.Details
import NmOpenvpn3.AuthDialog.Passphrase
import NmOpenvpn3.Editor.Session

/-!
# What the dialog asks for after an Apply

The editor shows a password row where the connection type uses it, and the dialog infers from the
connection what it has to ask for. The two decide in their own way; `asked_after_apply` says that
they agree on every connection that the editor leaves behind. A secret that was typed at the last
Apply is asked for even if the connection said that it is not required: Apply sets its flags anew.
-/

namespace NmOpenvpn3

namespace Agreement

open Rust Ovpn AuthDialog Editor

section Flags

variable {items : DataItems} {secrets : VpnData} {a : EditorState × Passwords}
  {hist : List (EditorState × Passwords)} {k : String}

theorem mem_flagged_iff : k ++ "-flags" ∈ flagged a ↔ ∃ v, typed k a = some v := by
  simp only [flagged, typed, List.mem_map, List.mem_filter, decide_eq_true_eq, argIsSet_eq_some]
  constructor
  · rintro ⟨p, ⟨hp, hne⟩, hk⟩
    have hkey : p.1 = k := by simpa [← String.toList_inj] using hk
    exact ⟨p.2, hkey ▸ lookup_of_mem (nodup_map_fst_secretItems a.1 a.2) hp, hne⟩
  · rintro ⟨v, hlookup, hne⟩
    obtain ⟨l, l', hl, -⟩ := List.lookup_eq_some_iff.mp hlookup
    exact ⟨(k, v), ⟨hl ▸ List.mem_append_right _ List.mem_cons_self, hne⟩, rfl⟩

/-- The flags that an Apply sets say that the secret is required. -/
theorem secretRequiredFlag_of_one {data : VpnData} (h : data (k ++ "-flags") = some "1") :
    secretRequiredFlag data k = true := by
  rw [secretRequiredFlag, h]
  decide

/-- Whether a secret is required after Applies. -/
theorem secretRequiredFlag_afterApplies (hk : k ++ "-flags" ∉ widgetDataKeys) :
    secretRequiredFlag (afterApplies items secrets (a :: hist)).data k = true ↔
      (∃ v, typed k a = some v) ∨ secretRequiredFlag items.data k = true := by
  rw [← mem_flagged_iff]
  by_cases ha : k ++ "-flags" ∈ flagged a
  · have hdata : (afterApplies items secrets (a :: hist)).data (k ++ "-flags") = some "1" := by
      simp only [afterApplies, hk, ha, if_true, if_false]
    exact iff_of_true (secretRequiredFlag_of_one hdata) (.inl ha)
  · have hdata : (afterApplies items secrets (a :: hist)).data (k ++ "-flags") =
        (items.data (k ++ "-flags")).or (everFlagged (a :: hist) (k ++ "-flags")) := by
      simp only [afterApplies, hk, ha, if_false]
    rw [or_iff_right ha]
    cases hitem : items.data (k ++ "-flags") with
    | some raw => simp only [secretRequiredFlag, hdata, hitem, Option.some_or]
    | none =>
      rw [hitem, Option.none_or, everFlagged] at hdata
      refine iff_of_true ?_ (by rw [secretRequiredFlag, hitem])
      split_ifs at hdata with hever
      · exact secretRequiredFlag_of_one hdata
      · rw [secretRequiredFlag, hdata]

end Flags

section Asked

variable {items : DataItems} {secrets : VpnData} {a : EditorState × Passwords}
  {hist : List (EditorState × Passwords)} {s : Session} {k : String}

/-- The connection type at the last Apply. -/
theorem connectionType_of_reaches (h : Editor.Reaches items secrets (a :: hist) s) :
    s.setting.data "connection-type" = some a.1.contype.selectedId := by
  have hst := (h.accepted List.mem_cons_self).1
  rw [h.holds.lookup (k := "connection-type") rfl,
    argIsSet_some (selectedId_contype_ne (List.forall₂_cons.mp hst.rows).1)]

/-- The private key at the last Apply, which is not blank where it is used. -/
theorem key_of_reaches (h : Editor.Reaches items secrets (a :: hist) s)
    (hused : a.1.used.certPass = true) : s.setting.data "key" = some a.1.key := by
  have hflag : (ContypeFlags.fromId a.1.contype.selectedId).needsUserCert = true := hused
  obtain ⟨-, hcert, -⟩ := validateRequiredFields_eq_none.mp (h.accepted List.mem_cons_self).2
  have hkey : s.setting.data "key" = argIsSet (some (cond
      (ContypeFlags.fromId a.1.contype.selectedId).needsUserCert a.1.key)) :=
    h.holds.lookup rfl
  rw [hkey, hflag, Editor.cond, if_pos rfl, argIsSet_some (hcert hflag).2.2]

/-- Whether a secret is required after a session. -/
theorem secretRequiredFlag_of_reaches (h : Editor.Reaches items secrets (a :: hist) s)
    (hk : k ++ "-flags" ∉ widgetDataKeys) :
    secretRequiredFlag s.setting.data k = true ↔
      (∃ v, typed k a = some v) ∨ secretRequiredFlag items.data k = true := by
  rw [h.setting_eq]
  exact secretRequiredFlag_afterApplies hk

/-- **The dialog asks for what the editor shows.** On a connection that the editor leaves behind,
the dialog asks for the password if its row was used at the last Apply, and for the passphrase of an
encrypted key if the row of the passphrase was; a secret that was typed at the last Apply counts as
required, whatever the connection said before. -/
theorem asked_after_apply (h : Editor.Reaches items secrets (a :: hist) s) (tr : String → String)
    (isEncrypted : String → Bool) {args : Args} (hhints : args.hints = [])
    (hallow : args.allowInteraction = true) {stdin out : String}
    (hstdin : (readVpnDetails stdin).1 = s.setting.data)
    (hrun : run tr isEncrypted args stdin = .ok out) :
    (Asks out "password" ↔ a.1.used.password = true ∧
      ((∃ v, typed "password" a = some v) ∨
        secretRequiredFlag items.data "password" = true)) ∧
    (Asks out "cert-pass" ↔ a.1.used.certPass = true ∧
      (isPkcs12Path a.1.key = true ∨ isEncrypted a.1.key = true)) ∧
    (Asks out "http-proxy-password" ↔ a.1.proxyServer ≠ "" ∧
      ((∃ v, typed "http-proxy-password" a = some v) ∨
        secretRequiredFlag items.data "http-proxy-password" = true)) ∧
    ¬Asks out "challenge-response" := by
  have hct := connectionType_of_reaches h
  have hasks {key : String} (hkey : key ∈ askableKeys) : Asks out key ↔
      (inferNeeded isEncrypted s.setting.data a.1.contype.selectedId).asks key = true := by
    rw [asks_run_iff tr hrun hkey, and_iff_left hallow, hhints, hstdin, needs, hct]
    rfl
  refine ⟨?_, ?_, ?_, ?_⟩
  · rw [hasks (by decide), ← secretRequiredFlag_of_reaches h (by decide)]
    simp [Needed.asks, inferNeeded, EditorState.used, ContypeFlags.fromId, or_comm]
  · rw [asks_run_iff tr hrun (by decide), and_iff_left hallow, hhints, hstdin, asks_certPass_iff]
    have hinspected : inspectedKey s.setting.data [] =
        if a.1.used.certPass = true then s.setting.data "key" else none := by
      rw [inspectedKey, hct]
      exact if_congr (by simp [EditorState.used, ContypeFlags.fromId]) rfl rfl
    by_cases hused : a.1.used.certPass = true
    · simp [hinspected, hused, key_of_reaches h hused]
    · simp [hinspected, hused]
  · have hproxy : s.setting.data "proxy-server" = argIsSet (some a.1.proxyServer) :=
      h.holds.lookup rfl
    have hproxypass : "http-proxy-password" ∈ askableKeys := by decide
    rw [hasks hproxypass, Needed.asks, if_neg (by decide), if_neg (by decide), if_pos rfl,
      ← secretRequiredFlag_of_reaches h (by decide)]
    simp only [inferNeeded, hproxy]
    by_cases hserver : a.1.proxyServer = ""
    · simp [hserver, argIsSet, Option.filter]
    · simp [hserver, argIsSet_some hserver]
  · rw [hasks (by decide)]
    exact Bool.false_ne_true

end Asked

/-! ### A password that was typed -/

/-- The items after the password was applied. -/
private def appliedItems : List (String × String) :=
  [("connection-type", "password"), ("remote", "gw"), ("username", "u"), ("password-flags", "1")]

private theorem data_passwordRows {s : Session}
    (h : Editor.Reaches passwordItems Dict.empty [passwordRows] s) :
    s.setting.data = Dict.ofList appliedItems := by
  rw [h.setting_eq]
  funext k
  by_cases hk : k ∈ widgetDataKeys
  · have hall : ∀ k ∈ widgetDataKeys,
        argIsSet (passwordRows.1.items.lookup k) = Dict.ofList appliedItems k := by decide
    simp only [afterApplies, hk, if_true, hall k hk]
  · have hne : ∀ k' ∈ ["connection-type", "remote", "username"], k ≠ k' := by
      rintro k' hk' rfl
      exact hk ((by decide : ∀ k' ∈ ["connection-type", "remote", "username"],
        k' ∈ widgetDataKeys) k hk')
    simp only [List.forall_mem_cons] at hne
    obtain ⟨htype, hremote, huser, -⟩ := hne
    have hflagged : flagged passwordRows = ["password-flags"] := by decide
    have hnone : passwordItems.data k = none := by
      simp [passwordItems, DataItems.ofList, Dict.ofList, Dict.insert_of_ne, htype, hremote, huser]
    by_cases hflags : k = "password-flags"
    · subst hflags
      rfl
    · simp [afterApplies, hk, hflagged, hflags, hnone, everFlagged, appliedItems, Dict.ofList,
        Dict.insert_of_ne, htype, hremote, huser]

private theorem written_appliedItems : Written (Dict.ofList appliedItems) appliedItems where
  lists := ⟨by decide, fun k v ↦ by
    refine (Dict.insertAll_of_nodup (by decide) Dict.empty k v).trans ?_
    simp⟩
  fits := by
    simp only [FitsLine]
    decide

theorem asked_after_apply_password : ∃ stdin out,
    run id (fun _ ↦ false) (dialogArgs "u" "n" []) stdin = .ok out ∧ Asks out "password" := by
  obtain ⟨s, h⟩ := exists_reaches_passwordRows
  have hsecrets : Written (Dict.empty : VpnData) [] := ⟨⟨by simp, by simp⟩, by simp⟩
  have hread : (readVpnDetails (String.ofList (documentedText appliedItems []))).1 =
      s.setting.data := by
    have hdetails := readVpnDetails_documented written_appliedItems hsecrets ""
    rw [String.append_empty] at hdetails
    rw [hdetails, data_passwordRows h]
  obtain ⟨out, hrun⟩ : ∃ out, run id (fun _ ↦ false) (dialogArgs "u" "n" [])
      (String.ofList (documentedText appliedItems [])) = .ok out :=
    exists_run id _ (by simp [dialogArgs]) (by simp [dialogArgs]) rfl rfl _
  exact ⟨_, out, hrun,
    (asked_after_apply h id _ rfl rfl hread hrun).1.mpr ⟨rfl, .inl ⟨"pw", rfl⟩⟩⟩

end Agreement

end NmOpenvpn3
