import NmOpenvpn3.Agreement.Profiles
import NmOpenvpn3.Service.Settings

/-!
# What Connect imports

Connect takes the path of a pinned profile from one reading of the settings, and what a profile is
made of from the other. `connect_settings` says that it makes no difference: where Connect gets as
far as that, the profile is that of a single map of data items. It also says on what settings it
does, and that a secret that is no text hides no other.
-/

namespace NmOpenvpn3

namespace Agreement

open Rust Ovpn Service Files

/-- Why Connect imports nothing. -/
inductive ConnectError where
  | settings (e : String)
  | profile (e : ProfileError)

/-- The profile, where the two readings of the data items are `data` and `items`. -/
def profileOf (data items : VpnData) (turns : List (Turn String)) :
    Option (Except ProfileError String) :=
  match data "nm-openvpn3-profile" with
  | some path => (readProfile path turns).map (·.mapError .unreadable)
  | none => some ((buildProfileString items).mapError .build)

/-- The name and the profile that `do_connect` hands to the backend. -/
def connectImport (settings : Settings) (turns : List (Turn String)) :
    Option (Except ConnectError (String × String)) :=
  match vpnData settings with
  | .error e => some (.error (.settings e))
  | .ok data => (profileOf data (splitVpn settings).1 turns).map fun r ↦
      (r.mapError .profile).map (configName data settings, ·)

theorem profileOf_self (data : VpnData) (turns : List (Turn String)) :
    profileOf data data turns = connectProfile data turns := by
  cases h : data "nm-openvpn3-profile" <;> simp only [profileOf, connectProfile, h]

/-- The data items are texts. -/
inductive Texts : SettingsValue → Prop where
  | stringDict (entries : List (String × String)) : Texts (.stringDict entries)
  | variantDict (entries : List (String × Option String)) (h : ∀ p ∈ entries, p.2 ≠ none) :
    Texts (.variantDict entries)

theorem stringStringDict_isOk_iff {raw : SettingsValue} :
    (∃ d, stringStringDict raw = .ok d) ↔ Texts raw := by
  constructor
  · rintro ⟨d, h⟩
    cases raw with
    | stringDict entries => exact .stringDict entries
    | variantDict entries => exact .variantDict entries (readStrings_eq_ok_iff.mp h).1
    | str _ | strs _ | other => cases h
  · rintro (⟨entries⟩ | ⟨entries, h⟩)
    · exact ⟨_, rfl⟩
    · exact ⟨_, readStrings_eq_ok_iff.mpr ⟨h, rfl⟩⟩

theorem vpnData_isOk_iff {settings : Settings} : (∃ d, vpnData settings = .ok d) ↔
    ∃ vpn raw, settings "vpn" = some vpn ∧ vpn "data" = some raw ∧ Texts raw := by
  rw [vpnData]
  cases hvpn : settings "vpn" with
  | none => simp
  | some vpn =>
    cases hdata : vpn "data" with
    | none => simp [hdata]
    | some raw => simp [hdata, stringStringDict_isOk_iff]

/-- **Connect sees one connection.** Where it imports a profile, the profile is that of a single map
of data items. It gets there exactly if all data items are texts, while of the secrets those that
are no texts are passed over, and no others. -/
theorem connect_settings (settings : Settings) (turns : List (Turn String)) :
    (∀ d, vpnData settings = .ok d → connectImport settings turns =
      (connectProfile d turns).map fun r ↦
        (r.mapError .profile).map (configName d settings, ·)) ∧
    ((∃ d, vpnData settings = .ok d) ↔
      ∃ vpn raw, settings "vpn" = some vpn ∧ vpn "data" = some raw ∧ Texts raw) ∧
    ∀ vpn entries, settings "vpn" = some vpn →
      vpn "secrets" = some (.variantDict entries) → (entries.map Prod.fst).Nodup →
        ∀ k v, (splitVpn settings).2 k = some v ↔ (k, some v) ∈ entries := by
  refine ⟨fun d hd ↦ ?_, vpnData_isOk_iff, fun vpn entries hvpn hsecrets hnd k v ↦ ?_⟩
  · rw [connectImport, hd]
    simp only [splitVpn_eq_of_vpnData hd, profileOf_self]
  · have hsplit : (splitVpn settings).2 = Dict.empty.setAll entries := by
      rw [splitVpn, hvpn]
      simp only [hsecrets, Option.bind_some, flattenStrMap, Option.getD_some]
    rw [hsplit, setAll_empty_eq_some_iff hnd]

/-- A password, and a secret that is no text. -/
private def mixedSettings : Settings := Dict.ofList [("vpn", Dict.ofList
  [("data", .variantDict [("remote", some "gw")]),
    ("secrets", .variantDict [("pin", none), ("password", some "s")])])]

theorem connect_settings_mixedSettings : ∃ d, vpnData mixedSettings = .ok d ∧
    connectImport mixedSettings [] = (connectProfile d []).map (fun r ↦
      (r.mapError .profile).map (configName d mixedSettings, ·)) ∧
      (splitVpn mixedSettings).2 "password" = some "s" := by
  obtain ⟨hprofile, hok, hsecrets⟩ := connect_settings mixedSettings []
  obtain ⟨d, hd⟩ := hok.mpr ⟨_, _, rfl, rfl, .variantDict [("remote", some "gw")] (by decide)⟩
  exact ⟨d, hd, hprofile d hd, (hsecrets _ _ rfl rfl (by decide) _ _).mpr (by decide)⟩

end Agreement

end NmOpenvpn3
