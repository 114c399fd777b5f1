import NmOpenvpn3.AuthDialog.Dialog
import NmOpenvpn3.Service.Secrets

/-!
# Agreement on credentials

Three components share one vocabulary of keys: the service maps each prompt of the backend to a key
and asks NetworkManager for it, the dialog turns the keys among its hints into questions, and
`new_secrets` looks the answers up. `supplied_iff` says which prompts can be answered in this way:
all but those for a user name, for which the dialog has no question and whose answers are looked up
among the data instead of the secrets.
-/

namespace NmOpenvpn3

namespace Agreement

open Rust Ovpn Service AuthDialog

/-! ## The keys of the slots -/

/-- A slot asks for a user name, the regular one or the one for a proxy. -/
def NamesUser (n : String) : Prop :=
  n = "username" ∨ (n ≠ "password" ∧ contains n "http_proxy_user" ∧
    ∀ pat ∈ ["challenge", "response", "private_key", "key_pass"], contains n pat = false)

/-- Slots for a user name are those with a key that is not a secret. -/
theorem namesUser_iff (slot : InputSlot) :
    NamesUser slot.name ↔
      slotToVpnKey slot = "username" ∨ slotToVpnKey slot = "http-proxy-username" := by
  simp only [NamesUser, slotToVpnKey, List.forall_mem_cons]
  split_ifs <;> grind

/-- Every key is for a user name or one the dialog can ask for. -/
theorem slotToVpnKey_mem (slot : InputSlot) :
    slotToVpnKey slot = "username" ∨ slotToVpnKey slot = "http-proxy-username" ∨
      slotToVpnKey slot ∈ askableKeys := by
  unfold slotToVpnKey
  simp only
  split_ifs <;> simp [askableKeys]

/-- The dialog can ask for the keys of all slots that are not for a user name. -/
theorem slotToVpnKey_mem_askableKeys {slot : InputSlot} (h : ¬NamesUser slot.name) :
    slotToVpnKey slot ∈ askableKeys := by
  rw [namesUser_iff, not_or] at h
  obtain hu | hp | hk := slotToVpnKey_mem slot
  · exact absurd hu h.1
  · exact absurd hp h.2
  · exact hk

/-! ## Prompts that can be answered -/

section Supplied

variable (tr : String → String) (isEncrypted : String → Bool)

/-- The command line with which NetworkManager starts the dialog for some hints. -/
def dialogArgs (uuid name : String) (hints : List String) : Args where
  uuid := some uuid
  name := some name
  service := some serviceType
  allowInteraction := true
  externalUiMode := true
  hints := hints

/-- A pending slot can be answered: on any connection the dialog asks for its key, and whatever
non-empty answer is returned under that key among the secrets is what the slot gets, whatever the
data, unless the connection is torn down meanwhile. -/
structure Supplied (pending : List InputSlot) (hints : List String) (slot : InputSlot) : Prop where
  asked : ∀ uuid name stdin, ∃ out,
    run tr isEncrypted (dialogArgs uuid name hints) stdin = .ok out ∧ Asks out (slotToVpnKey slot)
  provided : ∀ (step : ℕ → ProvideStep) (data : VpnData) (secrets : SecretsMap) (value : String),
    (∀ i, (step i).teardownBefore = false ∧ (step i).teardownAfter = false) →
      secrets (slotToVpnKey slot) = some value → value ≠ "" →
        (slot, value) ∈ (newSecrets step true data secrets pending).1

/-- No pending slot for a user name can be answered, as the dialog has no question for it. -/
theorem not_supplied {pending : List InputSlot} {hints : List String} {slot : InputSlot}
    (h : NamesUser slot.name) : ¬Supplied tr isEncrypted pending hints slot := by
  intro hs
  obtain ⟨out, hrun, hasks⟩ := hs.asked "" "" ""
  have hgroup := group_of_run tr isEncrypted hrun hasks
  obtain hkey | hkey := (namesUser_iff slot).mp h <;> rw [hkey] at hgroup <;>
    revert hgroup <;> decide

/-- Whatever the service asks for can be answered, unless it is a user name. -/
theorem supplied_iff {reply : ℕ → Option String} {owned : Bool} {slots pending : List InputSlot}
    {data : VpnData} {secrets : SecretsMap} {msg prompt : String} {hints : List String}
    (h : handleAttention reply owned slots data secrets msg =
      .secretsRequired pending prompt hints) :
    ∀ slot ∈ pending, (Supplied tr isEncrypted pending hints slot ↔ ¬NamesUser slot.name) := by
  intro slot hslot
  obtain ⟨hne, hhints⟩ := handleAttention_eq_secretsRequired h
  refine ⟨fun hs hn ↦ not_supplied tr isEncrypted hn hs, fun hn ↦ ⟨?_, ?_⟩⟩
  · intro uuid name stdin
    have hhint : slotToVpnKey slot ∈ hints :=
      hhints ▸ List.mem_append_right _ (List.mem_map_of_mem hslot)
    exact asks_run tr isEncrypted (by simp [dialogArgs]) (by simp [dialogArgs]) rfl rfl rfl
      (slotToVpnKey_mem_askableKeys hn) hhint stdin
  · intro step data' secrets' value hstep hvalue hempty
    obtain ⟨hu, hp⟩ := not_or.mp ((namesUser_iff slot).not.mp hn)
    rw [newSecrets, if_neg (by simpa using hne)]
    refine (mem_provideSecrets hstep).mpr ⟨hslot, ?_⟩
    rw [slotValue_eq_answer hu hp, hvalue]
    simpa using hempty

end Supplied

/-- A prompt of the backend for a password. -/
private def passwordSlot : InputSlot := ⟨1, 1, 0, "password", "Auth Password", true⟩

theorem supplied_iff_passwordSlot :
    Supplied id (fun _ ↦ false) [passwordSlot] ["password"] passwordSlot ↔
      ¬NamesUser passwordSlot.name :=
  supplied_iff id (fun _ ↦ false)
    (show handleAttention (fun _ ↦ none) true [passwordSlot] Dict.empty Dict.empty "" =
      .secretsRequired [passwordSlot] "OpenVPN 3 needs authentication" ["password"] from rfl)
    passwordSlot (List.mem_singleton_self _)

/-- A prompt of the backend for a user name. -/
private def usernameSlot : InputSlot := ⟨1, 1, 1, "username", "Auth Username", false⟩

/-- Without a stored user name the service asks for one in vain. -/
theorem not_supplied_usernameSlot :
    handleAttention (fun _ ↦ none) true [usernameSlot] Dict.empty Dict.empty "" =
        .secretsRequired [usernameSlot] "OpenVPN 3 needs authentication" ["username"] ∧
      ¬Supplied id (fun _ ↦ false) [usernameSlot] ["username"] usernameSlot :=
  ⟨rfl, not_supplied id _ (.inl rfl)⟩

end Agreement

end NmOpenvpn3
