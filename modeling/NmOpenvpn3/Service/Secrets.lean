import NmOpenvpn3.Ovpn.VpnData
import Mathlib.Data.List.Infix

/-!
# Credential prompts of the service

The backend queues its credential prompts as input slots with free-form names. The service maps each
slot to the key under which NetworkManager keeps the value, provides what it already has, and asks
NetworkManager for the rest; `new_secrets` then looks the answers up.
-/

namespace NmOpenvpn3

namespace Service

open Rust Ovpn

/-- One queued prompt of the backend. -/
structure InputSlot where
  type : UInt32
  group : UInt32
  id : UInt32
  name : String
  description : String
  maskInput : Bool
  deriving DecidableEq

/-- `str::contains`. -/
def contains (s pat : String) : Bool := decide (pat.toList <:+: s.toList)

/-- The key for a slot, by its name. Unknown names fall back to the password. -/
def slotToVpnKey (slot : InputSlot) : String :=
  let n := slot.name
  if n = "username" then "username"
  else if n = "password" then "password"
  else if contains n "challenge" || contains n "response" then "challenge-response"
  else if contains n "private_key" || contains n "key_pass" then "cert-pass"
  else if contains n "http_proxy_user" then "http-proxy-username"
  else if contains n "http_proxy_pass" then "http-proxy-password"
  else "password"

/-- A `vpn.secrets` map. -/
abbrev SecretsMap := Dict String String

/-- The value of a key: user names are looked up in `vpn.data`, everything else in
`vpn.secrets`. -/
def lookupValue (vkey : String) (data : VpnData) (secrets : SecretsMap) : Option String :=
  if vkey = "username" ∨ vkey = "http-proxy-username" then data vkey else secrets vkey

/-- The value to provide for a slot, unless it is missing or empty. -/
def slotValue (data : VpnData) (secrets : SecretsMap) (slot : InputSlot) : Option String :=
  (lookupValue (slotToVpnKey slot) data secrets).filter (· ≠ "")

/-! ## `handle_attention` -/

/-- What one firing of `AttentionRequired` comes to. -/
inductive Attention where
  | idle
  | failed (error : String)
  | secretsRequired (pending : List InputSlot) (prompt : String) (hints : List String)
  deriving DecidableEq

/-- The loop over the slots, where `reply i` is the error of the `i`-th `ProvideInput`, if it fails.
What is left over are the slots without a value. -/
def provideKnown (reply : ℕ → Option String) (data : VpnData) (secrets : SecretsMap) :
    ℕ → List InputSlot → Except String (List InputSlot)
  | _, [] => .ok []
  | i, slot :: slots =>
    match slotValue data secrets slot with
    | some _ =>
      match reply i with
      | none => provideKnown reply data secrets (i + 1) slots
      | some e =>
        .error ("ProvideInput(" ++ slot.name ++ ") failed with a persisted credential: " ++ e)
    | none => (slot :: ·) <$> provideKnown reply data secrets i slots

/-- The text of a request. -/
def requestPrompt (msg : String) : String :=
  if msg = "" then "OpenVPN 3 needs authentication" else msg

/-- The hints of a request, in the order that the dialog expects: the message first. -/
def requestHints (msg : String) (pending : List InputSlot) : List String :=
  (if msg = "" then [] else ["x-vpn-message:" ++ msg]) ++ pending.map slotToVpnKey

/-- `handle_attention`, after the fetch of the slots: `owned` says whether the session is still the
plugin's. -/
def handleAttention (reply : ℕ → Option String) (owned : Bool) (slots : List InputSlot)
    (data : VpnData) (secrets : SecretsMap) (msg : String) : Attention :=
  if slots.isEmpty || !owned then .idle
  else
    match provideKnown reply data secrets 0 slots with
    | .error e => .failed e
    | .ok [] => .idle
    | .ok pending =>
      .secretsRequired pending (requestPrompt msg) (requestHints msg pending)

/-- A request is for at least one slot, and its hints are made from the pending slots. -/
theorem handleAttention_eq_secretsRequired {reply : ℕ → Option String} {owned : Bool}
    {slots pending : List InputSlot} {data : VpnData} {secrets : SecretsMap} {msg prompt : String}
    {hints : List String}
    (h : handleAttention reply owned slots data secrets msg =
      .secretsRequired pending prompt hints) :
    pending ≠ [] ∧ hints = requestHints msg pending := by
  rw [handleAttention] at h
  by_cases hidle : (slots.isEmpty || !owned) = true
  · simp [hidle] at h
  · rw [if_neg hidle] at h
    cases hp : provideKnown reply data secrets 0 slots with
    | error e => simp [hp] at h
    | ok l =>
      cases l with
      | nil => simp [hp] at h
      | cons slot l =>
        simp only [hp, Attention.secretsRequired.injEq] at h
        obtain ⟨rfl, -, rfl⟩ := h
        exact ⟨List.cons_ne_nil _ _, rfl⟩

/-! ## `new_secrets` -/

/-- How one `ProvideInput` of `new_secrets` goes: whether a teardown was requested before it and
after it, and whether it succeeds. -/
structure ProvideStep where
  teardownBefore : Bool
  teardownAfter : Bool
  ok : Bool

/-- The loop over the pending slots: the values that were provided, and the number of slots that
could not be served, or nothing when a teardown ends the loop. -/
def provideSecrets (step : ℕ → ProvideStep) (data : VpnData) (secrets : SecretsMap) :
    ℕ → List InputSlot → List (InputSlot × String) × Option ℕ
  | _, [] => ([], some 0)
  | i, slot :: slots =>
    if (step i).teardownBefore then ([], none)
    else
      let (calls, missing) := provideSecrets step data secrets (i + 1) slots
      match slotValue data secrets slot with
      | some value =>
        if (step i).ok then ((slot, value) :: calls, missing)
        else if (step i).teardownAfter then ([(slot, value)], none)
        else ((slot, value) :: calls, missing.map (· + 1))
      | none => (calls, missing.map (· + 1))

/-- `new_secrets`: the values that are provided, and the reply to NetworkManager. Without a session
there is nothing to do. -/
def newSecrets (step : ℕ → ProvideStep) (hasSession : Bool) (data : VpnData) (secrets : SecretsMap)
    (pending : List InputSlot) : List (InputSlot × String) × Except String Unit :=
  if pending.isEmpty || !hasSession then ([], .ok ())
  else
    let (calls, missing) := provideSecrets step data secrets 0 pending
    (calls, match missing with
      | some (n + 1) =>
        .error ("could not provide " ++ toString (n + 1) ++ " authentication slot(s)")
      | _ => .ok ())

/-- Where no teardown is requested, every slot that has a value gets it. -/
theorem mem_provideSecrets {step : ℕ → ProvideStep}
    (hstep : ∀ i, (step i).teardownBefore = false ∧ (step i).teardownAfter = false)
    {data : VpnData} {secrets : SecretsMap} {i : ℕ} {pending : List InputSlot} {slot : InputSlot}
    {value : String} : (slot, value) ∈ (provideSecrets step data secrets i pending).1 ↔
      slot ∈ pending ∧ slotValue data secrets slot = some value := by
  induction pending generalizing i with
  | nil => simp [provideSecrets]
  | cons slot' pending ih =>
    rw [provideSecrets, if_neg (by simp [hstep i])]
    cases hv : slotValue data secrets slot' with
    | none =>
      simp only [ih, List.mem_cons]
      constructor
      · exact fun h ↦ ⟨.inr h.1, h.2⟩
      · rintro ⟨rfl | hm, h⟩
        · rw [hv] at h
          cases h
        · exact ⟨hm, h⟩
    | some value' =>
      -- Whether the backend takes the value or not, the loop goes on.
      have hcalls : ∀ missing, (if (step i).ok = true then
          ((slot', value') :: (provideSecrets step data secrets (i + 1) pending).1, missing)
        else if (step i).teardownAfter = true then ([(slot', value')], none)
        else ((slot', value') :: (provideSecrets step data secrets (i + 1) pending).1,
          missing.map (· + 1))).1 =
            (slot', value') :: (provideSecrets step data secrets (i + 1) pending).1 := by
        intro missing
        by_cases hok : (step i).ok = true
        · simp [hok]
        · simp [hok, (hstep i).2]
      simp only
      rw [hcalls, List.mem_cons, ih, List.mem_cons, Prod.mk.injEq]
      constructor
      · rintro (⟨rfl, rfl⟩ | h)
        · exact ⟨.inl rfl, hv⟩
        · exact ⟨.inr h.1, h.2⟩
      · rintro ⟨rfl | hm, h⟩
        · exact .inl ⟨rfl, (Option.some_inj.mp (hv.symm.trans h)).symm⟩
        · exact .inr ⟨hm, h⟩

/-- The answer for a slot is found under its key, unless the slot asks for a user name. -/
theorem slotValue_eq_answer {slot : InputSlot} (h1 : slotToVpnKey slot ≠ "username")
    (h2 : slotToVpnKey slot ≠ "http-proxy-username") (data : VpnData) (secrets : SecretsMap) :
    slotValue data secrets slot = (secrets (slotToVpnKey slot)).filter (· ≠ "") := by
  rw [slotValue, lookupValue, if_neg (not_or.mpr ⟨h1, h2⟩)]

end Service

end NmOpenvpn3
