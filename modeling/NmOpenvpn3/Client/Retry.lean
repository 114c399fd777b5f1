import NmOpenvpn3.Rust.Str
import Mathlib.Data.List.Count
import Mathlib.Data.List.Infix
import Mathlib.Data.Nat.Find

/-!
# Calls to auto-activated daemons

The configuration and sessions managers are started by the bus on first use, so that a first call
can fail before it reaches them. `with_activation_retry` tries again after such a failure, and after
no other: a lost reply may hide a call that has been executed. The run of the loop over an arbitrary
sequence of outcomes is determined by the first of them that settles it
(`attemptFrom_settled`, `attemptFrom_transient`); that the calls take effect at most once follows,
since all but the last have failed before they were dispatched.
-/

namespace NmOpenvpn3

namespace Client

open Rust

/-- `zbus::fdo::Error`, with the variants that the client and its tests tell apart. -/
inductive FdoError where
  | serviceUnknown (msg : String)
  | spawnChildExited (msg : String)
  | unknownObject (msg : String)
  | unknownMethod (msg : String)
  | noReply (msg : String)
  | timeout (msg : String)
  | disconnected (msg : String)
  | other (name msg : String)
  deriving DecidableEq, Repr

/-- The test on the projection of a bus error to the FDO errors. -/
def FdoError.isPreDispatch : FdoError → Bool
  | .serviceUnknown _ | .spawnChildExited _ | .unknownObject _ => true
  | .unknownMethod msg => decide ("Object does not exist at path".toList <:+: msg.toList)
  | _ => false

/-- What a run of the loop does, in order. -/
inductive Act where
  | call
  | sleep
  deriving DecidableEq, Repr

/-- How `with_activation_retry` fails: without a try, with the error of a call, or by the panic of
an `expect`. -/
inductive Failure (E : Type) where
  | nothingTried
  | call (e : E)
  | panicked
  deriving DecidableEq, Repr

section Loop

-- `fdo` is `fdo::Error::from`, by which the bus library projects its errors.
variable {E T : Type} (fdo : E → FdoError) (op : ℕ → Except E T) (attempts : ℕ)

/-- `is_pre_dispatch_transient`. -/
def isPreDispatchTransient (e : E) : Bool := (fdo e).isPreDispatch

/-- The loop from its `i`-th round on, with `left` rounds to go, where the `i`-th call of `op` ends
in the outcome `op i`. -/
def attemptFrom : ℕ → ℕ → Option E → List Act × Except (Failure E) T
  | 0, _, lastErr => ([], .error (lastErr.elim .panicked .call))
  | left + 1, i, _ =>
    match op i with
    | .ok t => ([.call], .ok t)
    | .error e =>
      if !isPreDispatchTransient fdo e then ([.call], .error (.call e))
      else
        let rest := attemptFrom left (i + 1) (some e)
        (.call :: if i + 1 < attempts then .sleep :: rest.1 else rest.1, rest.2)

/-- `with_activation_retry`. -/
def withActivationRetry : List Act × Except (Failure E) T :=
  if attempts = 0 then ([], .error .nothingTried) else attemptFrom fdo op attempts attempts 0 none

/-- The number of times that a run calls `op`. -/
def calls (run : List Act × Except (Failure E) T) : ℕ := run.1.count .call

/-- An outcome after which there is no further try. -/
def Settles : Except E T → Prop
  | .ok _ => True
  | .error e => isPreDispatchTransient fdo e = false

/-- The `k`-th outcome, counted from zero, is the first that settles the run. -/
def FirstSettled (k : ℕ) : Prop := Settles fdo (op k) ∧ ∀ i < k, ¬Settles fdo (op i)

/-- The outcome of a call as the caller gets it. -/
def report : Except E T → Except (Failure E) T
  | .ok t => .ok t
  | .error e => .error (.call e)

variable {fdo op attempts} {left i d k : ℕ} {lastErr : Option E}

theorem not_settles {o : Except E T} (h : ¬Settles fdo o) :
    ∃ e, o = .error e ∧ isPreDispatchTransient fdo e = true := by
  cases o with
  | ok t => exact absurd trivial h
  | error e => exact ⟨e, rfl, by simpa [Settles] using h⟩

/-- A round whose outcome settles the run. -/
theorem attemptFrom_of_settles (h : Settles fdo (op i)) :
    attemptFrom fdo op attempts (left + 1) i lastErr = ([.call], report (op i)) := by
  rw [attemptFrom]
  cases ho : op i with
  | ok t => rfl
  | error e =>
    rw [ho] at h
    simp [show isPreDispatchTransient fdo e = false from h, report]

variable (attempts left lastErr) in
/-- A round after which there is another try. -/
theorem attemptFrom_of_not_settles (h : ¬Settles fdo (op i)) :
    ∃ e, op i = .error e ∧
      calls (attemptFrom fdo op attempts (left + 1) i lastErr)
        = calls (attemptFrom fdo op attempts left (i + 1) (some e)) + 1 ∧
      (attemptFrom fdo op attempts (left + 1) i lastErr).2
        = (attemptFrom fdo op attempts left (i + 1) (some e)).2 := by
  obtain ⟨e, he, ht⟩ := not_settles h
  refine ⟨e, he, ?_, ?_⟩
  · rw [attemptFrom, he]
    by_cases hlt : i + 1 < attempts <;> simp [calls, ht, hlt]
  · rw [attemptFrom, he]
    simp [ht]

/-- The rounds up to the one that settles the run. -/
theorem attemptFrom_settled (hk : Settles fdo (op (i + d))) (hd : d < left)
    (hlt : ∀ j, i ≤ j → j < i + d → ¬Settles fdo (op j)) :
    calls (attemptFrom fdo op attempts left i lastErr) = d + 1 ∧
      (attemptFrom fdo op attempts left i lastErr).2 = report (op (i + d)) := by
  induction d generalizing left i lastErr with
  | zero =>
    obtain ⟨left, rfl⟩ : ∃ n, left = n + 1 := ⟨left - 1, by omega⟩
    rw [Nat.add_zero] at hk ⊢
    rw [attemptFrom_of_settles hk]
    exact ⟨rfl, rfl⟩
  | succ d ih =>
    obtain ⟨left, rfl⟩ : ∃ n, left = n + 1 := ⟨left - 1, by omega⟩
    obtain ⟨e, -, hcalls, hresult⟩ :=
      attemptFrom_of_not_settles attempts left lastErr (hlt i (le_refl i) (by omega))
    have hnext : i + 1 + d = i + (d + 1) := by omega
    have := @ih left (i + 1) (some e) (hnext ▸ hk) (by omega)
      fun j hj hjd ↦ hlt j (by omega) (by omega)
    rw [hcalls, hresult, this.1, this.2, hnext]
    exact ⟨rfl, rfl⟩

/-- Rounds of which none settles the run. -/
theorem attemptFrom_transient (hall : ∀ j, i ≤ j → j < i + left → ¬Settles fdo (op j)) :
    calls (attemptFrom fdo op attempts left i lastErr) = left ∧
      (0 < left → (attemptFrom fdo op attempts left i lastErr).2 = report (op (i + left - 1))) := by
  induction left generalizing i lastErr with
  | zero => exact ⟨rfl, fun h ↦ absurd h (lt_irrefl 0)⟩
  | succ left ih =>
    obtain ⟨e, he, hcalls, hresult⟩ :=
      attemptFrom_of_not_settles attempts left lastErr (hall i (le_refl i) (by omega))
    have hrest := @ih (i + 1) (some e) fun j hj hjl ↦ hall j (by omega) (by omega)
    refine ⟨by rw [hcalls, hrest.1], fun _ ↦ ?_⟩
    rw [hresult]
    cases left with
    | zero =>
      rw [Nat.add_sub_cancel, he]
      rfl
    | succ left =>
      rw [hrest.2 (Nat.succ_pos left)]
      congr 2
      omega

theorem withActivationRetry_zero :
    withActivationRetry (T := T) fdo op 0 = ([], .error .nothingTried) := rfl

/-- The calls are as many as there are attempts, or end with the one that settles the run. -/
theorem withActivationRetry_calls (hk : FirstSettled fdo op k) :
    calls (withActivationRetry fdo op attempts) = min attempts (k + 1) := by
  by_cases h0 : attempts = 0
  · simp [h0, withActivationRetry_zero, calls]
  rw [withActivationRetry, if_neg h0]
  by_cases hlt : k < attempts
  · rw [(attemptFrom_settled (by simpa using hk.1) hlt
      fun j _ hj ↦ hk.2 j (by omega)).1, Nat.min_eq_right hlt]
  · rw [(attemptFrom_transient fun j _ hj ↦ hk.2 j (by omega)).1, Nat.min_eq_left (by omega)]

/-- Among the outcomes that settle the run there is a first one. -/
theorem exists_firstSettled (h : Settles fdo (op i)) : ∃ k ≤ i, FirstSettled fdo op k := by
  classical
  have hex : ∃ k, Settles fdo (op k) := ⟨i, h⟩
  exact ⟨Nat.find hex, Nat.find_min' hex h, Nat.find_spec hex, fun _ hj ↦ Nat.find_min hex hj⟩

/-- Every call but the last has failed before it was dispatched. -/
theorem not_settles_of_lt_calls (h : i + 1 < calls (withActivationRetry fdo op attempts)) :
    ¬Settles fdo (op i) := by
  intro hs
  obtain ⟨k, hk, hfirst⟩ := exists_firstSettled hs
  rw [withActivationRetry_calls hfirst] at h
  omega

/-- The number of calls and the result, for every sequence of outcomes and every bound. Calls that
can only have taken effect when they settle the run have done so at most once. -/
theorem withActivationRetry_at_most_once (fdo : E → FdoError) (op : ℕ → Except E T)
    (attempts : ℕ) :
    (attempts = 0 → withActivationRetry fdo op attempts = ([], .error .nothingTried)) ∧
      (∀ k, FirstSettled fdo op k →
        calls (withActivationRetry fdo op attempts) = min attempts (k + 1) ∧
          (k + 1 ≤ attempts → (withActivationRetry fdo op attempts).2 = report (op k))) ∧
      ((∀ k, ¬FirstSettled fdo op k) →
        calls (withActivationRetry fdo op attempts) = attempts) ∧
      (0 < attempts → (∀ k < attempts, ¬FirstSettled fdo op k) →
        ∃ e, op (attempts - 1) = .error e ∧ isPreDispatchTransient fdo e = true ∧
          (withActivationRetry fdo op attempts).2 = .error (.call e)) ∧
      (∀ i, i + 1 < calls (withActivationRetry fdo op attempts) → ¬Settles fdo (op i)) ∧
      (∀ effect : ℕ → Prop, (∀ i, effect i → Settles fdo (op i)) →
        ∀ i j, i < calls (withActivationRetry fdo op attempts) →
          j < calls (withActivationRetry fdo op attempts) → effect i → effect j → i = j) := by
  -- Without a first outcome that settles the run there is none at all.
  have hnone (n : ℕ) (h : ∀ k < n, ¬FirstSettled fdo op k) : ∀ k < n, ¬Settles fdo (op k) := by
    intro k hk hs
    obtain ⟨j, hj, hfirst⟩ := exists_firstSettled hs
    exact h j (by omega) hfirst
  refine ⟨fun h ↦ h ▸ rfl, fun k hk ↦ ⟨withActivationRetry_calls hk, fun hle ↦ ?_⟩, fun h ↦ ?_,
    fun hpos h ↦ ?_, fun i hi ↦ not_settles_of_lt_calls hi, fun effect heff i j hi hj hei hej ↦ ?_⟩
  · rw [withActivationRetry, if_neg (by omega), (attemptFrom_settled (by simpa using hk.1)
      (by omega) fun j _ hj ↦ hk.2 j (by omega)).2, Nat.zero_add]
  · by_cases h0 : attempts = 0
    · simp [h0, withActivationRetry_zero, calls]
    · rw [withActivationRetry, if_neg h0]
      exact (attemptFrom_transient fun j _ hj ↦
        hnone attempts (fun k _ ↦ h k) j (by omega)).1
  · have hall := hnone attempts h
    obtain ⟨e, he, ht⟩ := not_settles (hall (attempts - 1) (by omega))
    refine ⟨e, he, ht, ?_⟩
    rw [withActivationRetry, if_neg (by omega),
      (attemptFrom_transient fun j _ hj ↦ hall j (by omega)).2 hpos, Nat.zero_add, he]
    rfl
  · -- A call that took effect is the last one.
    have hlast (n : ℕ) (hn : n < calls (withActivationRetry fdo op attempts)) (he : effect n) :
        ¬n + 1 < calls (withActivationRetry fdo op attempts) :=
      fun hlt ↦ not_settles_of_lt_calls hlt (heff n he)
    have := hlast i hi hei
    have := hlast j hj hej
    omega

end Loop

/-- A lost reply is not retried. -/
example : withActivationRetry id
    (fun _ ↦ (.error (.noReply "timeout") : Except FdoError Unit)) 3
      = ([.call], .error (.call (.noReply "timeout"))) := by
  decide

end Client

end NmOpenvpn3
