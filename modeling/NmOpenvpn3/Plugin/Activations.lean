import NmOpenvpn3.Plugin.Steps
import Mathlib.Data.List.Count

/-!
# Activations

A `Connect` call and the background tasks that it spawns make up an activation. Its flags are its
own: a step of any other task leaves them alone, except for the request to disconnect.
-/

namespace NmOpenvpn3

namespace Plugin

open Rust Ovpn Service Concurrent

variable {env : Env} {w w' : World} {t t' : TaskId} {op : Op} {reply a : Answer} {i : ℕ}

/-! ## Tallies -/

/-- The number of events of a kind that the tasks of an activation have recorded. -/
def World.tally (w : World) (i : ℕ) (p : Event → Bool) : ℕ :=
  w.history.countP fun e ↦ e.1.activation == some i && p e.2

variable {p : Event → Bool}

theorem tally_of_history (hh : w'.history = w.history) : w'.tally i p = w.tally i p := by
  rw [World.tally, World.tally, hh]

@[simp] theorem tally_goto {pc : Pc t} : (w.goto t pc).tally i p = w.tally i p := rfl

theorem tally_succ {e : Event} (hh : w'.history = (t, e) :: w.history)
    (ht : t.activation = some i) (he : p e = true) : w'.tally i p = w.tally i p + 1 := by
  rw [World.tally, World.tally, hh, List.countP_cons_of_pos (by simp [ht, he])]

theorem tally_of_cons {e : Event} (hh : w'.history = (t, e) :: w.history)
    (hne : t.activation = some i → p e = false) : w'.tally i p = w.tally i p := by
  rw [World.tally, World.tally, hh, List.countP_cons_of_neg (by simpa using hne)]

/-- An operation that records no event of a kind, or does so for another activation, leaves the
tally as it is. -/
theorem exec_tally (h : exec t w op reply = some (a, w'))
    (hne : t.activation = some i → ∀ e, op.Records e → p e = false) :
    w'.tally i p = w.tally i p := by
  obtain hh | ⟨e, he, hh⟩ := exec_history h
  · exact tally_of_history hh
  · exact tally_of_cons hh fun ht ↦ hne ht e he

/-! ## Flags -/

theorem World.setFlags_of_ne {j : ℕ} {f : Flags → Flags} (hne : i ≠ j) :
    (w.setFlags j f).flags i = w.flags i := by
  simp [hne]

/-- An update of the flags that leaves one of them alone does so for every activation. -/
theorem World.setFlags_congr {α : Type} (field : Flags → α) {j : ℕ} {f : Flags → Flags}
    (hf : ∀ x, field (f x) = field x) : field ((w.setFlags j f).flags i) = field (w.flags i) := by
  by_cases hij : i = j
  · subst hij
    simp [hf]
  · rw [setFlags_of_ne hij]

theorem World.requestDisconnect_congr {α : Type} (field : Flags → α)
    (hf : ∀ x : Flags, field { x with disconnectRequested := true } = field x) :
    field (w.requestDisconnect.flags i) = field (w.flags i) := by
  rw [requestDisconnect_flags]
  split_ifs
  · exact hf _
  · rfl

/-- Only the two operations on the flag of an activation change it. -/
theorem exec_ip4Emitted (h : exec t w op reply = some (a, w')) (hclaim : op ≠ .claimIp4 i)
    (hclear : op ≠ .clearIp4 i) : (w'.flags i).ip4Emitted = (w.flags i).ip4Emitted := by
  unfold exec at h
  split at h <;> (try split_ifs at h) <;> cases h
  all_goals first
    | rfl
    | exact World.requestDisconnect_congr Flags.ip4Emitted fun _ ↦ rfl
    | simp only [World.note_flags, World.owe_flags]
  all_goals first
    | exact World.setFlags_congr Flags.ip4Emitted fun _ ↦ rfl
    | rw [World.setFlags_of_ne fun e ↦ hclear (congrArg Op.clearIp4 e.symm)]
    | rw [World.setFlags_of_ne fun e ↦ hclaim (congrArg Op.claimIp4 e.symm)]

/-- The failure flag is only ever set, and whoever sets it owes the signal. -/
theorem exec_failureEmitted (h : exec t w op reply = some (a, w')) (howed' : w'.owed t = none) :
    (w'.flags i).failureEmitted = (w.flags i).failureEmitted := by
  unfold exec at h
  split at h <;> (try split_ifs at h) <;> cases h
  all_goals first
    | rfl
    | exact World.requestDisconnect_congr Flags.failureEmitted fun _ ↦ rfl
    | (rw [World.note_flags]; exact World.setFlags_congr Flags.failureEmitted fun _ ↦ rfl)
    | simp at howed'

end Plugin

end NmOpenvpn3
