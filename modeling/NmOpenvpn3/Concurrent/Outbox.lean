import Mathlib.Data.List.Basic
import Mathlib.Logic.Function.Basic

/-!
# Outboxes

Workers update a value and send each update on afterwards, in a step of its own. In between they owe
the update. If none makes an update while another owes one, at most one update is owed at a time.
So the updates are sent in the order in which they were made (`Sound`), and nothing is missing once
nothing is owed.
-/

namespace NmOpenvpn3

namespace Concurrent

/-- The updates that workers have made, what they have sent and what they owe. -/
structure Outbox (τ ν : Type*) where
  updates : List (τ × ν)
  sent : List ν
  owes : τ → Option ν

namespace Outbox

variable {τ ν : Type*} {o o' : Outbox τ ν} {t : τ} {v : ν}

/-- The updates that have not been sent, if they are sent in their order. -/
def unsent (o : Outbox τ ν) : List (τ × ν) := o.updates.drop o.sent.length

/-- Updates are sent in their order, and each worker owes the one that it has yet to send. There is
at most one such update. -/
structure Sound (o : Outbox τ ν) : Prop where
  inOrder : o.updates.map Prod.snd = o.sent ++ o.unsent.map Prod.snd
  length_unsent : o.unsent.length ≤ 1
  owes : ∀ t v, (t, v) ∈ o.unsent ↔ o.owes t = some v

theorem Sound.length_le (h : o.Sound) : o.sent.length ≤ o.updates.length := by
  have := congrArg List.length h.inOrder
  simp only [List.length_map, List.length_append] at this
  omega

theorem Sound.unsent_eq_nil (h : o.Sound) (hnone : ∀ t, o.owes t = none) : o.unsent = [] := by
  rw [List.eq_nil_iff_forall_not_mem]
  rintro ⟨t, v⟩ hmem
  have := (h.owes t v).mp hmem
  rw [hnone t] at this
  cases this

/-- What a worker owes is all that has not been sent. -/
theorem Sound.unsent_eq_singleton (h : o.Sound) (howes : o.owes t = some v) :
    o.unsent = [(t, v)] := by
  have hmem := (h.owes t v).mpr howes
  obtain ⟨p, hp⟩ := List.length_eq_one_iff.mp
    (Nat.le_antisymm h.length_unsent (List.length_pos_of_mem hmem))
  rw [hp, List.mem_singleton] at hmem
  rw [hp, hmem]

/-- Once nothing is owed, everything has been sent. -/
theorem Sound.sent_eq (h : o.Sound) (hnone : ∀ t, o.owes t = none) :
    o.sent = o.updates.map Prod.snd := by
  rw [h.inOrder, h.unsent_eq_nil hnone, List.map_nil, List.append_nil]

section Move

variable [DecidableEq τ]

/-- The moves. An update is made only when nobody owes one. -/
inductive Move (o o' : Outbox τ ν) : Prop where
  | stay (hupdates : o'.updates = o.updates) (hsent : o'.sent = o.sent) (howes : o'.owes = o.owes)
  | update (t : τ) (v : ν) (hfree : ∀ s, o.owes s = none)
      (hupdates : o'.updates = o.updates ++ [(t, v)]) (hsent : o'.sent = o.sent)
      (howes : o'.owes = Function.update o.owes t (some v))
  | send (t : τ) (v : ν) (howed : o.owes t = some v) (hupdates : o'.updates = o.updates)
      (hsent : o'.sent = o.sent ++ [v]) (howes : o'.owes = Function.update o.owes t none)

theorem Sound.update (h : o.Sound) (hfree : ∀ s, o.owes s = none)
    (hupdates : o'.updates = o.updates ++ [(t, v)]) (hsent : o'.sent = o.sent)
    (howes : o'.owes = Function.update o.owes t (some v)) : o'.Sound := by
  have hnil := h.unsent_eq_nil hfree
  have hunsent : o'.unsent = [(t, v)] := by
    rw [unsent, hupdates, hsent, List.drop_append_of_le_length h.length_le, ← unsent, hnil,
      List.nil_append]
  refine ⟨?_, by simp [hunsent], fun s u ↦ ?_⟩
  · rw [hupdates, hunsent, hsent, List.map_append, h.inOrder, hnil, List.map_nil, List.append_nil]
  · rw [hunsent, howes, List.mem_singleton]
    by_cases hst : s = t
    · subst hst
      simp [eq_comm]
    · simp [hst, hfree s]

theorem Sound.send (h : o.Sound) (howed : o.owes t = some v)
    (hupdates : o'.updates = o.updates) (hsent : o'.sent = o.sent ++ [v])
    (howes : o'.owes = Function.update o.owes t none) : o'.Sound := by
  have hone := h.unsent_eq_singleton howed
  have hunsent : o'.unsent = [] := by
    have htail : o'.unsent = o.unsent.tail := by
      rw [unsent, unsent, hupdates, hsent, List.length_append, List.length_singleton,
        List.tail_drop]
    rw [htail, hone, List.tail_cons]
  refine ⟨?_, by simp [hunsent], fun s u ↦ ?_⟩
  · rw [hupdates, hsent, hunsent, h.inOrder, hone, List.map_nil, List.append_nil, List.map_cons,
      List.map_nil]
  · rw [hunsent, howes]
    by_cases hst : s = t
    · subst hst
      simp
    · -- Nobody else owed anything.
      rw [Function.update_of_ne hst, ← h.owes, hone]
      simp [hst]

/-- What is owed is what has not been sent, after every move. -/
theorem Sound.move (h : o.Sound) (hmove : Move o o') : o'.Sound := by
  cases hmove with
  | stay hupdates hsent howes =>
    have hunsent : o'.unsent = o.unsent := by rw [unsent, hupdates, hsent, unsent]
    exact ⟨by rw [hupdates, hsent, hunsent, h.inOrder], hunsent ▸ h.length_unsent,
      fun t v ↦ by rw [hunsent, howes, h.owes]⟩
  | update t v hfree hupdates hsent howes => exact h.update hfree hupdates hsent howes
  | send t v howed hupdates hsent howes => exact h.send howed hupdates hsent howes

end Move

end Outbox

end Concurrent

end NmOpenvpn3
