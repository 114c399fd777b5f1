import Mathlib.Data.List.Basic

/-!
# Objects in custody

Objects are created, kept and disposed of under a lock. Whoever holds the lock may have one object
in hand; it may put it into a slot, where it outlives the holding of the lock, take it out again, or
dispose of it. Nothing is lost in this way: `Sound` says that the outstanding objects are the one in
hand and the one in the slot, of which there is never more than one, and every move preserves it.
-/

namespace NmOpenvpn3

namespace Concurrent

/-- Objects of type `π` in the custody of workers of type `ι`. -/
structure Custody (ι π : Type*) where
  holder : Option ι
  hand : Option π
  slot : Option π
  outstanding : List π

namespace Custody

variable {ι π : Type*} {c c' : Custody ι π}

/-- All outstanding objects are accounted for. -/
structure Sound (c : Custody ι π) : Prop where
  accounted : c.outstanding = c.hand.toList ++ c.slot.toList
  single : c.hand = none ∨ c.slot = none
  free : c.holder = none → c.hand = none

/-- At most one object is outstanding. -/
theorem Sound.length_le_one (h : c.Sound) : c.outstanding.length ≤ 1 := by
  rw [h.accounted]
  obtain hh | hs := h.single
  · cases c.slot <;> simp [hh]
  · cases c.hand <;> simp [hs]

/-- While nobody holds the lock, what is outstanding is in the slot. -/
theorem Sound.eq_slot (h : c.Sound) (hfree : c.holder = none) :
    c.outstanding = c.slot.toList := by
  rw [h.accounted, h.free hfree, Option.toList_none, List.nil_append]

/-- With nothing in hand and nothing in the slot, nothing is outstanding. -/
theorem Sound.eq_nil (h : c.Sound) (hhand : c.hand = none) (hslot : c.slot = none) :
    c.outstanding = [] := by
  rw [h.accounted, hhand, hslot, Option.toList_none, List.nil_append]

section Moves

variable [DecidableEq π]

/-- The moves. An object is only created while there is none. -/
inductive Move : Custody ι π → Custody ι π → Prop where
  | stay (c : Custody ι π) : Move c c
  | acquire {c : Custody ι π} (t : ι) (hfree : c.holder = none) : Move c { c with holder := some t }
  | release {c : Custody ι π} (hhand : c.hand = none) : Move c { c with holder := none }
  | create {c : Custody ι π} (p : π) (hheld : c.holder ≠ none) (hhand : c.hand = none)
      (hslot : c.slot = none) : Move c { c with hand := some p, outstanding := p :: c.outstanding }
  | put {c : Custody ι π} (hslot : c.slot = none) : Move c { c with hand := none, slot := c.hand }
  | take {c : Custody ι π} (hheld : c.holder ≠ none) (hhand : c.hand = none) :
      Move c { c with hand := c.slot, slot := none }
  | dispose {c : Custody ι π} (p : π) (hhand : c.hand = some p) :
      Move c { c with hand := none, outstanding := c.outstanding.erase p }

/-- No move loses an object. -/
theorem Sound.move (h : c.Sound) (hmove : Move c c') : c'.Sound := by
  cases hmove with
  | stay => exact h
  | acquire t hfree => exact ⟨h.accounted, h.single, fun _ ↦ h.free hfree⟩
  | release hhand => exact ⟨h.accounted, h.single, fun _ ↦ hhand⟩
  | create p hheld hhand hslot =>
    refine ⟨?_, .inr hslot, fun hfree ↦ absurd hfree hheld⟩
    simp [h.eq_nil hhand hslot, hslot]
  | put hslot =>
    refine ⟨?_, .inl rfl, fun _ ↦ rfl⟩
    simp [h.accounted, hslot]
  | take hheld hhand =>
    refine ⟨?_, .inr rfl, fun hfree ↦ absurd hfree hheld⟩
    simp [h.accounted, hhand]
  | dispose p hhand =>
    refine ⟨?_, .inl rfl, fun _ ↦ rfl⟩
    simp [h.accounted, hhand]

end Moves

end Custody

end Concurrent

end NmOpenvpn3
