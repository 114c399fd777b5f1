import Mathlib.Data.List.Basic

/-!
# Histories

The history of a run is the list of its events, the latest first. A law says of each event what must
have happened before it, and a history that keeps a law is extended by events that keep it.
-/

namespace NmOpenvpn3

namespace Concurrent

variable {ε : Type*}

/-- Every event of a history stands in a relation to the history before it. -/
def Keeps (P : ε → List ε → Prop) : List ε → Prop
  | [] => True
  | e :: h => P e h ∧ Keeps P h

variable {P : ε → List ε → Prop} {e : ε} {h : List ε}

@[simp] theorem keeps_nil : Keeps P [] := trivial

@[simp] theorem keeps_cons : Keeps P (e :: h) ↔ P e h ∧ Keeps P h := Iff.rfl

/-- A law is about every event and what came before it. -/
theorem keeps_iff : Keeps P h ↔ ∀ later e earlier, h = later ++ e :: earlier → P e earlier := by
  induction h with
  | nil => simp
  | cons e h ih =>
    rw [keeps_cons, ih]
    constructor
    · rintro ⟨he, hh⟩ (_ | ⟨e', later⟩) e'' earlier heq
      · obtain ⟨rfl, rfl⟩ := List.cons.inj heq
        exact he
      · exact hh later e'' earlier (List.cons.inj heq).2
    · intro hall
      exact ⟨hall [] e h rfl,
        fun later e' earlier heq ↦ hall (e :: later) e' earlier (by rw [heq]; rfl)⟩

end Concurrent

end NmOpenvpn3
