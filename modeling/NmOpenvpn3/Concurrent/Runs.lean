import Mathlib.Data.List.Defs
import Mathlib.Data.Nat.Notation
import Mathlib.Logic.Relation

/-!
# Runs of a machine

A machine takes steps by actions, and an action either leads to one next state or is not enabled.
Runs are considered together with a condition that each of their steps meets in the state in which
it is taken: the runs of the machine are those with the condition that always holds.
-/

namespace NmOpenvpn3

namespace Concurrent

/-- The initial states, and what each action does where it is enabled. -/
structure Machine (σ α : Type*) where
  init : σ → Prop
  step : σ → α → Option σ

namespace Machine

variable {σ α : Type*} (m : Machine σ α)

/-- A step by an action that meets a condition. -/
def Moves (C : σ → α → Prop) (s s' : σ) : Prop := ∃ a, C s a ∧ m.step s a = some s'

/-- A run whose steps all meet a condition. -/
def Reaches (C : σ → α → Prop) : σ → σ → Prop := Relation.ReflTransGen (m.Moves C)

/-- A state that a run from an initial state reaches, where all steps meet a condition. -/
def ReachableBy (C : σ → α → Prop) (s : σ) : Prop := ∃ s₀, m.init s₀ ∧ m.Reaches C s₀ s

/-- A state that some run from an initial state reaches. -/
def Reachable (s : σ) : Prop := m.ReachableBy (fun _ _ ↦ True) s

variable {m} {C D : σ → α → Prop} {I : σ → Prop} {s s' : σ}

/-- What every step that meets the condition preserves holds along the whole run. -/
theorem Reaches.invariant (hstep : ∀ s a s', I s → C s a → m.step s a = some s' → I s')
    (h : m.Reaches C s s') (hs : I s) : I s' := by
  induction h with
  | refl => exact hs
  | tail _ hmove ih =>
    obtain ⟨a, hC, ha⟩ := hmove
    exact hstep _ a _ ih hC ha

theorem Reaches.mono (hCD : ∀ s a, C s a → D s a) (h : m.Reaches C s s') : m.Reaches D s s' :=
  Relation.ReflTransGen.mono (fun _ _ ⟨a, hC, ha⟩ ↦ ⟨a, hCD _ a hC, ha⟩) _ _ h

theorem Reaches.step {a : α} {s'' : σ} (h : m.Reaches C s s') (hC : C s' a)
    (ha : m.step s' a = some s'') : m.Reaches C s s'' :=
  Relation.ReflTransGen.tail h ⟨a, hC, ha⟩

/-- The first of the states that a run passes through reaches all of them. -/
theorem reaches_of_isChain {ss : List σ} (h : List.IsChain (m.Reaches C) (s :: ss)) :
    ∀ s' ∈ s :: ss, m.Reaches C s s' := by
  induction ss generalizing s with
  | nil =>
    rintro s' hs'
    obtain rfl := List.mem_singleton.mp hs'
    exact Relation.ReflTransGen.refl
  | cons s₁ ss ih =>
    obtain ⟨hfirst, hrest⟩ := List.isChain_cons_cons.mp h
    rw [List.forall_mem_cons]
    exact ⟨Relation.ReflTransGen.refl, fun s' hs' ↦ hfirst.trans (ih hrest s' hs')⟩

/-- An invariant holds in every state that is reached. -/
theorem ReachableBy.invariant (hinit : ∀ s, m.init s → I s)
    (hstep : ∀ s a s', I s → C s a → m.step s a = some s' → I s') (h : m.ReachableBy C s) :
    I s := by
  obtain ⟨s₀, hs₀, hrun⟩ := h
  exact hrun.invariant hstep (hinit s₀ hs₀)

theorem ReachableBy.mono (hCD : ∀ s a, C s a → D s a) (h : m.ReachableBy C s) : m.ReachableBy D s :=
  h.imp fun _ ⟨hs₀, hrun⟩ ↦ ⟨hs₀, hrun.mono hCD⟩

theorem ReachableBy.reachable (h : m.ReachableBy C s) : m.Reachable s := h.mono fun _ _ _ ↦ trivial

/-- An invariant may be proved with the help of what holds of the run anyway. -/
theorem ReachableBy.invariant_of_reachableBy (hinit : ∀ s, m.init s → I s)
    (hstep : ∀ s a s', m.ReachableBy C s → I s → C s a → m.step s a = some s' → I s')
    (h : m.ReachableBy C s) : I s := by
  have hboth : m.ReachableBy C s ∧ I s :=
    h.invariant (I := fun s ↦ m.ReachableBy C s ∧ I s)
      (fun s hs ↦ ⟨⟨s, hs, Relation.ReflTransGen.refl⟩, hinit s hs⟩)
      fun s a s' ⟨⟨s₀, hs₀, hrun⟩, hI⟩ hC ha ↦
        ⟨⟨s₀, hs₀, hrun.step hC ha⟩, hstep s a s' ⟨s₀, hs₀, hrun⟩ hI hC ha⟩
  exact hboth.2

theorem ReachableBy.invariant_of_reachable (hinit : ∀ s, m.init s → I s)
    (hstep : ∀ s a s', m.Reachable s → I s → C s a → m.step s a = some s' → I s')
    (h : m.ReachableBy C s) : I s :=
  h.invariant_of_reachableBy hinit fun s a s' hs ↦ hstep s a s' hs.reachable

/-! ## Runs by lists of actions -/

variable (m) in
/-- The state after some actions, if each is enabled in its turn. -/
def run : σ → List α → Option σ
  | s, [] => some s
  | s, a :: as => (m.step s a).bind (run · as)

theorem run_append (as bs : List α) :
    m.run s (as ++ bs) = (m.run s as).bind fun s' ↦ m.run s' bs := by
  induction as generalizing s with
  | nil => rfl
  | cons a as ih =>
    rw [List.cons_append, run, run, Option.bind_assoc]
    exact congrArg _ (funext fun s' ↦ ih)

theorem reachable_of_run {as : List α} (hs : m.Reachable s) (h : m.run s as = some s') :
    m.Reachable s' := by
  induction as generalizing s with
  | nil =>
    obtain rfl := Option.some_inj.mp h
    exact hs
  | cons a as ih =>
    obtain ⟨s₁, ha, has⟩ := Option.bind_eq_some_iff.mp h
    obtain ⟨s₀, hs₀, hrun⟩ := hs
    exact ih ⟨s₀, hs₀, hrun.step trivial ha⟩ has

/-- The state that a list of actions leads to is reachable; a list that is not enabled leads
nowhere. -/
theorem reachable_getD_run (hs : m.Reachable s) (as : List α) :
    m.Reachable ((m.run s as).getD s) := by
  cases h : m.run s as with
  | none => exact hs
  | some s' => exact reachable_of_run hs h

theorem Reachable.step {a : α} (hs : m.Reachable s) (ha : m.step s a = some s') :
    m.Reachable s' :=
  hs.imp fun _ ⟨hs₀, hrun⟩ ↦ ⟨hs₀, Reaches.step hrun trivial ha⟩

theorem reachable_of_init (hs : m.init s) : m.Reachable s := ⟨s, hs, Relation.ReflTransGen.refl⟩

variable (m) in
/-- Every action of a list meets a condition in the state in which it is taken. -/
def Allows (C : σ → α → Prop) : σ → List α → Prop
  | _, [] => True
  | s, a :: as => C s a ∧ Allows C ((m.step s a).getD s) as

theorem Reaches.getD_run {s₀ : σ} (hs : m.Reaches C s₀ s) (as : List α) (h : m.Allows C s as) :
    m.Reaches C s₀ ((m.run s as).getD s) := by
  suffices ∀ s', m.run s as = some s' → m.Reaches C s₀ s' by
    cases hrun : m.run s as with
    | none => exact hs
    | some s' => exact this s' hrun
  induction as generalizing s with
  | nil =>
    rintro s' hrun
    obtain rfl := Option.some_inj.mp hrun
    exact hs
  | cons a as ih =>
    intro s' hrun
    obtain ⟨s₁, ha, has⟩ := Option.bind_eq_some_iff.mp hrun
    have hrest := h.2
    rw [ha, Option.getD_some] at hrest
    exact ih (hs.step h.1 ha) hrest s' has

theorem ReachableBy.getD_run (hs : m.ReachableBy C s) (as : List α) (h : m.Allows C s as) :
    m.ReachableBy C ((m.run s as).getD s) :=
  hs.imp fun _ ⟨hs₀, hrun⟩ ↦ ⟨hs₀, hrun.getD_run as h⟩

/-! ## Driven runs -/

section Driven

variable {β : Type*} {act : β → σ → α}

variable (m act) in
/-- The state after some inputs, where the state decides which action an input is for. -/
def follow : List β → σ → Option σ
  | [], s => some s
  | b :: bs, s => (m.step s (act b s)).bind (follow bs)

/-- **Driven runs get there**: where no input is refused before the goal is met, and each brings a
measure down, as many inputs as the measure says are enough. -/
theorem exists_follow_of_measure (inv goal : σ → Prop) (μ : σ → ℕ)
    (hstep : ∀ s b, inv s → ¬goal s → ∃ s', m.step s (act b s) = some s' ∧ inv s' ∧ μ s' < μ s)
    (hzero : ∀ s, inv s → μ s = 0 → goal s) (hs : inv s) {bs : List β} (hlen : μ s ≤ bs.length) :
    ∃ used, used <+: bs ∧ ∃ s', m.follow act used s = some s' ∧ goal s' := by
  induction bs generalizing s with
  | nil => exact ⟨[], List.prefix_rfl, s, rfl, hzero s hs (Nat.le_zero.mp hlen)⟩
  | cons b bs ih =>
    by_cases hgoal : goal s
    · exact ⟨[], List.nil_prefix, s, rfl, hgoal⟩
    · obtain ⟨s₁, ha, hs₁, hlt⟩ := hstep s b hs hgoal
      rw [List.length_cons] at hlen
      obtain ⟨used, hpre, s', hrun, hs'⟩ := ih hs₁ (by omega)
      exact ⟨b :: used, List.cons_prefix_cons.mpr ⟨rfl, hpre⟩, s',
        by rw [follow, ha, Option.bind_some, hrun], hs'⟩

end Driven

end Machine

end Concurrent

end NmOpenvpn3
