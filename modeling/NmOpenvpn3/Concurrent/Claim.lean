import Mathlib.Data.List.Basic

/-!
# Claims

Workers race for a flag. Whoever takes it is at work on a job until the job is reported, withdrawn
or given up. A report and a job given up leave the flag taken, so nobody else ever works on it; a
withdrawal hands the flag back for another try. `Sound` says that at most one worker is at work and
that the job is reported at most once, and every move preserves it.
-/

namespace NmOpenvpn3

namespace Concurrent

/-- A job that workers of type `ι` race for. -/
structure Claim (ι : Type*) where
  taken : Prop
  busy : ι → Prop
  reports : ℕ

namespace Claim

variable {ι : Type*} {c c' : Claim ι}

/-- One worker at a time, and one report at the end. -/
structure Sound (c : Claim ι) : Prop where
  taken : ∀ t, c.busy t → c.taken
  exclusive : ∀ s t, c.busy s → c.busy t → s = t
  finished : c.reports ≠ 0 → c.reports = 1 ∧ c.taken ∧ ∀ t, ¬c.busy t

theorem Sound.reports_le_one (h : c.Sound) : c.reports ≤ 1 := by
  by_cases hzero : c.reports = 0
  · omega
  · exact Nat.le_of_eq (h.finished hzero).1

/-- While a worker is at work, nothing has been reported. -/
theorem Sound.reports_eq_zero {t : ι} (h : c.Sound) (ht : c.busy t) : c.reports = 0 := by
  by_contra hne
  exact (h.finished hne).2.2 t ht

/-- The moves. Workers may give up at any time. -/
inductive Move (c c' : Claim ι) : Prop where
  | stay (htaken : c.taken → c'.taken) (hbusy : ∀ s, c'.busy s → c.busy s)
      (hreports : c'.reports = c.reports)
  | claim (t : ι) (hfree : ¬c.taken) (htaken : c'.taken) (hbusy : ∀ s, c'.busy s → s = t ∨ c.busy s)
      (hreports : c'.reports = c.reports)
  | report (t : ι) (ht : c.busy t) (htaken : c.taken → c'.taken)
      (hbusy : ∀ s, c'.busy s → s ≠ t ∧ c.busy s) (hreports : c'.reports = c.reports + 1)
  | withdraw (t : ι) (ht : c.busy t) (hbusy : ∀ s, c'.busy s → s ≠ t ∧ c.busy s)
      (hreports : c'.reports = c.reports)
  /-- The job is claimed and reported at once. -/
  | finish (hfree : ¬c.taken) (htaken : c'.taken) (hbusy : ∀ s, c'.busy s → c.busy s)
      (hreports : c'.reports = c.reports + 1)

/-- No move brings in a second worker or a second report. -/
theorem Sound.move (h : c.Sound) (hmove : Move c c') : c'.Sound := by
  -- Whoever is alone at work leaves nobody behind.
  have hnobody {t : ι} (ht : c.busy t) (hbusy : ∀ s, c'.busy s → s ≠ t ∧ c.busy s) (s : ι) :
      ¬c'.busy s :=
    fun hs ↦ (hbusy s hs).1 (h.exclusive s t (hbusy s hs).2 ht)
  cases hmove with
  | stay htaken hbusy hreports =>
    refine ⟨fun t ht ↦ htaken (h.taken t (hbusy t ht)),
      fun s t hs ht ↦ h.exclusive s t (hbusy s hs) (hbusy t ht), fun hne ↦ ?_⟩
    rw [hreports] at hne ⊢
    obtain ⟨hone, ht, hnone⟩ := h.finished hne
    exact ⟨hone, htaken ht, fun t ht ↦ hnone t (hbusy t ht)⟩
  | claim t hfree htaken hbusy hreports =>
    have halone (s : ι) (hs : c'.busy s) : s = t :=
      (hbusy s hs).resolve_right fun hs ↦ hfree (h.taken s hs)
    refine ⟨fun _ _ ↦ htaken, fun s u hs hu ↦ (halone s hs).trans (halone u hu).symm, fun hne ↦ ?_⟩
    rw [hreports] at hne
    exact absurd (h.finished hne).2.1 hfree
  | report t ht htaken hbusy hreports =>
    refine ⟨fun s hs ↦ absurd hs (hnobody ht hbusy s), fun s _ hs ↦ absurd hs (hnobody ht hbusy s),
      fun _ ↦ ⟨?_, htaken (h.taken t ht), hnobody ht hbusy⟩⟩
    rw [hreports, h.reports_eq_zero ht]
  | withdraw t ht hbusy hreports =>
    refine ⟨fun s hs ↦ absurd hs (hnobody ht hbusy s), fun s _ hs ↦ absurd hs (hnobody ht hbusy s),
      fun hne ↦ ?_⟩
    rw [hreports, h.reports_eq_zero ht] at hne
    exact absurd rfl hne
  | finish hfree htaken hbusy hreports =>
    have hnone (s : ι) : ¬c'.busy s := fun hs ↦ hfree (h.taken s (hbusy s hs))
    have hzero : c.reports = 0 := by
      by_contra hne
      exact hfree (h.finished hne).2.1
    refine ⟨fun _ _ ↦ htaken, fun s _ hs ↦ absurd hs (hnone s), fun _ ↦ ⟨?_, htaken, hnone⟩⟩
    rw [hreports, hzero]

end Claim

end Concurrent

end NmOpenvpn3
