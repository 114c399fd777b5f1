import NmOpenvpn3.Plugin.Steps
import Mathlib.Data.List.Count

/-!
# The budgets of the poller

A path of the poller's program is a sequence of points with what was learned at each, so that every
sequence of poll outcomes is the one of some path. On a path the reads of the status can be counted:
all of them up to the start, and after it those that have failed since the last successful one.

`Budgeted` ties the poller's two counters to these numbers. Before the start the reads are as many
as the ticks, which end the loop at 100; after the start the failed reads are as many as the
counted errors, since the start is only ever recorded in a turn whose read succeeded.
-/

namespace NmOpenvpn3

namespace Plugin

open Rust Ovpn Service Concurrent

/-! ## Paths -/

/-- A point that the poller has passed, and what it learned there. -/
abbrev Turn := PollerPc × Answer

namespace Turn

/-- The status is read. -/
def isRead : Turn → Bool
  | (.status _, _) => true
  | _ => false

/-- The poller records the start: its own, or that the listener was first. -/
def records : Turn → Bool
  | (.started _, _) => true
  | (.claim _, .flag false) => true
  | _ => false

/-- A terminal status is read. -/
def isTerminal : Turn → Bool
  | (.status _, .status major minor) =>
    (Status.fromWire major minor).bind Status.toNmState == some .stopped
  | _ => false

/-- The configuration cannot be emitted. -/
def failsIp4 : Turn → Bool
  | (.ip4 _ _, .err) => true
  | _ => false

/-- The poller gives the session up for lost. -/
def isLost : Turn → Bool
  | (.lost, _) => true
  | _ => false

end Turn

/-- The points where the poller makes a signal emitter. -/
def PollerPc.MakesEmitter : PollerPc → Prop
  | .emitter _ _ _ | .timedOut | .lost => True
  | _ => False

/-- The paths from the head of the loop on which the emitter is available, the last turn first. -/
inductive PollerPath (i : ℕ) : List Turn → PollerPc → Prop where
  | loop : PollerPath i [] (.tick ⟨false, 0, 0⟩)
  | turn {turns : List Turn} {pc pc' : PollerPc} {op : Op} {next : Answer → Option PollerPc}
    {a : Answer} (path : PollerPath i turns pc) (hcode : pc.code i = some (op, next))
    (hnext : next a = some pc') (hemitter : pc.MakesEmitter → a = .ok) :
    PollerPath i ((pc, a) :: turns) pc'

/-- The number of status reads. -/
def reads (turns : List Turn) : ℕ := turns.countP Turn.isRead

/-- The poller has recorded the start. -/
def recorded (turns : List Turn) : Bool := turns.any Turn.records

/-- The number of failed status reads since the last successful one. -/
def failedReads : List Turn → ℕ
  | [] => 0
  | (.status _, .err) :: turns => failedReads turns + 1
  | (.status _, _) :: _ => 0
  | _ :: turns => failedReads turns

/-- The path ends with the report that the session never started. -/
def TimedOut (turns : List Turn) : Prop :=
  ∃ a b rest, turns = (.timeoutFailure, b) :: (.timeoutStopped, a) :: (.timedOut, .ok) :: rest

/-- The path ends with the report that the session is lost. -/
def ReportsLost (turns : List Turn) : Prop :=
  ∃ a b rest, turns = (.lostFailure, b) :: (.lostStopped, a) :: (.lost, .ok) :: rest

/-! ## Turns that leave the counts alone -/

section Counts

variable {i : ℕ} {turns : List Turn} {pc : PollerPc} {a : Answer} {l : Polling}

theorem reads_cons_of_not (h : Turn.isRead (pc, a) = false) :
    reads ((pc, a) :: turns) = reads turns := by
  simp [reads, h]

theorem reads_cons_status : reads ((.status l, a) :: turns) = reads turns + 1 :=
  List.countP_cons_of_pos rfl

theorem failedReads_cons_of_not (h : Turn.isRead (pc, a) = false) :
    failedReads ((pc, a) :: turns) = failedReads turns := by
  cases pc
  case status l => simp [Turn.isRead] at h
  all_goals rfl

theorem recorded_cons : recorded ((pc, a) :: turns) = (Turn.records (pc, a) || recorded turns) :=
  List.any_cons

/-- The poller's variables agree with the counts, where `pending` reads of the current turn are
still to come. -/
structure Counted (turns : List Turn) (l : Polling) (pending : ℕ) : Prop where
  flag : l.ip4Emitted = recorded turns
  before : recorded turns = false →
    reads turns + pending = l.ticks ∧ l.ticks < maxTicksPreStarted ∧ l.postStartedErrs = 0
  after : recorded turns = true →
    l.postStartedErrs = failedReads turns ∧ failedReads turns < postStartedErrBudget
  watching : turns.any Turn.isLost = false

/-- A turn that neither reads nor records keeps the agreement. -/
theorem Counted.cons {pending : ℕ} (h : Counted turns l pending)
    (hread : Turn.isRead (pc, a) = false) (hrec : Turn.records (pc, a) = false)
    (hlost : Turn.isLost (pc, a) = false) : Counted ((pc, a) :: turns) l pending := by
  have hr : recorded ((pc, a) :: turns) = recorded turns := by rw [recorded_cons, hrec]; rfl
  refine ⟨hr ▸ h.flag, ?_, ?_, ?_⟩
  · rw [hr, reads_cons_of_not hread]
    exact h.before
  · rw [hr, failedReads_cons_of_not hread]
    exact h.after
  · rw [List.any_cons, hlost, h.watching]
    rfl

/-- Behind a successful read. -/
structure Fresh (turns : List Turn) (l : Polling) : Prop extends Counted turns l 0 where
  succeeded : failedReads turns = 0

theorem Fresh.cons (h : Fresh turns l) (hread : Turn.isRead (pc, a) = false)
    (hrec : Turn.records (pc, a) = false) (hlost : Turn.isLost (pc, a) = false) :
    Fresh ((pc, a) :: turns) l :=
  ⟨h.toCounted.cons hread hrec hlost, by rw [failedReads_cons_of_not hread, h.succeeded]⟩

/-- Recording the start begins a new count. -/
theorem Fresh.started (h : Fresh turns l) (hunrec : recorded turns = false)
    (hread : Turn.isRead (pc, a) = false) (hrec : Turn.records (pc, a) = true)
    (hlost : Turn.isLost (pc, a) = false) : Counted ((pc, a) :: turns) l.started 0 := by
  have hr : recorded ((pc, a) :: turns) = true := by rw [recorded_cons, hrec, Bool.true_or]
  refine ⟨hr.symm, fun hf ↦ absurd (hr.symm.trans hf) (by simp), fun _ ↦ ?_, ?_⟩
  · rw [failedReads_cons_of_not hread, h.succeeded]
    exact ⟨(h.before hunrec).2.2, by decide⟩
  · rw [List.any_cons, hlost, h.watching]
    rfl

/-! ## The invariant -/

/-- What the counts are at each point. -/
def Budgeted (turns : List Turn) : PollerPc → Prop
  | .attach => False
  | .tick l => Counted turns l 0
  | .status l => Counted turns l 1
  | .device l st => Fresh turns l ∧ l.ip4Emitted = false ∧ st.bind Status.toNmState ≠ some .stopped
  | .emitter l _ target =>
    Fresh turns l ∧ (target = .stopped → turns.any Turn.isTerminal = true)
  | .claim l | .ip4 l _ | .started l => Fresh turns l ∧ l.ip4Emitted = false
  | .other l _ => Fresh turns l
  | .timedOut =>
    recorded turns = false ∧ reads turns = maxTicksPreStarted - 1 ∧
      turns.any Turn.isLost = false
  | .timeoutStopped =>
    recorded turns = false ∧ reads turns = maxTicksPreStarted - 1 ∧
      turns.any Turn.isLost = false ∧ ∃ rest, turns = (.timedOut, .ok) :: rest
  | .timeoutFailure =>
    recorded turns = false ∧ reads turns = maxTicksPreStarted - 1 ∧
      turns.any Turn.isLost = false ∧
        ∃ a rest, turns = (.timeoutStopped, a) :: (.timedOut, .ok) :: rest
  | .rollback | .rolledBack | .badIpConfig =>
    recorded turns = false ∧ reads turns < maxTicksPreStarted ∧
      turns.any Turn.isLost = false ∧ turns.any Turn.failsIp4 = true
  | .stopped _ | .checkTeardown _ | .failure _ =>
    (recorded turns = false → reads turns < maxTicksPreStarted) ∧ failedReads turns = 0 ∧
      turns.any Turn.isLost = false ∧ turns.any Turn.isTerminal = true
  | .lost =>
    recorded turns = true ∧ failedReads turns = postStartedErrBudget ∧
      turns.any Turn.isLost = false
  | .lostStopped =>
    recorded turns = true ∧ failedReads turns = postStartedErrBudget ∧
      ∃ rest, turns = (.lost, .ok) :: rest
  | .lostFailure =>
    recorded turns = true ∧ failedReads turns = postStartedErrBudget ∧
      ∃ a rest, turns = (.lostStopped, a) :: (.lost, .ok) :: rest
  | .exited =>
    (recorded turns = false ∧ reads turns = maxTicksPreStarted - 1 ∧
      turns.any Turn.isLost = false ∧ TimedOut turns) ∨
    (recorded turns = false ∧ reads turns < maxTicksPreStarted ∧
      turns.any Turn.isLost = false ∧ turns.any Turn.failsIp4 = true) ∨
    ((recorded turns = false → reads turns < maxTicksPreStarted) ∧ failedReads turns = 0 ∧
      turns.any Turn.isLost = false ∧ turns.any Turn.isTerminal = true) ∨
    (recorded turns = true ∧ failedReads turns = postStartedErrBudget ∧ ReportsLost turns)

theorem budgeted_wake (h : Counted turns l 0) :
    Budgeted ((.tick l, a) :: turns) (PollerPc.wake l) := by
  have hc : Counted ((.tick l, a) :: turns) l 0 := h.cons rfl rfl rfl
  simp only [PollerPc.wake]
  split_ifs with hlast
  · have hunrec : recorded ((.tick l, a) :: turns) = false := by
      rw [← hc.flag]
      simpa using hlast.1
    obtain ⟨hreads, hticks, -⟩ := hc.before hunrec
    exact ⟨hunrec, by omega, hc.watching⟩
  · refine ⟨hc.flag, fun hunrec ↦ ?_, hc.after, hc.watching⟩
    obtain ⟨hreads, hticks, herrs⟩ := hc.before hunrec
    have hflag : l.ip4Emitted = false := hc.flag.trans hunrec
    simp only [hflag, Bool.not_false, true_and, not_le] at hlast
    exact ⟨by simp only; omega, hlast, herrs⟩

theorem budgeted_decide {st : Option Status} {target : Option NmVpnServiceState}
    (h : Fresh turns l) (hterm : target = some .stopped → turns.any Turn.isTerminal = true) :
    Budgeted turns (PollerPc.decide l st target) := by
  cases target with
  | none => exact h.toCounted
  | some target => exact ⟨h, fun ht ↦ hterm (by rw [ht])⟩

/-- A status was read. -/
theorem budgeted_read {major minor : UInt32} (h : Counted turns l 1) :
    Budgeted ((.status l, .status major minor) :: turns)
      (PollerPc.read { l with postStartedErrs := 0 } (Status.fromWire major minor)) := by
  have hr : recorded ((.status l, .status major minor) :: turns) = recorded turns := rfl
  have hfresh : Fresh ((.status l, .status major minor) :: turns)
      { l with postStartedErrs := 0 } := by
    refine ⟨⟨h.flag, fun hunrec ↦ ?_, fun _ ↦
      ⟨rfl, show 0 < postStartedErrBudget by decide⟩, h.watching⟩, rfl⟩
    obtain ⟨hreads, hticks, -⟩ := h.before hunrec
    rw [reads_cons_status]
    exact ⟨hreads, hticks, rfl⟩
  simp only [PollerPc.read]
  split_ifs with hdev
  · exact ⟨hfresh, by simpa using hdev.1, hdev.2⟩
  · refine budgeted_decide hfresh fun hstop ↦ ?_
    rw [List.any_cons, Turn.isTerminal, hstop]
    rfl

/-- The status could not be read. -/
theorem budgeted_unread (h : Counted turns l 1) :
    Budgeted ((.status l, .err) :: turns) (PollerPc.unread l) := by
  have hr : recorded ((.status l, .err) :: turns) = recorded turns := rfl
  have hfailed : failedReads ((.status l, .err) :: turns) = failedReads turns + 1 := rfl
  simp only [PollerPc.unread]
  split_ifs with hflag hbudget
  · have hrec : recorded turns = true := h.flag ▸ hflag
    obtain ⟨herrs, hlt⟩ := h.after hrec
    refine ⟨h.flag, fun hunrec ↦ absurd (hrec.symm.trans hunrec) (by simp), fun _ ↦ ?_,
      h.watching⟩
    rw [hfailed]
    exact ⟨by simp only; omega, by omega⟩
  · have hrec : recorded turns = true := h.flag ▸ hflag
    obtain ⟨herrs, hlt⟩ := h.after hrec
    exact ⟨hrec, by rw [hfailed]; omega, h.watching⟩
  · have hunrec : recorded turns = false := h.flag ▸ eq_false_of_ne_true hflag
    obtain ⟨hreads, hticks, herrs⟩ := h.before hunrec
    refine ⟨h.flag, fun _ ↦ ?_, fun hrec ↦ absurd (hunrec.symm.trans hrec) (by simp), h.watching⟩
    rw [reads_cons_status]
    exact ⟨hreads, hticks, herrs⟩

theorem budgeted_dispatch {st : Option Status} {target : NmVpnServiceState} (h : Fresh turns l)
    (hterm : target = .stopped → turns.any Turn.isTerminal = true) :
    Budgeted turns (PollerPc.dispatch l st target) := by
  have hother : target ≠ .stopped → Budgeted turns
      (if l.ip4Emitted then .tick l else .other l target) := by
    intro _
    split_ifs
    · exact h.toCounted
    · exact h
  cases target with
  | stopped =>
    refine ⟨fun hunrec ↦ ?_, h.succeeded, h.watching, hterm rfl⟩
    obtain ⟨hreads, hticks, -⟩ := h.before hunrec
    omega
  | started =>
    simp only [PollerPc.dispatch]
    split_ifs with hflag
    · exact h.toCounted
    · exact ⟨h, eq_false_of_ne_true hflag⟩
  | _ => exact hother (by simp)

/-- What has happened stays in the path. -/
theorem any_cons_of_any {p : Turn → Bool} (h : turns.any p = true) :
    ((pc, a) :: turns).any p = true := by
  rw [List.any_cons, h, Bool.or_true]

/-- One turn keeps the counts. -/
theorem Budgeted.turn {pc' : PollerPc} {op : Op} {next : Answer → Option PollerPc}
    (h : Budgeted turns pc) (hcode : pc.code i = some (op, next)) (hnext : next a = some pc')
    (hemitter : pc.MakesEmitter → a = .ok) : Budgeted ((pc, a) :: turns) pc' := by
  cases pc <;> cases hcode
  case attach => exact h.elim
  case tick l =>
    obtain rfl := always_eq_some.mp hnext
    exact budgeted_wake h
  case status l =>
    cases a <;> simp only [Option.some_inj, reduceCtorEq] at hnext <;> subst hnext
    case status major minor => exact budgeted_read h
    case err => exact budgeted_unread h
  case device l st =>
    obtain ⟨hfresh, hflag, hstop⟩ := h
    cases a <;> simp only [Option.some_inj, reduceCtorEq] at hnext <;> subst hnext
    case device name =>
      refine budgeted_decide (hfresh.cons rfl rfl rfl) fun ht ↦ ?_
      split_ifs at ht
      · simp at ht
      · exact absurd ht hstop
    case err => exact budgeted_decide (hfresh.cons rfl rfl rfl) fun ht ↦ absurd ht hstop
  case emitter l st target =>
    obtain rfl := hemitter trivial
    obtain rfl : _ = pc' := Option.some_inj.mp hnext
    exact budgeted_dispatch (h.1.cons rfl rfl rfl) fun ht ↦ any_cons_of_any (h.2 ht)
  case claim l =>
    obtain ⟨hfresh, hflag⟩ := h
    simp only [onFlag_eq_some] at hnext
    obtain ⟨rfl, rfl⟩ | ⟨rfl, rfl⟩ := hnext
    · exact ⟨hfresh.cons rfl rfl rfl, hflag⟩
    · exact hfresh.started (hfresh.flag.symm.trans hflag) rfl rfl rfl
  case ip4 l e =>
    obtain ⟨hfresh, hflag⟩ := h
    have hunrec : recorded turns = false := hfresh.flag.symm.trans hflag
    obtain ⟨rfl, rfl⟩ | ⟨rfl, rfl⟩ := onReply_eq_some.mp hnext
    · cases e <;> exact ⟨hfresh.cons rfl rfl rfl, hflag⟩
    · obtain ⟨hreads, hticks, -⟩ := hfresh.before hunrec
      exact ⟨hunrec, by rw [reads_cons_of_not rfl]; omega, hfresh.watching, rfl⟩
  case started l =>
    obtain ⟨hfresh, hflag⟩ := h
    obtain rfl := always_eq_some.mp hnext
    exact hfresh.started (hfresh.flag.symm.trans hflag) rfl rfl rfl
  case other l target =>
    obtain rfl := always_eq_some.mp hnext
    exact (h.cons rfl rfl rfl).toCounted
  -- The ways out only ever lead on.
  case timedOut =>
    obtain rfl := hemitter trivial
    obtain rfl : _ = pc' := Option.some_inj.mp hnext
    exact ⟨h.1, h.2.1, h.2.2, turns, rfl⟩
  case timeoutStopped =>
    obtain rfl := always_eq_some.mp hnext
    obtain ⟨hunrec, hreads, hlost, rest, hrest⟩ := h
    exact ⟨hunrec, hreads, hlost, a, rest, by rw [hrest]⟩
  case timeoutFailure =>
    obtain rfl := always_eq_some.mp hnext
    obtain ⟨hunrec, hreads, hlost, b, rest, hrest⟩ := h
    exact .inl ⟨hunrec, hreads, hlost, b, a, rest, by rw [hrest]⟩
  case lost =>
    obtain rfl := hemitter trivial
    obtain rfl : _ = pc' := Option.some_inj.mp hnext
    exact ⟨h.1, h.2.1, turns, rfl⟩
  case lostStopped =>
    obtain rfl := always_eq_some.mp hnext
    obtain ⟨hrec, hfailed, rest, hrest⟩ := h
    exact ⟨hrec, hfailed, a, rest, by rw [hrest]⟩
  case lostFailure =>
    obtain rfl := always_eq_some.mp hnext
    obtain ⟨hrec, hfailed, b, rest, hrest⟩ := h
    exact .inr (.inr (.inr ⟨hrec, hfailed, b, a, rest, by rw [hrest]⟩))
  case rollback =>
    obtain rfl := always_eq_some.mp hnext
    exact ⟨h.1, h.2.1, h.2.2.1, any_cons_of_any h.2.2.2⟩
  case rolledBack =>
    obtain rfl := always_eq_some.mp hnext
    exact ⟨h.1, h.2.1, h.2.2.1, any_cons_of_any h.2.2.2⟩
  case badIpConfig =>
    obtain rfl := always_eq_some.mp hnext
    exact .inr (.inl ⟨h.1, h.2.1, h.2.2.1, any_cons_of_any h.2.2.2⟩)
  case stopped st =>
    obtain rfl := always_eq_some.mp hnext
    exact ⟨h.1, h.2.1, h.2.2.1, any_cons_of_any h.2.2.2⟩
  case checkTeardown st =>
    have hover : (recorded ((.checkTeardown st, a) :: turns) = false →
        reads ((.checkTeardown st, a) :: turns) < maxTicksPreStarted) ∧
          failedReads ((.checkTeardown st, a) :: turns) = 0 ∧
          ((.checkTeardown st, a) :: turns).any Turn.isLost = false ∧
          ((.checkTeardown st, a) :: turns).any Turn.isTerminal = true :=
      ⟨h.1, h.2.1, h.2.2.1, any_cons_of_any h.2.2.2⟩
    obtain ⟨-, rfl⟩ | ⟨-, rfl⟩ := onFlag_eq_some.mp hnext
    · exact .inr (.inr (.inl hover))
    · exact hover
  case failure st =>
    obtain rfl := always_eq_some.mp hnext
    exact .inr (.inr (.inl ⟨h.1, h.2.1, h.2.2.1, any_cons_of_any h.2.2.2⟩))

end Counts

/-- There are at most 99 reads before the start. -/
theorem Budgeted.reads_le {turns : List Turn} {pc : PollerPc} (h : Budgeted turns pc)
    (hunrec : recorded turns = false) : reads turns ≤ 99 := by
  have hcounted {l : Polling} {pending : ℕ} (hc : Counted turns l pending) : reads turns ≤ 99 := by
    obtain ⟨hreads, hticks, -⟩ := hc.before hunrec
    rw [maxTicksPreStarted] at hticks
    omega
  cases pc
  case attach => exact h.elim
  case tick l => exact hcounted h
  case status l => exact hcounted h
  case other l target => exact hcounted h.toCounted
  case timedOut | timeoutStopped | timeoutFailure => exact Nat.le_of_eq h.2.1
  case rollback | rolledBack | badIpConfig => exact Nat.le_of_lt_succ h.2.1
  case stopped | checkTeardown | failure => exact Nat.le_of_lt_succ (h.1 hunrec)
  case lost | lostStopped | lostFailure => exact absurd (hunrec.symm.trans h.1) (by simp)
  case exited =>
    obtain h | h | h | h := h
    · exact Nat.le_of_eq h.2.1
    · exact Nat.le_of_lt_succ h.2.1
    · exact Nat.le_of_lt_succ (h.1 hunrec)
    · exact absurd (hunrec.symm.trans h.1) (by simp)
  all_goals exact hcounted h.1.toCounted

/-- After the start the session is given up exactly when the budget is used up. -/
theorem Budgeted.lost {turns : List Turn} {pc : PollerPc} (h : Budgeted turns pc) :
    (recorded turns = true → failedReads turns ≤ 6) ∧
      (pc = .lost ∨ turns.any Turn.isLost = true ↔
        recorded turns = true ∧ failedReads turns = 6) := by
  -- While the poller watches, fewer reads have failed.
  have hwatching (hpc : pc ≠ .lost) (hlost : turns.any Turn.isLost = false)
      (hlt : recorded turns = true → failedReads turns < 6) :
      (recorded turns = true → failedReads turns ≤ 6) ∧
        (pc = .lost ∨ turns.any Turn.isLost = true ↔
          recorded turns = true ∧ failedReads turns = 6) := by
    refine ⟨fun hrec ↦ (hlt hrec).le, fun hor ↦ ?_, fun ⟨hrec, hsix⟩ ↦ ?_⟩
    · exact absurd (hor.resolve_left hpc) (by simp [hlost])
    · exact absurd hsix (hlt hrec).ne
  have hgiven (hlost : pc = .lost ∨ turns.any Turn.isLost = true) (hrec : recorded turns = true)
      (hsix : failedReads turns = 6) :
      (recorded turns = true → failedReads turns ≤ 6) ∧
        (pc = .lost ∨ turns.any Turn.isLost = true ↔
          recorded turns = true ∧ failedReads turns = 6) :=
    ⟨fun _ ↦ hsix.le, fun _ ↦ ⟨hrec, hsix⟩, fun _ ↦ hlost⟩
  cases pc
  case attach => exact h.elim
  case tick l => exact hwatching (by simp) h.watching fun hrec ↦ (h.after hrec).2
  case status l => exact hwatching (by simp) h.watching fun hrec ↦ (h.after hrec).2
  case other l target => exact hwatching (by simp) h.watching fun hrec ↦ (h.after hrec).2
  case timedOut => exact hwatching (by simp) h.2.2 fun hrec ↦ absurd (h.1.symm.trans hrec) (by simp)
  case timeoutStopped | timeoutFailure | rollback | rolledBack | badIpConfig =>
    exact hwatching (by simp) h.2.2.1 fun hrec ↦ absurd (h.1.symm.trans hrec) (by simp)
  case stopped | checkTeardown | failure =>
    exact hwatching (by simp) h.2.2.1 fun _ ↦ by rw [h.2.1]; decide
  case lost => exact hgiven (.inl rfl) h.1 h.2.1
  case lostStopped =>
    obtain ⟨hrec, hsix, rest, hrest⟩ := h
    exact hgiven (.inr (by rw [hrest]; rfl)) hrec hsix
  case lostFailure =>
    obtain ⟨hrec, hsix, a, rest, hrest⟩ := h
    exact hgiven (.inr (by rw [hrest]; rfl)) hrec hsix
  case exited =>
    obtain ⟨hunrec, -, hlost, -⟩ | ⟨hunrec, -, hlost, -⟩ | ⟨-, hzero, hlost, -⟩ |
      ⟨hrec, hsix, a, b, rest, hrest⟩ := h
    · exact hwatching (by simp) hlost fun hrec ↦ absurd (hunrec.symm.trans hrec) (by simp)
    · exact hwatching (by simp) hlost fun hrec ↦ absurd (hunrec.symm.trans hrec) (by simp)
    · exact hwatching (by simp) hlost fun _ ↦ by rw [hzero]; decide
    · exact hgiven (.inr (by rw [hrest]; rfl)) hrec hsix
  all_goals exact hwatching (by simp) h.1.watching fun hrec ↦ (h.1.after hrec).2

/-- The counts agree along every path. -/
theorem PollerPath.budgeted {i : ℕ} {turns : List Turn} {pc : PollerPc}
    (path : PollerPath i turns pc) : Budgeted turns pc := by
  induction path with
  | loop => exact ⟨rfl, fun _ ↦ ⟨rfl, by decide, rfl⟩, by simp [recorded], rfl⟩
  | turn _ hcode hnext hemitter ih => exact ih.turn hcode hnext hemitter

/-! ## Every path ends -/

/-- A bound on the turns that are left before the next read is due, for a poller that does not
record the start. -/
def PollerPc.credit : PollerPc → ℕ
  | .tick _ => 8
  | .status _ => 7
  | .device _ _ => 11
  | .emitter _ _ _ => 10
  | .attach | .claim _ | .other _ _ | .stopped _ => 9
  | .ip4 _ .reads | .checkTeardown _ => 8
  | .ip4 _ .config | .timedOut | .lost | .failure _ => 7
  | .ip4 _ .ip4Config | .timeoutStopped | .lostStopped => 6
  | .started _ | .rollback | .timeoutFailure | .lostFailure => 5
  | .rolledBack => 4
  | .badIpConfig => 3
  | .exited => 0

namespace PollerPc

theorem credit_decide {l : Polling} {st : Option Status} {target : Option NmVpnServiceState} :
    (PollerPc.decide l st target).credit ≤ 10 := by
  cases target <;> simp [PollerPc.decide, credit]

theorem credit_dispatch {l : Polling} {st : Option Status} {target : NmVpnServiceState} :
    (dispatch l st target).credit ≤ 9 := by
  cases target <;> simp only [dispatch] <;> (try split_ifs) <;> simp [credit]

theorem credit_wake {l : Polling} : (wake l).credit ≤ 7 := by
  simp only [wake]
  split_ifs <;> simp [credit]

theorem credit_le (pc : PollerPc) : pc.credit ≤ 11 := by
  unfold credit
  split <;> omega

end PollerPc

/-- A turn that records no start uses up credit, which a read renews. -/
theorem credit_turn {i n : ℕ} {turns : List Turn} {pc pc' : PollerPc} {op : Op}
    {next : Answer → Option PollerPc} {a : Answer} (hlen : n + pc.credit ≤ 5 * reads turns + 8)
    (hcode : pc.code i = some (op, next)) (hnext : next a = some pc')
    (hemitter : pc.MakesEmitter → a = .ok) (hrec : Turn.records (pc, a) = false) :
    n + 1 + pc'.credit ≤ 5 * reads ((pc, a) :: turns) + 8 := by
  cases pc <;> cases hcode
  case status l =>
    have hcredit := pc'.credit_le
    rw [reads_cons_status]
    simp only [PollerPc.credit] at hlen
    omega
  all_goals rw [reads_cons_of_not rfl]
  all_goals simp only [PollerPc.credit] at hlen
  case tick l =>
    obtain rfl := always_eq_some.mp hnext
    have := PollerPc.credit_wake (l := l)
    omega
  case device l st =>
    cases a <;> simp only [Option.some_inj, reduceCtorEq] at hnext <;> subst hnext
    all_goals
      have := @PollerPc.credit_decide l st
      exact (Nat.add_le_add_left this _).trans (by omega)
  case emitter l st target =>
    obtain rfl := hemitter trivial
    obtain rfl : _ = pc' := Option.some_inj.mp hnext
    have := @PollerPc.credit_dispatch l st target
    omega
  case claim l =>
    obtain ⟨rfl, rfl⟩ | ⟨rfl, rfl⟩ := onFlag_eq_some.mp hnext
    · simp only [PollerPc.credit]
      omega
    · simp [Turn.records] at hrec
  case ip4 l e =>
    obtain ⟨rfl, rfl⟩ | ⟨rfl, rfl⟩ := onReply_eq_some.mp hnext <;> cases e <;>
      simp only [PollerPc.credit, Ip4Pc.next, Option.elim] at hlen ⊢ <;> omega
  case started l => simp [Turn.records] at hrec
  all_goals simp only [always_eq_some, onReply_eq_some, onFlag_eq_some] at hnext
  all_goals first
    | obtain rfl := hnext
    | obtain ⟨rfl, rfl⟩ | ⟨rfl, rfl⟩ := hnext
  all_goals simp only [PollerPc.credit]
  all_goals omega

/-- Before the start the turns are bounded by the reads. -/
theorem PollerPath.length_le {i : ℕ} {turns : List Turn} {pc : PollerPc}
    (path : PollerPath i turns pc) (hunrec : recorded turns = false) :
    turns.length + pc.credit ≤ 5 * reads turns + 8 := by
  induction path with
  | loop => exact le_refl 8
  | turn _ hcode hnext hemitter ih =>
    rw [recorded_cons, Bool.or_eq_false_iff] at hunrec
    exact credit_turn (ih hunrec.2) hcode hnext hemitter hunrec.1

/-- The poller does not get stuck. -/
theorem PollerPath.exists_turn {i : ℕ} {turns : List Turn} {pc : PollerPc}
    (path : PollerPath i turns pc) (hpc : pc ≠ .exited) :
    ∃ a pc', PollerPath i ((pc, a) :: turns) pc' := by
  have hstep : ∃ op next a pc', pc.code i = some (op, next) ∧ next a = some pc' ∧
      (pc.MakesEmitter → a = .ok) := by
    cases pc
    case status l => exact ⟨_, _, .err, _, rfl, rfl, fun h ↦ h.elim⟩
    case device l st => exact ⟨_, _, .err, _, rfl, rfl, fun h ↦ h.elim⟩
    case claim l => exact ⟨_, _, .flag true, _, rfl, rfl, fun h ↦ h.elim⟩
    case checkTeardown st => exact ⟨_, _, .flag true, _, rfl, rfl, fun h ↦ h.elim⟩
    case exited => exact absurd rfl hpc
    all_goals exact ⟨_, _, .ok, _, rfl, rfl, fun _ ↦ rfl⟩
  obtain ⟨op, next, a, pc', hcode, hnext, hemitter⟩ := hstep
  exact ⟨a, pc', .turn path hcode hnext hemitter⟩

/-! ## The report -/

section Report

variable (env : Env) {w : World} {i : ℕ} {p : Path} {pc pc' : PollerPc}

/-- The poller goes on by itself, and its signals are sent. -/
def ByPoller (i : ℕ) (acts : List Action) : Prop :=
  ∀ act ∈ acts, act = .run (.background i .poller) .ok

/-- Where the poller sets a state, the state is set a few steps later. -/
theorem run_setState {state : NmVpnServiceState} (hexited : w.exited = false)
    (howed : w.owed (.background i .poller) = none) (hspawned : w.spawned i .poller = some p)
    (hpc : w.pc (.background i .poller) = pc)
    (hcode : pc.code i = some (.setState state, always pc')) :
    ∃ acts w', ByPoller i acts ∧ (machine env).run w acts = some w' ∧ w'.exited = false ∧
      w'.owed (.background i .poller) = none ∧ w'.spawned i .poller = some p ∧
      w'.pc (.background i .poller) = pc' ∧ w'.state = state ∧ w'.flags = w.flags := by
  have hprog : ∀ w₁ : World, w₁.spawned i .poller = some p →
      w₁.pc (.background i .poller) = pc →
      program env w₁ (.background i .poller) = some (.setState state, always pc') :=
    fun w₁ hs hp ↦ by simp [program, hs, hp, hcode]
  by_cases hstate : w.state = state
  · -- The state is set already, and no change is signalled.
    have hexec : exec (.background i .poller) w (.setState state) .ok =
        some (.flag false, w.note (.background i .poller) (.set state false)) := if_pos hstate
    refine ⟨[.run (.background i .poller) .ok],
      (w.note (.background i .poller) (.set state false)).goto (.background i .poller) pc',
      by simp [ByPoller], ?_, hexited, howed, hspawned, Function.update_self .., hstate, rfl⟩
    rw [Machine.run, step_complete hexited howed (hprog w hspawned hpc) hexec howed rfl]
    rfl
  · -- The change is signalled in a step of its own.
    obtain ⟨w₁, hw₁⟩ : ∃ w₁, w₁ = ({ w with state := state }.note (.background i .poller)
        (.set state true)).owe (.background i .poller) (some (.stateChanged state)) := ⟨_, rfl⟩
    have howes : w₁.owed (.background i .poller) = some (.stateChanged state) := by
      rw [hw₁]
      exact Function.update_self ..
    have hexec : exec (.background i .poller) w (.setState state) .ok = some (.flag true, w₁) := by
      rw [hw₁]
      exact if_neg hstate
    have hstep : (machine env).step w (.run (.background i .poller) .ok) = some w₁ := by
      simp [machine, step, runTask, hexited, howed, hprog w hspawned hpc, hexec, howes]
    have hsettle : (machine env).step w₁ (.run (.background i .poller) .ok) = some
        ((emit (.background i .poller) w₁ (.stateChanged state) .ok).goto
          (.background i .poller) pc') :=
      step_settle (show w₁.exited = false by rw [hw₁]; exact hexited) howes
        (hprog w₁ (by rw [hw₁]; exact hspawned) (by rw [hw₁]; exact hpc)) rfl rfl
    refine ⟨[.run (.background i .poller) .ok, .run (.background i .poller) .ok],
      (emit (.background i .poller) w₁ (.stateChanged state) .ok).goto (.background i .poller) pc',
      by simp [ByPoller], ?_, ?_⟩
    · rw [Machine.run, hstep, Option.bind_some, Machine.run, hsettle]
      rfl
    · rw [hw₁]
      exact ⟨hexited, Function.update_self .., hspawned, Function.update_self .., rfl, rfl⟩

/-- Where the poller emits a failure, the failure is signalled, unless one was before. -/
theorem run_emitFailure {reason : NmVpnPluginFailure} (hexited : w.exited = false)
    (howed : w.owed (.background i .poller) = none) (hspawned : w.spawned i .poller = some p)
    (hpc : w.pc (.background i .poller) = pc)
    (hcode : pc.code i = some (.emitFailureOnce i reason, always pc')) :
    ∃ acts w', ByPoller i acts ∧ (machine env).run w acts = some w' ∧
      w'.pc (.background i .poller) = pc' ∧ w'.state = w.state ∧
      ((w.flags i).failureEmitted = false →
        (.background i .poller, .sent (.failure reason)) ∈ w'.history) := by
  have hprog : ∀ w₁ : World, w₁.spawned i .poller = some p →
      w₁.pc (.background i .poller) = pc →
      program env w₁ (.background i .poller) = some (.emitFailureOnce i reason, always pc') :=
    fun w₁ hs hp ↦ by simp [program, hs, hp, hcode]
  by_cases hflag : (w.flags i).failureEmitted = true
  · have hexec : exec (.background i .poller) w (.emitFailureOnce i reason) .ok =
        some (.flag false, w) := if_pos hflag
    refine ⟨[.run (.background i .poller) .ok], w.goto (.background i .poller) pc',
      by simp [ByPoller], ?_, Function.update_self .., rfl,
      fun h ↦ absurd (hflag.symm.trans h) (by simp)⟩
    rw [Machine.run, step_complete hexited howed (hprog w hspawned hpc) hexec howed rfl]
    rfl
  · obtain ⟨w₁, hw₁⟩ : ∃ w₁, w₁ = (w.setFlags i fun f ↦ { f with failureEmitted := true }).owe
        (.background i .poller) (some (.failure reason)) := ⟨_, rfl⟩
    have howes : w₁.owed (.background i .poller) = some (.failure reason) := by
      rw [hw₁]
      exact Function.update_self ..
    have hexec : exec (.background i .poller) w (.emitFailureOnce i reason) .ok =
        some (.flag true, w₁) := by
      rw [hw₁]
      exact if_neg hflag
    have hstep : (machine env).step w (.run (.background i .poller) .ok) = some w₁ := by
      simp [machine, step, runTask, hexited, howed, hprog w hspawned hpc, hexec, howes]
    have hsettle : (machine env).step w₁ (.run (.background i .poller) .ok) = some
        ((emit (.background i .poller) w₁ (.failure reason) .ok).goto
          (.background i .poller) pc') :=
      step_settle (show w₁.exited = false by rw [hw₁]; exact hexited) howes
        (hprog w₁ (by rw [hw₁]; exact hspawned) (by rw [hw₁]; exact hpc)) rfl rfl
    refine ⟨[.run (.background i .poller) .ok, .run (.background i .poller) .ok],
      (emit (.background i .poller) w₁ (.failure reason) .ok).goto (.background i .poller) pc',
      by simp [ByPoller], ?_, Function.update_self .., by rw [hw₁]; rfl,
      fun _ ↦ List.mem_cons_self⟩
    rw [Machine.run, hstep, Option.bind_some, Machine.run, hsettle]
    rfl

/-- Both of the poller's last reports set the state and signal that the connection failed. -/
theorem run_report (hexited : w.exited = false) (howed : w.owed (.background i .poller) = none)
    (hspawned : w.spawned i .poller = some p)
    (hpc : w.pc (.background i .poller) = PollerPc.timeoutStopped ∨
      w.pc (.background i .poller) = PollerPc.lostStopped) :
    ∃ acts w', ByPoller i acts ∧ (machine env).run w acts = some w' ∧
      w'.pc (.background i .poller) = PollerPc.exited ∧ w'.state = .stopped ∧
      ((w.flags i).failureEmitted = false →
        (.background i .poller, .sent (.failure .connectFailed)) ∈ w'.history) := by
  have key {pc₁ pc₂ : PollerPc} (hpc : w.pc (.background i .poller) = pc₁)
      (h₁ : pc₁.code i = some (.setState .stopped, always pc₂))
      (h₂ : pc₂.code i = some (.emitFailureOnce i .connectFailed, always .exited)) :
      ∃ acts w', ByPoller i acts ∧ (machine env).run w acts = some w' ∧
        w'.pc (.background i .poller) = PollerPc.exited ∧ w'.state = .stopped ∧
        ((w.flags i).failureEmitted = false →
          (.background i .poller, .sent (.failure .connectFailed)) ∈ w'.history) := by
    obtain ⟨acts, w₁, hacts, hrun, hexited₁, howed₁, hspawned₁, hpc₁, hstate, hflags⟩ :=
      run_setState env hexited howed hspawned hpc h₁
    obtain ⟨acts', w', hacts', hrun', hpc', hstate', hsent⟩ :=
      run_emitFailure env hexited₁ howed₁ hspawned₁ hpc₁ h₂
    refine ⟨acts ++ acts', w', ?_, ?_, hpc', hstate'.trans hstate, hflags ▸ hsent⟩
    · exact List.forall_mem_append.mpr ⟨hacts, hacts'⟩
    · rw [Machine.run_append, hrun, Option.bind_some, hrun']
  obtain hpc | hpc := hpc
  · exact key hpc rfl rfl
  · exact key hpc rfl rfl

end Report

/-! ## The budgets -/

/-- **The poller's budgets are exact.** Before the start there are at most 99 reads on a path, every
path ends, and without a terminal status or a failed configuration it ends with the report that the
session never started. After the start the session is given up exactly when six reads in a row have
failed. Either report sets the state and signals the failure. -/
theorem poller_budgets (env : Env) (i : ℕ) :
    (∀ turns pc, PollerPath i turns pc →
      (recorded turns = false → reads turns ≤ 99 ∧ turns.length ≤ 503 ∧
        (pc = .exited → turns.any Turn.isTerminal = true ∨ turns.any Turn.failsIp4 = true ∨
          (reads turns = 99 ∧ TimedOut turns))) ∧
      (recorded turns = true → failedReads turns ≤ 6) ∧
      (pc = .lost ∨ turns.any Turn.isLost = true ↔
        recorded turns = true ∧ failedReads turns = 6) ∧
      (pc = .exited → turns.any Turn.isLost = true → ReportsLost turns) ∧
      (pc ≠ .exited → ∃ a pc', PollerPath i ((pc, a) :: turns) pc')) ∧
    (∀ (w : World) (p : Path), w.exited = false → w.owed (.background i .poller) = none →
      w.spawned i .poller = some p →
      w.pc (.background i .poller) = PollerPc.timeoutStopped ∨
        w.pc (.background i .poller) = PollerPc.lostStopped →
      ∃ acts w', ByPoller i acts ∧ (machine env).run w acts = some w' ∧
        w'.pc (.background i .poller) = PollerPc.exited ∧ w'.state = .stopped ∧
        ((w.flags i).failureEmitted = false →
          (.background i .poller, .sent (.failure .connectFailed)) ∈ w'.history)) := by
  refine ⟨fun turns pc path ↦ ⟨fun hunrec ↦ ?_, fun hrec ↦ ?_, ?_, ?_, path.exists_turn⟩,
    fun w p hexited howed hspawned hpc ↦ run_report env hexited howed hspawned hpc⟩
  · have hreads : reads turns ≤ 99 := path.budgeted.reads_le hunrec
    have hlen := path.length_le hunrec
    refine ⟨hreads, by omega, ?_⟩
    rintro rfl
    obtain ⟨-, hreads, -, hout⟩ | ⟨-, -, -, hip4⟩ | ⟨-, -, -, hterm⟩ | ⟨hrec, -⟩ := path.budgeted
    · exact .inr (.inr ⟨hreads, hout⟩)
    · exact .inr (.inl hip4)
    · exact .inl hterm
    · exact absurd (hunrec.symm.trans hrec) (by simp)
  · exact path.budgeted.lost.1 hrec
  · exact path.budgeted.lost.2
  · rintro rfl hlost
    obtain ⟨-, -, hnot, -⟩ | ⟨-, -, hnot, -⟩ | ⟨-, -, hnot, -⟩ | ⟨-, -, hreports⟩ := path.budgeted
    · exact absurd (hlost.symm.trans hnot) (by simp)
    · exact absurd (hlost.symm.trans hnot) (by simp)
    · exact absurd (hlost.symm.trans hnot) (by simp)
    · exact hreports

end Plugin

end NmOpenvpn3
