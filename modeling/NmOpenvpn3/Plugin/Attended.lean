import NmOpenvpn3.Plugin.Accounts

/-!
# Background tasks and their session

A background task is spawned for a session that the plugin owns, and is aborted when the plugin lets
go of it. So a task that is not aborted belongs to the live session, `tasks_of_session`. Backwards,
a session is only connected when it is the plugin's own and is listened to,
`connects_attended_session`.
-/

namespace NmOpenvpn3

namespace Plugin

open Rust Ovpn Service Concurrent

variable {env : Env} {w w' : World} {t : TaskId} {op : Op} {reply a : Answer} {i : ℕ}

/-! ## Phases of `connect` -/

/-- What a `Connect` call has made of its session. -/
inductive Phase where
  | before
  | owns (session : Path)
  | attends (session : Path)
  | after
  deriving DecidableEq

def ConnectPc.phase : ConnectPc → Phase
  | .dispatched | .checkActive | .clearTeardown | .profile | .starting | .preImport | .importConfig
  | .overrides _ | .newTunnel _ | .stash _ _ => .before
  | .stashed p | .waitReady p | .spawnListeners p => .owns p
  | .grantAccess p | .beforeConnect p | .sessionConnect p | .armPoller p => .attends p
  | .removeConfig _ | .cleanup _ | .sessionDisconnect _ _ | .retryDisconnect _ _ | .removeTaken _
  | .failed | .stopped | .failure | .replying _ | .replied _ => .after

/-- What holds of the tasks of an activation in a phase. -/
def Phase.Holds (w : World) (i : ℕ) : Phase → Prop
  | .before => ∀ b, w.spawned i b = none
  | .owns _ => w.session.flags = some i ∧ ∀ b, w.spawned i b = none
  | .attends p => w.session.flags = some i ∧
      ∀ b ∈ [Background.listener, .attention], w.spawned i b = some p ∧ w.aborted i b = false
  | .after => True

/-- The operations on the session and on what is spawned and aborted. -/
def Op.moves : Op → Bool
  | .stash _ _ _ _ _ | .spawn _ _ _ | .cleanup | .takeSession => true
  | _ => false

/-- How the phases of `connect` follow each other. -/
theorem ConnectPc.phase_step {data : VpnData} {secrets : SecretsMap} {pc pc' : ConnectPc}
    {next : Answer → Option ConnectPc} (hcode : pc.code i data secrets = some (op, next))
    (hnext : next a = some pc') :
    op.moves = false ∧ (pc'.phase = .after ∨ pc'.phase = pc.phase) ∨
      (∃ c p, op = .stash i c p data secrets ∧ pc.phase = .before ∧ pc'.phase = .owns p) ∨
      (∃ p, op = .spawn i p [.listener, .attention] ∧ pc.phase = .owns p ∧
        pc'.phase = .attends p) ∨
      (∃ p, op = .spawn i p [.poller] ∧ pc.phase = .attends p ∧ pc'.phase = .after) ∨
      op = .cleanup ∧ pc'.phase = .after := by
  cases pc <;> cases hcode
  case importConfig | newTunnel | cleanup =>
    cases a <;> simp at hnext <;> simp [← hnext, phase, Op.moves]
  case sessionDisconnect p c | retryDisconnect p c =>
    simp only [onReply_eq_some] at hnext
    obtain ⟨-, rfl⟩ | ⟨-, rfl⟩ := hnext <;> cases c <;> exact .inl ⟨rfl, .inl rfl⟩
  all_goals
    simp only [always_eq_some, onReply_eq_some, onFlag_eq_some] at hnext
    first
      | obtain rfl := hnext
      | obtain ⟨rfl, rfl⟩ | ⟨rfl, rfl⟩ := hnext
    all_goals simp [phase, Op.moves]

/-! ## The invariant -/

/-- Every task that was spawned belongs to the session, or is aborted, and every `Connect` call is
in its phase. -/
structure Attended (w : World) : Prop where
  live : ∀ i b p, w.spawned i b = some p → w.aborted i b = false →
    w.session.sessionPath = some p ∧ w.session.flags = some i ∧ (i, b) ∈ w.session.tasks
  tasks : ∀ i b, (i, b) ∈ w.session.tasks → w.spawned i b ≠ none
  aborted : ∀ i b, w.aborted i b = true → w.spawned i b ≠ none
  phase : ∀ i, (ConnectPc.phase (w.pc (.connect i))).Holds w i

/-- Other operations leave the session and the tasks alone. -/
theorem exec_of_not_moves (h : exec t w op reply = some (a, w')) (hop : op.moves = false) :
    w'.session.sessionPath = w.session.sessionPath ∧ w'.session.flags = w.session.flags ∧
      w'.session.tasks = w.session.tasks ∧ w'.spawned = w.spawned ∧ w'.aborted = w.aborted := by
  unfold exec at h
  split at h <;> (try split_ifs at h) <;> cases h <;>
    first | exact ⟨rfl, rfl, rfl, rfl, rfl⟩ | simp [Op.moves] at hop

theorem Phase.Holds.congr {ph : Phase} (h : ph.Holds w i)
    (hflags : w'.session.flags = w.session.flags) (hspawned : w'.spawned = w.spawned)
    (haborted : w'.aborted = w.aborted) : ph.Holds w' i := by
  cases ph <;> simp only [Holds, hflags, hspawned, haborted] at h ⊢ <;> exact h

theorem Attended.congr (hw : Attended w)
    (hsame : w'.session.sessionPath = w.session.sessionPath ∧ w'.session.flags = w.session.flags ∧
      w'.session.tasks = w.session.tasks ∧ w'.spawned = w.spawned ∧ w'.aborted = w.aborted)
    (hphase : ∀ i, (ConnectPc.phase (w'.pc (.connect i))).Holds w i) : Attended w' := by
  obtain ⟨hp, hf, ht, hs, ha⟩ := hsame
  refine ⟨?_, ?_, ?_, fun i ↦ (hphase i).congr hf hs ha⟩
  · rw [hp, hf, ht, hs, ha]
    exact hw.live
  · rw [ht, hs]
    exact hw.tasks
  · rw [hs, ha]
    exact hw.aborted

/-- A `Connect` call that does not hold the lock has no session. -/
theorem Phase.Holds.of_unlocked {pc : ConnectPc} (h : pc.phase.Holds w i)
    (hlocked : pc.holding.locked = false) (hspawned : w'.spawned i = w.spawned i) :
    pc.phase.Holds w' i := by
  cases pc <;> simp [ConnectPc.holding, Holding.free] at hlocked <;>
    simp only [ConnectPc.phase, Holds, hspawned] at h ⊢
  exact h

/-! ## The operations that move -/

/-- Only the holder of the lock is elsewhere than at the ends of `connect`. -/
theorem Accounted.unlocked (hw : Accounted w (holdings w)) (hl : w.lock = some t)
    (hne : TaskId.connect i ≠ t) : (ConnectPc.holding (w.pc (.connect i))).locked = false := by
  rw [← Bool.not_eq_true]
  intro hlocked
  have := hw.holder (t := .connect i) hlocked
  exact hne (Option.some_inj.mp (this.symm.trans hl))

/-- The phases of the other `Connect` calls last while one takes a step under the lock. -/
theorem Attended.others (hw : Attended w) (hacc : Accounted w (holdings w)) (hl : w.lock = some t)
    (hothers : ∀ j, TaskId.connect j ≠ t →
      w'.pc (.connect j) = w.pc (.connect j) ∧ w'.spawned j = w.spawned j)
    (hself : ∀ i, t = .connect i → (ConnectPc.phase (w'.pc (.connect i))).Holds w' i) :
    ∀ j, (ConnectPc.phase (w'.pc (.connect j))).Holds w' j := by
  intro j
  by_cases ht : t = .connect j
  · exact hself j ht
  · obtain ⟨hpc, hspawned⟩ := hothers j (Ne.symm ht)
    rw [hpc]
    exact (hw.phase j).of_unlocked (hacc.unlocked hl (Ne.symm ht)) hspawned

/-- A session is stored where there is none. -/
theorem Attended.stash {c p : Path} {data : VpnData} {secrets : SecretsMap} {pc' : ConnectPc}
    (hw : Attended w) (hacc : Accounted w (holdings w)) (hl : w.lock = some (.connect i))
    (hnone : w.session.sessionPath = none) (hpc : (ConnectPc.phase (w.pc (.connect i))) = .before)
    (hpc' : pc'.phase = .owns p)
    (hexec : exec (.connect i) w (.stash i c p data secrets) reply = some (a, w')) :
    Attended (w'.goto (.connect i) pc') := by
  have hfree : ∀ b, w.spawned i b = none := by
    have := hw.phase i
    rwa [hpc] at this
  cases hexec
  refine ⟨fun j b q hs ha ↦ ?_, hw.tasks, hw.aborted, ?_⟩
  · -- Nothing runs while no session is owned.
    have hq := (hw.live j b q hs ha).1
    rw [hnone] at hq
    cases hq
  · refine hw.others hacc hl (fun j hj ↦ ⟨by simp [hj], rfl⟩) fun j ht ↦ ?_
    cases ht
    rw [World.goto_pc, Function.update_self, hpc']
    exact ⟨rfl, hfree⟩

/-- Tasks are spawned for the session that is owned. -/
theorem Attended.spawn {p : Path} {bs : List Background} {pc' : ConnectPc}
    (hw : Attended w) (hacc : Accounted w (holdings w)) (hl : w.lock = some (.connect i))
    (hsession : w.session.sessionPath = some p) (hflags : w.session.flags = some i)
    (hpc' : pc'.phase = .after ∨ bs = [.listener, .attention] ∧ pc'.phase = .attends p ∧
      ∀ b, w.spawned i b = none)
    (hexec : exec (.connect i) w (.spawn i p bs) reply = some (a, w')) :
    Attended (w'.goto (.connect i) pc') := by
  cases hexec
  refine ⟨fun j b q hs ha ↦ ?_, fun j b hb ↦ ?_, fun j b hb ↦ ?_, ?_⟩
  · simp only [World.goto_spawned] at hs
    split_ifs at hs with hnew
    · obtain ⟨rfl, hb⟩ := hnew
      obtain rfl := Option.some_inj.mp hs
      exact ⟨hsession, hflags, List.mem_append_right _ (List.mem_map_of_mem hb)⟩
    · obtain ⟨hq, hj, hb⟩ := hw.live j b q hs ha
      exact ⟨hq, hj, List.mem_append_left _ hb⟩
  · simp only [World.goto_spawned]
    split_ifs with hnew
    · exact Option.some_ne_none p
    · obtain hb | hb := List.mem_append.mp hb
      · exact hw.tasks j b hb
      · obtain ⟨b', hb', heq⟩ := List.mem_map.mp hb
        obtain ⟨rfl, rfl⟩ := Prod.mk.inj heq
        exact absurd ⟨rfl, hb'⟩ hnew
  · simp only [World.goto_spawned]
    split_ifs with hnew
    · exact Option.some_ne_none p
    · exact hw.aborted j b hb
  · refine hw.others hacc hl (fun j hj ↦ ?_) fun j ht ↦ ?_
    · have hne : j ≠ i := fun h ↦ hj (congrArg TaskId.connect h)
      exact ⟨by simp [hj], funext fun b ↦ by simp [hne]⟩
    · cases ht
      rw [World.goto_pc, Function.update_self]
      obtain hafter | ⟨rfl, hattends, hfree⟩ := hpc'
      · rw [hafter]
        trivial
      · rw [hattends]
        refine ⟨hflags, fun b hb ↦ ⟨by simp_all, ?_⟩⟩
        -- A task that has not been spawned has not been aborted either.
        rw [← Bool.not_eq_true]
        exact fun hab ↦ hw.aborted i b hab (hfree b)

/-- All tasks are aborted with the session they belong to. -/
theorem Attended.drop {pc : Pc t} (hw : Attended w) (hacc : Accounted w (holdings w))
    (hl : w.lock = some t) (hspawned : w'.spawned = w.spawned) (htasks : w'.session.tasks = [])
    (haborted : w'.aborted = fun i b ↦ w.aborted i b || decide ((i, b) ∈ w.session.tasks))
    (hpc : w'.pc = w.pc)
    (hself : ∀ i, t = .connect i → ConnectPc.phase ((w'.goto t pc).pc (.connect i)) = .after) :
    Attended (w'.goto t pc) := by
  refine ⟨fun j b q hs ha ↦ ?_, fun j b hb ↦ ?_, fun j b hb ↦ ?_, ?_⟩
  · rw [World.goto_spawned, hspawned] at hs
    simp only [World.goto_aborted, haborted, Bool.or_eq_false_iff, decide_eq_false_iff_not] at ha
    exact absurd (hw.live j b q hs ha.1).2.2 ha.2
  · rw [World.goto_session, htasks] at hb
    cases hb
  · rw [World.goto_spawned, hspawned]
    simp only [World.goto_aborted, haborted, Bool.or_eq_true, decide_eq_true_eq] at hb
    exact hb.elim (hw.aborted j b) (hw.tasks j b)
  · refine hw.others hacc hl (fun j hj ↦ ⟨by simp [hj, hpc], ?_⟩) fun j ht ↦ ?_
    · exact congrFun hspawned j
    · rw [hself j ht]
      trivial

/-! ## Runs -/

/-- A step that moves nothing leaves every `Connect` call in its phase, or past its session. -/
theorem Attended.stay {next : Answer → Option (Pc t)} {pc : Pc t} (hw : Attended w)
    (hprog : program env w t = some (op, next)) (hnext : next a = some pc)
    (hop : op.moves = false) :
    ∀ j, (ConnectPc.phase ((Function.update w.pc t pc) (.connect j))).Holds w j := by
  intro j
  by_cases ht : t = .connect j
  · subst ht
    rw [Function.update_self]
    obtain ⟨-, hafter | hsame⟩ | ⟨c, p, rfl, -⟩ | ⟨p, rfl, -⟩ | ⟨p, rfl, -⟩ | ⟨rfl, -⟩ :=
      ConnectPc.phase_step hprog hnext
    · rw [hafter]
      trivial
    · rw [hsame]
      exact hw.phase j
    all_goals cases hop
  · rw [Function.update_of_ne (Ne.symm ht)]
    exact hw.phase j

/-- A `Connect` call stores its session, spawns its tasks, or cleans up. -/
theorem Attended.connect {next : Answer → Option ConnectPc} {pc : ConnectPc} (hw : Attended w)
    (hacc : Accounted w (holdings w)) (hprog : program env w (.connect i) = some (op, next))
    (hexec : exec (.connect i) w op reply = some (a, w')) (hnext : next a = some pc)
    (hop : op.moves = true) : Attended (w'.goto (.connect i) pc) := by
  obtain ⟨h, hrule, -⟩ := program_rule hprog hnext
  obtain ⟨hno, -⟩ | ⟨c, p, rfl, hpc, hpc'⟩ | ⟨p, rfl, hpc, hpc'⟩ | ⟨p, rfl, hpc, hpc'⟩ |
    ⟨rfl, hpc'⟩ := ConnectPc.phase_step hprog hnext
  · exact absurd (hop.symm.trans hno) (by simp)
  · have hl := hacc.holder (t := .connect i) (by rw [holdings, hrule.1])
    have hnone := hacc.slot _ none hl (by rw [holdings, hrule.1])
    exact hw.stash hacc hl hnone hpc hpc' hexec
  · have hl := hacc.holder (t := .connect i) hrule.1
    have howns := hw.phase i
    rw [hpc] at howns
    exact hw.spawn hacc hl (hacc.slot _ _ hl hrule.2.1) howns.1 (.inr ⟨rfl, hpc', howns.2⟩) hexec
  · have hl := hacc.holder (t := .connect i) hrule.1
    have hattends := hw.phase i
    rw [hpc] at hattends
    exact hw.spawn hacc hl (hacc.slot _ _ hl hrule.2.1) hattends.1 (.inl hpc') hexec
  · cases hexec
    refine hw.drop hacc (hacc.holder (t := .connect i) hrule.1) rfl rfl rfl rfl fun j ht ↦ ?_
    cases ht
    rw [World.goto_pc, Function.update_self, hpc']

/-- Every step of a task keeps the invariant. -/
theorem TaskStep.attended (hw : Attended w) (hacc : Accounted w (holdings w))
    (h : TaskStep env w t reply w') : Attended w' := by
  cases h with
  | @complete op next a w₁ pc hprog howed hexec howed' hnext =>
    have hof := program_of hprog
    cases hop : op.moves with
    | false =>
      have hkept := exec_of_not_moves hexec hop
      refine hw.congr (show _ ∧ _ ∧ _ ∧ (w₁.goto t pc).spawned = _ ∧ _ from hkept) fun j ↦ ?_
      rw [World.goto_pc, exec_pc hexec]
      exact hw.stay hprog hnext hop j
    | true =>
      cases op <;> simp only [Op.moves, Bool.false_eq_true] at hop
      case takeSession =>
        obtain ⟨j, rfl⟩ := hof
        obtain ⟨h, hrule, -⟩ := program_rule hprog hnext
        cases hexec
        exact hw.drop hacc (hacc.holder (t := .disconnect j) hrule.1) rfl rfl rfl rfl
          fun _ ht ↦ by cases ht
      case cleanup =>
        obtain ⟨i, rfl⟩ := hof
        exact hw.connect hacc hprog hexec hnext rfl
      all_goals
        obtain rfl := hof
        exact hw.connect hacc hprog hexec hnext rfl
  | update hprog howed hstate => exact hw.congr ⟨rfl, rfl, rfl, rfl, rfl⟩ hw.phase
  | win hprog howed hflag => exact hw.congr ⟨rfl, rfl, rfl, rfl, rfl⟩ hw.phase
  | @settle op next signal pc hprog howed hsignal hnext =>
    have hop : op.moves = false := by
      obtain ⟨new, rfl, -⟩ | ⟨i, reason, rfl, -⟩ := Op.of_signal hsignal <;> rfl
    refine hw.congr (by cases reply <;> exact ⟨rfl, rfl, rfl, rfl, rfl⟩) fun j ↦ ?_
    rw [World.goto_pc, emit_pc]
    exact hw.stay hprog hnext hop j

theorem attended_init : Attended .init :=
  ⟨by simp [World.init], by simp [World.init, SessionState.default], by simp [World.init],
    fun _ _ ↦ rfl⟩

/-- The tasks belong to the session along every run. -/
theorem attended_of_reachable (h : (machine env).Reachable w) : Attended w := by
  refine invariant_of_steps (C := fun _ _ ↦ True) attended_init ?_ ?_ ?_ h
  · intro w t reply w' hreach _ hw hstep
    exact hstep.attended hw (accounted_of_reachable hreach)
  · intro w i b _ hw
    exact hw.congr ⟨rfl, rfl, rfl, rfl, rfl⟩ fun j ↦ by simpa using hw.phase j
  · intro w hw
    exact hw.congr ⟨rfl, rfl, rfl, rfl, rfl⟩ hw.phase

/-- With a session in the state, it is the only one of the backend. -/
theorem Accounted.sessions_eq {p : Path} {H : TaskId → Holding} (hw : Accounted w H)
    (hp : w.session.sessionPath = some p) : w.sessions = [p] := by
  have hhand := hw.sessions.single.resolve_right (by simp [sessionCustody, hp])
  have := hw.sessions.accounted
  rwa [hhand, show (sessionCustody w H).slot = some p from hp] at this

/-- **A task that has not been aborted belongs to the live session.** The session it was spawned for
is the one in the session state and the only one that the backend has for the plugin, the shared
flags are those of the task's own `Connect` call, and its handle is among those that the end of the
session aborts. -/
theorem tasks_of_session (h : (machine env).Reachable w) {b : Background} {p : Path}
    (hspawned : w.spawned i b = some p) (hlive : w.aborted i b = false) :
    w.session.sessionPath = some p ∧ w.sessions = [p] ∧ w.session.flags = some i ∧
      (i, b) ∈ w.session.tasks := by
  obtain ⟨hp, hi, hmem⟩ := (attended_of_reachable h).live i b p hspawned hlive
  exact ⟨hp, (accounted_of_reachable h).sessions_eq hp, hi, hmem⟩

/-- The poller of a session that has come up. -/
theorem tasks_of_session_sample :
    (((machine sampleEnv).run .init connectRun).getD .init).session.sessionPath =
      some "/session" :=
  (tasks_of_session (i := 0) (b := .poller) (p := "/session")
    (Machine.reachable_getD_run (Machine.reachable_of_init rfl) connectRun) rfl rfl).1

/-- **A session is connected under the lock, as the plugin's own and with its listeners.** Whenever
`connect` is about to tell the backend to bring a session up, the session is the one in the session
state and the only one of the backend, the flags are those of this call, and both tasks that hear of
the session's progress are spawned for it and not aborted. -/
theorem connects_attended_session (h : (machine env).Reachable w) {p : Path}
    (hpc : w.pc (.connect i) = ConnectPc.sessionConnect p) :
    w.lock = some (.connect i) ∧ w.session.sessionPath = some p ∧ w.sessions = [p] ∧
      w.session.flags = some i ∧ ∀ b ∈ [Background.listener, .attention],
        w.spawned i b = some p ∧ w.aborted i b = false ∧ (i, b) ∈ w.session.tasks := by
  have hacc := accounted_of_reachable h
  have hatt := attended_of_reachable h
  have hl := hacc.holder (t := .connect i) (by rw [holdings, Pc.holding, hpc]; rfl)
  have hp := hacc.slot _ (some p) hl (by rw [holdings, Pc.holding, hpc]; rfl)
  have hphase := hatt.phase i
  rw [hpc] at hphase
  refine ⟨hl, hp, hacc.sessions_eq hp, hphase.1, fun b hb ↦ ?_⟩
  obtain ⟨hspawned, hlive⟩ := hphase.2 b hb
  exact ⟨hspawned, hlive, (hatt.live i b p hspawned hlive).2.2⟩

theorem connects_attended_session_sample :
    (((machine sampleEnv).run .init (connectRun.take 16)).getD .init).sessions = ["/session"] :=
  (connects_attended_session (i := 0) (p := "/session")
    (Machine.reachable_getD_run (Machine.reachable_of_init rfl) (connectRun.take 16)) rfl).2.2.1

end Plugin

end NmOpenvpn3
