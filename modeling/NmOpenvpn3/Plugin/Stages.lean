import NmOpenvpn3.Plugin.Activations

/-!
# Stages of a background task

A background task watches its session until there is something to report. The stages say how far it
is with a report: with the configuration that one of the listener and the poller emits when the
tunnel is up, with the announcement of the start, or with a failure. The programs are annotated with
their stages, and `program_advance` says how each operation moves between them.
-/

namespace NmOpenvpn3

namespace Plugin

open Rust Ovpn Service Concurrent

/-- What a background task is about. While it is `emitting` or `reverting`, it has the flag
`ip4_emitted`; while it is `failing`, it is on its way to a failure signal. -/
inductive Stage where
  | watching | emitting | reverting | announcing | failing | over
  deriving DecidableEq

def ListenerPc.stage : ListenerPc → Stage
  | .attach | .wait | .emitter _ _ | .claim | .stopped _ | .checkTeardown _ => .watching
  | .ip4 _ => .emitting
  | .rollback => .reverting
  | .skipped | .started => .announcing
  | .rolledBack | .badIpConfig | .failure _ => .failing
  -- A start does not get here; it is told apart before.
  | .other target => if target = .started then .announcing else .watching
  | .exited => .over

def PollerPc.stage : PollerPc → Stage
  | .attach | .tick _ | .status _ | .device _ _ | .emitter _ _ _ | .claim _ | .stopped _
  | .checkTeardown _ => .watching
  | .ip4 _ _ => .emitting
  | .rollback => .reverting
  | .started _ => .announcing
  | .timedOut | .timeoutStopped | .timeoutFailure | .rolledBack | .badIpConfig | .failure _ | .lost
  | .lostStopped | .lostFailure => .failing
  | .other _ target => if target = .started then .announcing else .watching
  | .exited => .over

def AttentionPc.stage : AttentionPc → Stage
  | .failedEmitter | .failure => .failing
  | .exited => .over
  | _ => .watching

/-- The stage of a background task. The handlers have none to speak of. -/
def Pc.stage : (t : TaskId) → Pc t → Stage
  | .background _ .listener, pc => ListenerPc.stage pc
  | .background _ .poller, pc => PollerPc.stage pc
  | .background _ .attention, pc => AttentionPc.stage pc
  | _, _ => .watching

/-- How an operation moves a background task from stage to stage. -/
def Op.Advance (b : Background) : Op → Answer → Stage → Stage → Prop
  | .claimIp4 _, .flag true, s, s' => s = .watching ∧ s' = .emitting
  -- The listener announces a start that it has not emitted the configuration for.
  | .claimIp4 _, .flag false, s, s' =>
    s = .watching ∧ s' = if b = .listener then .announcing else .watching
  | .send .ip4Config, .ok, s, s' => s = .emitting ∧ s' = .announcing
  | .send .config, .ok, s, s' => s = .emitting ∧ s' = .emitting
  | .send .config, .err, s, s' | .send .ip4Config, .err, s, s' => s = .emitting ∧ s' = .reverting
  | .clearIp4 _, _, s, s' => s = .reverting ∧ s' = .failing
  | .setState .started, _, s, s' => s = .announcing ∧ s' = .watching
  | .setState .stopped, _, s, s' => (s = .watching ∨ s = .failing) ∧ s' = s
  | .setState _, _, s, s' => s = .watching ∧ s' = .watching
  | .emitFailureOnce _ _, _, s, s' => s = .failing ∧ s' = .over
  | .disconnectRequested _, .flag value, s, s' =>
    s = .watching ∧ s' = if value then .over else .failing
  | .call, .ok, s, s' => s = .emitting ∧ s' = .emitting ∨
      (s = .watching ∨ s = .failing) ∧ (s' = .watching ∨ s' = .failing ∨ s' = .over)
  | .call, _, s, s' => s = .emitting ∧ s' = .reverting ∨
      (s = .watching ∨ s = .failing) ∧ (s' = .watching ∨ s' = .failing ∨ s' = .over)
  | _, _, s, s' => s = .watching ∧ s' = .watching

/-! ## The listener -/

section Listener

variable {op : Op} {a : Answer} {i : ℕ} {pc pc' : ListenerPc} {next : Answer → Option ListenerPc}

theorem ListenerPc.stage_dispatch (st : Status) (target : NmVpnServiceState) :
    (ListenerPc.dispatch st target).stage = .watching := by
  cases target <;> rfl

theorem ListenerPc.advance (hcode : pc.code i = some (op, next)) (hnext : next a = some pc') :
    op.Advance .listener a pc.stage pc'.stage := by
  cases pc <;> cases hcode
  case wait =>
    cases a <;> simp only [Option.some_inj, reduceCtorEq] at hnext
    all_goals subst hnext
    case status major minor =>
      cases Status.fromWire major minor with
      | none => simp [Op.Advance, stage]
      | some st => cases h : st.toNmState <;> simp [Op.Advance, stage, h]
    all_goals simp [Op.Advance, stage]
  case emitter st target =>
    simp only [onReply_eq_some] at hnext
    obtain ⟨rfl, rfl⟩ | ⟨rfl, rfl⟩ := hnext
    · simp [Op.Advance, stage_dispatch, stage.eq_def (.emitter st target)]
    · simp [Op.Advance, stage]
  -- An `ip4::emit` in progress keeps the flag; an error leads to the rollback.
  case ip4 e =>
    cases e <;> simp only [Ip4Pc.op, Ip4Pc.next, Option.elim, onReply_eq_some] at hnext ⊢ <;>
      obtain ⟨rfl, rfl⟩ | ⟨rfl, rfl⟩ := hnext <;> simp [Op.Advance, stage]
  -- The annotation of this point depends on the state that it assigns.
  case other target =>
    obtain rfl := always_eq_some.mp hnext
    cases target <;> simp [Op.Advance, stage]
  all_goals simp only [always_eq_some, onReply_eq_some, onFlag_eq_some] at hnext
  all_goals first
    | obtain rfl := hnext
    | obtain ⟨rfl, rfl⟩ | ⟨rfl, rfl⟩ := hnext
  all_goals simp [Op.Advance, stage]

end Listener

/-! ## The poller -/

section Poller

variable {op : Op} {a : Answer} {i : ℕ} {pc pc' : PollerPc} {next : Answer → Option PollerPc}

namespace PollerPc

theorem stage_wake (l : Polling) :
    (wake l).stage = .watching ∨ (wake l).stage = .failing := by
  simp only [wake]
  split_ifs
  · exact .inr rfl
  · exact .inl rfl

theorem stage_decide (l : Polling) (st : Option Status) (target : Option NmVpnServiceState) :
    (PollerPc.decide l st target).stage = .watching := by
  cases target <;> rfl

theorem stage_dispatch (l : Polling) (st : Option Status) (target : NmVpnServiceState) :
    (dispatch l st target).stage = .watching := by
  cases target <;> simp only [dispatch] <;> (try split_ifs) <;> rfl

theorem stage_read (l : Polling) (st : Option Status) : (read l st).stage = .watching := by
  simp only [read]
  split_ifs
  · rfl
  · exact stage_decide ..

theorem stage_unread (l : Polling) :
    (unread l).stage = .watching ∨ (unread l).stage = .failing := by
  simp only [unread]
  split_ifs
  · exact .inl rfl
  · exact .inr rfl
  · exact .inl rfl

theorem advance (hcode : pc.code i = some (op, next)) (hnext : next a = some pc') :
    op.Advance .poller a pc.stage pc'.stage := by
  cases pc <;> cases hcode
  -- After the sleep the poller reads the status, or its polls are used up.
  case tick l =>
    obtain rfl := always_eq_some.mp hnext
    obtain h | h := stage_wake l <;> cases a <;> simp [Op.Advance, h, stage.eq_def (.tick l)]
  case status l =>
    cases a <;> simp only [Option.some_inj, reduceCtorEq] at hnext <;> subst hnext
    case status major minor => simp [Op.Advance, stage_read, stage.eq_def (.status l)]
    case err => obtain h | h := stage_unread l <;> simp [Op.Advance, h, stage.eq_def (.status l)]
  case device l st =>
    cases a <;> simp only [Option.some_inj, reduceCtorEq] at hnext <;> subst hnext <;>
      simp [Op.Advance, stage_decide, stage.eq_def (.device l st)]
  case emitter l st target =>
    simp only [onReply_eq_some] at hnext
    obtain ⟨rfl, rfl⟩ | ⟨rfl, rfl⟩ := hnext
    · simp [Op.Advance, stage_dispatch, stage.eq_def (.emitter l st target)]
    · simp [Op.Advance, stage]
  case ip4 l e =>
    cases e <;> simp only [Ip4Pc.op, Ip4Pc.next, Option.elim, onReply_eq_some] at hnext ⊢ <;>
      obtain ⟨rfl, rfl⟩ | ⟨rfl, rfl⟩ := hnext <;> simp [Op.Advance, stage]
  case other l target =>
    obtain rfl := always_eq_some.mp hnext
    cases target <;> simp [Op.Advance, stage]
  all_goals simp only [always_eq_some, onReply_eq_some, onFlag_eq_some] at hnext
  all_goals first
    | obtain rfl := hnext
    | obtain ⟨rfl, rfl⟩ | ⟨rfl, rfl⟩ := hnext
  all_goals simp [Op.Advance, stage]

end PollerPc

end Poller

/-! ## The attention listener -/

section Attention

variable {op : Op} {a : Answer} {i : ℕ} {p : Path} {pc pc' : AttentionPc}
  {next : Answer → Option AttentionPc}

namespace AttentionPc

theorem stage_loop (msg : String) (data : VpnData) (secrets : SecretsMap)
    (slots needed : List InputSlot) :
    (AttentionPc.loop msg data secrets slots needed).stage = .watching := by
  induction slots generalizing needed with
  | nil =>
    unfold loop
    split_ifs <;> rfl
  | cons slot slots ih =>
    unfold loop
    split
    · rfl
    · exact ih _

theorem advance (hcode : pc.code i p = some (op, next)) (hnext : next a = some pc') :
    op.Advance .attention a pc.stage pc'.stage := by
  cases pc <;> cases hcode
  case wait | fetch =>
    cases a <;> simp only [Option.some_inj, reduceCtorEq] at hnext <;> subst hnext
    all_goals try split_ifs
    all_goals simp [Op.Advance, stage]
  case owned msg slots =>
    cases a <;> simp only [reduceCtorEq] at hnext
    case snapshot data secrets owned =>
      cases owned <;> simp only [Option.some_inj] at hnext <;> subst hnext
      · exact ⟨rfl, rfl⟩
      · exact ⟨rfl, stage_loop ..⟩
  case provide msg data secrets slot value rest needed =>
    simp only [onReply_eq_some] at hnext
    obtain ⟨rfl, rfl⟩ | ⟨rfl, rfl⟩ := hnext
    · exact ⟨rfl, stage_loop ..⟩
    · exact ⟨rfl, rfl⟩
  all_goals simp only [always_eq_some, onReply_eq_some, onFlag_eq_some] at hnext
  all_goals first
    | obtain rfl := hnext
    | obtain ⟨rfl, rfl⟩ | ⟨rfl, rfl⟩ := hnext
  all_goals simp [Op.Advance, stage]

end AttentionPc

end Attention

/-- The background tasks go through their stages. -/
theorem program_advance {env : Env} {w : World} {i : ℕ} {b : Background} {op : Op} {a : Answer}
    {next : Answer → Option (Pc (.background i b))} {pc : Pc (.background i b)}
    (hprog : program env w (.background i b) = some (op, next)) (hnext : next a = some pc) :
    op.Advance b a (Pc.stage (.background i b) (w.pc (.background i b)))
      (Pc.stage (.background i b) pc) := by
  match b with
  | .listener =>
    obtain ⟨-, -, hcode⟩ := Option.bind_eq_some_iff.mp hprog
    exact ListenerPc.advance hcode hnext
  | .poller =>
    obtain ⟨-, -, hcode⟩ := Option.bind_eq_some_iff.mp hprog
    exact PollerPc.advance hcode hnext
  | .attention =>
    obtain ⟨p, -, hcode⟩ := Option.bind_eq_some_iff.mp hprog
    exact AttentionPc.advance hcode hnext

/-- Every operation has an answer that its task goes on with, so that the annotation of a point can
be read off from its operation. -/
theorem program_stage {env : Env} {w : World} {i : ℕ} {b : Background} {op : Op}
    {next : Answer → Option (Pc (.background i b))}
    (hprog : program env w (.background i b) = some (op, next)) :
    ∃ a s', op.Advance b a (Pc.stage (.background i b) (w.pc (.background i b))) s' := by
  suffices ∃ a, (next a).isSome by
    obtain ⟨a, ha⟩ := this
    obtain ⟨pc, hpc⟩ := Option.isSome_iff_exists.mp ha
    exact ⟨a, _, program_advance hprog hpc⟩
  match b with
  | .listener =>
    obtain ⟨-, -, hcode⟩ := Option.bind_eq_some_iff.mp hprog
    cases hpc : w.pc (.background i .listener) <;> rw [hpc] at hcode <;> cases hcode <;>
      first | exact ⟨.ok, rfl⟩ | exact ⟨.err, rfl⟩ | exact ⟨.flag true, rfl⟩
  | .poller =>
    obtain ⟨-, -, hcode⟩ := Option.bind_eq_some_iff.mp hprog
    cases hpc : w.pc (.background i .poller) <;> rw [hpc] at hcode <;> cases hcode <;>
      first | exact ⟨.ok, rfl⟩ | exact ⟨.err, rfl⟩ | exact ⟨.flag true, rfl⟩
  | .attention =>
    obtain ⟨p, -, hcode⟩ := Option.bind_eq_some_iff.mp hprog
    cases hpc : w.pc (.background i .attention) <;> rw [hpc] at hcode <;> cases hcode <;>
      first
        | exact ⟨.ok, rfl⟩
        | exact ⟨.err, rfl⟩
        | exact ⟨.flag true, rfl⟩
        | exact ⟨.snapshot Dict.empty Dict.empty false, rfl⟩

/-! ## The stages of the running tasks -/

/-- The stage that a task is in. -/
def World.stage (w : World) (t : TaskId) : Stage := Pc.stage t (w.pc t)

section Steps

variable {env : Env} {w w' : World} {t t' : TaskId} {op : Op} {reply a : Answer} {i : ℕ}
  {b : Background}

@[simp] theorem stage_goto (pc : Pc t) : (w.goto t pc).stage t = Pc.stage t pc := by
  simp [World.stage]

theorem stage_goto_of_ne {pc : Pc t} (hne : t' ≠ t) : (w.goto t pc).stage t' = w.stage t' := by
  simp [World.stage, hne]

theorem stage_congr (hpc : w'.pc = w.pc) : w'.stage = w.stage := by
  funext t
  rw [World.stage, World.stage, hpc]

@[simp] theorem stage_exited : Pc.stage (.background i b) (Pc.exited i b) = .over := by
  cases b <;> rfl

theorem TaskStep.stage_of_ne (h : TaskStep env w t reply w') (hne : t' ≠ t) :
    w'.stage t' = w.stage t' := by
  rw [World.stage, World.stage, h.pc_of_ne hne]

@[simp] theorem stage_init : World.init.stage t = .watching := by
  match t with
  | .connect _ | .disconnect _ | .newSecrets _ => rfl
  | .background _ .listener | .background _ .poller | .background _ .attention => rfl

/-- A handler has no stages. -/
theorem stage_handler (ht : ∀ i b, t ≠ .background i b) : w.stage t = .watching := by
  match t with
  | .connect _ | .disconnect _ | .newSecrets _ => rfl
  | .background i b => exact absurd rfl (ht i b)

end Steps

end Plugin

end NmOpenvpn3
