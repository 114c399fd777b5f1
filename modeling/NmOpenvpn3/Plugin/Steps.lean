import NmOpenvpn3.Plugin.World

/-!
# What a step can do

The steps of the machine, each with the program point it is taken at. Proofs about runs start from
`step_cases` and never unfold `step`.
-/

namespace NmOpenvpn3

namespace Plugin

open Rust Ovpn Service Concurrent

variable {env : Env} {w w' : World} {t t' : TaskId} {op : Op} {reply a : Answer}

/-! ## Operations -/

theorem exec_pc (h : exec t w op reply = some (a, w')) : w'.pc = w.pc := by
  unfold exec at h
  split at h <;> (try split_ifs at h) <;> cases h <;> rfl

theorem exec_exited (h : exec t w op reply = some (a, w')) : w'.exited = w.exited := by
  unfold exec at h
  split at h <;> (try split_ifs at h) <;> cases h <;> rfl

theorem exec_owed_of_ne (h : exec t w op reply = some (a, w')) (hne : t' ≠ t) :
    w'.owed t' = w.owed t' := by
  unfold exec at h
  split at h <;> (try split_ifs at h) <;> cases h <;> first | rfl | simp [hne]

/-- The events that an operation may record. -/
def Op.Records : Op → Event → Prop
  | .setTeardown b, e => e = .teardown b
  | .newTunnel, e => ∃ p, e = .created p
  | .setState new, e => ∃ changed, e = .set new changed
  | .send signal, e => e = .sent signal
  | .claimIp4 i, e => e = .claimedIp4 i
  | .clearIp4 i, e => e = .clearedIp4 i
  | .fetchSlots p, e => ∃ slots, e = .fetched p slots
  | .takePending _ _, e => ∃ p, e = .took p
  | .provideInput p slot value, e => e = .provided p slot value
  | _, _ => False

theorem Op.records_sent {signal : Signal} : op.Records (.sent signal) ↔ op = .send signal := by
  cases op <;> simp [Records, eq_comm]

theorem Op.records_set {new : NmVpnServiceState} {changed : Bool} :
    op.Records (.set new changed) ↔ op = .setState new := by
  cases op <;> simp [Records, eq_comm]

theorem Op.records_provided {p : Path} {slot : InputSlot} {value : String} :
    op.Records (.provided p slot value) ↔ op = .provideInput p slot value := by
  cases op <;> simp [Records, eq_comm]

theorem Op.signal_stateChanged {new : NmVpnServiceState} :
    op.signal = some (.stateChanged new) ↔ op = .setState new := by
  cases op <;> simp [signal]

theorem Op.signal_failure {reason : NmVpnPluginFailure} :
    op.signal = some (.failure reason) ↔ ∃ i, op = .emitFailureOnce i reason := by
  cases op <;> simp [signal]

theorem Op.of_signal {signal : Signal} (h : op.signal = some signal) :
    (∃ new, op = .setState new ∧ signal = .stateChanged new) ∨
      ∃ i reason, op = .emitFailureOnce i reason ∧ signal = .failure reason := by
  cases op <;> cases h <;> simp

/-- An operation records nothing or one event. -/
theorem exec_history (h : exec t w op reply = some (a, w')) :
    w'.history = w.history ∨ ∃ e, op.Records e ∧ w'.history = (t, e) :: w.history := by
  unfold exec at h
  split at h <;> (try split_ifs at h) <;> cases h <;> simp [Op.Records]

theorem exec_history_suffix (h : exec t w op reply = some (a, w')) : w.history <:+ w'.history := by
  obtain hh | ⟨e, -, hh⟩ := exec_history h
  · exact hh ▸ List.suffix_rfl
  · exact hh ▸ List.suffix_cons _ _

/-- An operation that has made its update owes a signal. -/
theorem exec_owes (h : exec t w op reply = some (a, w')) (howed : w.owed t = none)
    (howed' : w'.owed t ≠ none) :
    (∃ new, op = .setState new ∧ w.state ≠ new ∧
      w' = ({ w with state := new }.note t (.set new true)).owe t (some (.stateChanged new))) ∨
    ∃ i reason, op = .emitFailureOnce i reason ∧ (w.flags i).failureEmitted = false ∧
      w' = (w.setFlags i fun f ↦ { f with failureEmitted := true }).owe t
        (some (.failure reason)) := by
  unfold exec at h
  split at h <;> (try split_ifs at h) <;> cases h
  all_goals first
    | exact absurd howed howed'
    | exact .inl ⟨_, rfl, ‹_›, rfl⟩
    | exact .inr ⟨_, _, rfl, eq_false_of_ne_true ‹_›, rfl⟩

/-! ## Who does what -/

/-- The tasks that an operation belongs to. -/
def Op.Of (t : TaskId) : Op → Prop
  | .acquire | .release | .configRemove _ | .sessionDisconnect _ =>
    (∃ i, t = .connect i) ∨ ∃ j, t = .disconnect j
  | .setTeardown b => if b then ∃ j, t = .disconnect j else ∃ i, t = .connect i
  | .sessionActive | .importConfig | .newTunnel | .cleanup => ∃ i, t = .connect i
  | .stash i _ _ _ _ | .spawn i _ _ => t = .connect i
  | .takeSession | .quit => ∃ j, t = .disconnect j
  | .takePending _ _ => ∃ j, t = .newSecrets j
  | .teardownRequested => (∃ i, t = .connect i) ∨ ∃ j, t = .newSecrets j
  | .setState _ => (∃ i, t = .connect i) ∨ (∃ j, t = .disconnect j) ∨
      ∃ i, t = .background i .listener ∨ t = .background i .poller
  | .emitFailureOnce i _ | .disconnectRequested i => ∃ b, t = .background i b
  | .claimIp4 i | .clearIp4 i => t = .background i .listener ∨ t = .background i .poller
  | .fetchSlots _ | .snapshot _ | .stashPending _ => ∃ i, t = .background i .attention
  | .provideInput _ _ _ => (∃ i, t = .background i .attention) ∨ ∃ j, t = .newSecrets j
  | .send .config | .send .ip4Config =>
    ∃ i, t = .background i .listener ∨ t = .background i .poller
  | .send (.failure _) => ∃ i, t = .connect i
  | .send (.secretsRequired _ _) => ∃ i, t = .background i .attention
  | .send (.stateChanged _) => False
  | .call => True

theorem program_of {next : Answer → Option (Pc t)} (hprog : program env w t = some (op, next)) :
    op.Of t := by
  match t with
  | .connect i =>
    simp only [program] at hprog
    cases hpc : w.pc (.connect i) <;> rw [hpc] at hprog <;> cases hprog <;> simp [Op.Of]
  | .disconnect i =>
    simp only [program] at hprog
    cases hpc : w.pc (.disconnect i) <;> rw [hpc] at hprog <;> cases hprog <;> simp [Op.Of]
  | .newSecrets i =>
    simp only [program] at hprog
    cases hpc : w.pc (.newSecrets i) <;> rw [hpc] at hprog <;> cases hprog <;> simp [Op.Of]
  -- The reads and signals of `ip4::emit` are those of both emitting tasks.
  | .background i .listener =>
    obtain ⟨-, -, hcode⟩ := Option.bind_eq_some_iff.mp hprog
    cases hpc : w.pc (.background i .listener) <;> rw [hpc] at hcode <;> cases hcode
    case ip4 e => cases e <;> simp [Ip4Pc.op, Op.Of]
    all_goals simp [Op.Of]
  | .background i .poller =>
    obtain ⟨-, -, hcode⟩ := Option.bind_eq_some_iff.mp hprog
    cases hpc : w.pc (.background i .poller) <;> rw [hpc] at hcode <;> cases hcode
    case ip4 l e => cases e <;> simp [Ip4Pc.op, Op.Of]
    all_goals simp [Op.Of]
  | .background i .attention =>
    obtain ⟨p, -, hcode⟩ := Option.bind_eq_some_iff.mp hprog
    cases hpc : w.pc (.background i .attention) <;> rw [hpc] at hcode <;> cases hcode <;>
      simp [Op.Of]

/-! ## Steps -/

/-- A step of a task. -/
inductive TaskStep (env : Env) (w : World) (t : TaskId) (reply : Answer) : World → Prop where
  /-- The operation is done, and the task goes on. -/
  | complete {op : Op} {next : Answer → Option (Pc t)} {a : Answer} {w' : World} {pc : Pc t}
      (hprog : program env w t = some (op, next)) (howed : w.owed t = none)
      (hexec : exec t w op reply = some (a, w')) (howed' : w'.owed t = none)
      (hnext : next a = some pc) : TaskStep env w t reply (w'.goto t pc)
  /-- The cached state is updated; the signal is owed. -/
  | update {new : NmVpnServiceState} {next : Answer → Option (Pc t)}
      (hprog : program env w t = some (.setState new, next)) (howed : w.owed t = none)
      (hstate : w.state ≠ new) : TaskStep env w t reply
        (({ w with state := new }.note t (.set new true)).owe t (some (.stateChanged new)))
  /-- The failure flag is won; the signal is owed. -/
  | win {i : ℕ} {reason : NmVpnPluginFailure} {next : Answer → Option (Pc t)}
      (hprog : program env w t = some (.emitFailureOnce i reason, next)) (howed : w.owed t = none)
      (hflag : (w.flags i).failureEmitted = false) : TaskStep env w t reply
        ((w.setFlags i fun f ↦ { f with failureEmitted := true }).owe t (some (.failure reason)))
  /-- An owed signal is sent, or the emission fails, and the task goes on. -/
  | settle {op : Op} {next : Answer → Option (Pc t)} {signal : Signal} {pc : Pc t}
      (hprog : program env w t = some (op, next)) (howed : w.owed t = some signal)
      (hsignal : op.signal = some signal) (hnext : next (.flag true) = some pc) :
      TaskStep env w t reply ((emit t w signal reply).goto t pc)

@[simp] theorem emit_pc {signal : Signal} : (emit t w signal reply).pc = w.pc := by
  unfold emit
  split <;> rfl

theorem emit_history {signal : Signal} : (emit t w signal reply).history = w.history ∨
    reply = .ok ∧ (emit t w signal reply).history = (t, .sent signal) :: w.history := by
  cases reply <;> simp [emit]

@[simp] theorem emit_owed_self {signal : Signal} : (emit t w signal reply).owed t = none := by
  unfold emit
  split <;> simp

theorem emit_owed_of_ne {signal : Signal} (hne : t' ≠ t) :
    (emit t w signal reply).owed t' = w.owed t' := by
  unfold emit
  split <;> simp [hne]

theorem TaskStep.exists_program (h : TaskStep env w t reply w') :
    ∃ (op : Op) (next : Answer → Option (Pc t)), program env w t = some (op, next) := by
  cases h <;> exact ⟨_, _, ‹_›⟩

/-- A step of a task leaves the other tasks where they are. -/
theorem TaskStep.pc_of_ne (h : TaskStep env w t reply w') (hne : t' ≠ t) : w'.pc t' = w.pc t' := by
  cases h with
  | complete hprog howed hexec howed' hnext => simp [exec_pc hexec, hne]
  | update | win => rfl
  | settle => simp [hne]

theorem TaskStep.exited (h : TaskStep env w t reply w') : w'.exited = w.exited := by
  cases h with
  | complete hprog howed hexec howed' hnext => rw [World.goto_exited, exec_exited hexec]
  | update | win => rfl
  | settle => cases reply <;> rfl

theorem TaskStep.owed_of_ne (h : TaskStep env w t reply w') (hne : t' ≠ t) :
    w'.owed t' = w.owed t' := by
  cases h with
  | complete hprog howed hexec howed' hnext =>
    rw [World.goto_owed, exec_owed_of_ne hexec hne]
  | update | win => simp [hne]
  | settle =>
    rw [World.goto_owed]
    exact emit_owed_of_ne hne

/-- A step records nothing, or one event that its operation accounts for. -/
theorem TaskStep.history (h : TaskStep env w t reply w') :
    w'.history = w.history ∨ ∃ (op : Op) (next : Answer → Option (Pc t)) (e : Event),
      program env w t = some (op, next) ∧ w'.history = (t, e) :: w.history ∧
        (op.Records e ∨
          ∃ signal, op.signal = some signal ∧ w.owed t = some signal ∧ e = .sent signal) := by
  cases h with
  | complete hprog howed hexec howed' hnext =>
    rw [World.goto_history]
    exact (exec_history hexec).imp_right fun ⟨e, hrec, hh⟩ ↦ ⟨_, _, e, hprog, hh, .inl hrec⟩
  | @update new next hprog howed hstate =>
    exact .inr ⟨_, _, .set new true, hprog, rfl, .inl ⟨true, rfl⟩⟩
  | win => exact .inl rfl
  | @settle op next signal pc hprog howed hsignal hnext =>
    rw [World.goto_history]
    cases reply with
    | ok => exact .inr ⟨_, _, .sent signal, hprog, rfl, .inr ⟨signal, hsignal, howed, rfl⟩⟩
    | _ => exact .inl rfl

/-- Events are never forgotten. -/
theorem TaskStep.history_suffix (h : TaskStep env w t reply w') : w.history <:+ w'.history := by
  obtain hh | ⟨op, next, e, -, hh, -⟩ := h.history
  · exact hh ▸ List.suffix_rfl
  · exact hh ▸ List.suffix_cons _ _

theorem taskStep_of_runTask (h : runTask env w t reply = some w') : TaskStep env w t reply w' := by
  obtain ⟨⟨op, next⟩, hprog, h⟩ := Option.bind_eq_some_iff.mp h
  cases howed : w.owed t with
  | some signal =>
    simp only [howed] at h
    split_ifs at h with hsignal
    obtain ⟨pc, hnext, rfl⟩ := Option.map_eq_some_iff.mp h
    exact .settle hprog howed hsignal hnext
  | none =>
    simp only [howed] at h
    obtain ⟨⟨a, w₁⟩, hexec, h⟩ := Option.bind_eq_some_iff.mp h
    simp only at h
    split_ifs at h with howed'
    · obtain rfl := Option.some_inj.mp h
      obtain ⟨new, rfl, hstate, rfl⟩ | ⟨i, reason, rfl, hflag, rfl⟩ :=
        exec_owes hexec howed (by simpa using Option.isSome_iff_ne_none.mp howed')
      · exact .update hprog howed hstate
      · exact .win hprog howed hflag
    · obtain ⟨pc, hnext, rfl⟩ := Option.map_eq_some_iff.mp h
      exact .complete hprog howed hexec (by simpa using howed') hnext

/-- The steps of the machine. -/
theorem step_cases {act : Action} (h : (machine env).step w act = some w') :
    w.exited = false ∧
      ((∃ t reply, act = .run t reply ∧ TaskStep env w t reply w') ∨
       (∃ i b, act = .cancel i b ∧ w.aborted i b = true ∧
        w' = (w.owe (.background i b) none).goto (.background i b) (Pc.exited i b)) ∨
       (act = .mainReturns ∧ w.quits ≠ 0 ∧ w' = { w with exited := true })) := by
  cases act with
  | run t reply =>
    simp only [machine, step] at h
    split_ifs at h with hex
    exact ⟨by simpa using hex, .inl ⟨t, reply, rfl, taskStep_of_runTask h⟩⟩
  | cancel i b =>
    simp only [machine, step] at h
    split_ifs at h with hex hab
    exact ⟨by simpa using hex, .inr (.inl ⟨i, b, rfl, hab, (Option.some_inj.mp h).symm⟩)⟩
  | mainReturns =>
    simp only [machine, step] at h
    split_ifs at h with hex
    rw [not_or] at hex
    exact ⟨by simpa using hex.1, .inr (.inr ⟨rfl, hex.2, (Option.some_inj.mp h).symm⟩)⟩

/-- What holds at first and is kept by the steps of the tasks, by cancellations and by the end of
the process holds in every state that is reached. -/
theorem invariant_of_steps {C : World → Action → Prop} {I : World → Prop} (hinit : I .init)
    (htask : ∀ w t reply w', (machine env).Reachable w → C w (.run t reply) → I w →
      TaskStep env w t reply w' → I w')
    (hcancel : ∀ w i b, C w (.cancel i b) → I w →
      I ((w.owe (.background i b) none).goto (.background i b) (Pc.exited i b)))
    (hexit : ∀ w, I w → I { w with exited := true }) (h : (machine env).ReachableBy C w) : I w := by
  refine h.invariant_of_reachable (by rintro _ rfl; exact hinit) ?_
  intro w act w' hreach hw hC hstep
  obtain ⟨-, ⟨t, reply, rfl, hrun⟩ | ⟨i, b, rfl, -, rfl⟩ | ⟨-, -, rfl⟩⟩ := step_cases hstep
  · exact htask w t reply w' hreach hC hw hrun
  · exact hcancel w i b hC hw
  · exact hexit w hw

/-- An operation that owes no signal takes its task on. -/
theorem step_complete {next : Answer → Option (Pc t)} {pc : Pc t} (hexited : w.exited = false)
    (howed : w.owed t = none) (hprog : program env w t = some (op, next))
    (hexec : exec t w op reply = some (a, w')) (howed' : w'.owed t = none)
    (hnext : next a = some pc) : (machine env).step w (.run t reply) = some (w'.goto t pc) := by
  simp [machine, step, runTask, hexited, howed, hprog, hexec, howed', hnext]

/-- An owed signal is sent, or fails to be, whatever else has happened since the update. -/
theorem step_settle {next : Answer → Option (Pc t)} {pc : Pc t} {signal : Signal}
    (hexited : w.exited = false) (howed : w.owed t = some signal)
    (hprog : program env w t = some (op, next)) (hsignal : op.signal = some signal)
    (hnext : next (.flag true) = some pc) :
    (machine env).step w (.run t reply) = some ((emit t w signal reply).goto t pc) := by
  simp [machine, step, runTask, hexited, howed, hprog, hsignal, hnext]

/-- A plain call, with whatever reply, only takes its task on. -/
theorem step_call {next : Answer → Option (Pc t)} {pc : Pc t} (hexited : w.exited = false)
    (howed : w.owed t = none) (hprog : program env w t = some (.call, next))
    (hnext : next reply = some pc) :
    (machine env).step w (.run t reply) = some (w.goto t pc) :=
  step_complete hexited howed hprog rfl howed hnext

/-! ## Laws of the history -/

/-- A law is kept by a step if the event that it records keeps it. -/
theorem step_keeps {P : TaskId × Event → List (TaskId × Event) → Prop} {act : Action}
    (hkeeps : Keeps P w.history)
    (hevent : ∀ t reply op next e, act = .run t reply → program env w t = some (op, next) →
      (op.Records e ∨
        ∃ signal, op.signal = some signal ∧ w.owed t = some signal ∧ e = .sent signal) →
      P (t, e) w.history)
    (h : (machine env).step w act = some w') : Keeps P w'.history := by
  obtain ⟨-, ⟨t, reply, rfl, htask⟩ | ⟨i, b, -, -, rfl⟩ | ⟨-, -, rfl⟩⟩ := step_cases h
  · obtain hh | ⟨op, next, e, hprog, hh, he⟩ := htask.history
    · rwa [hh]
    · rw [hh]
      exact ⟨hevent t reply op next e rfl hprog he, hkeeps⟩
  · exact hkeeps
  · exact hkeeps

theorem step_history_suffix {act : Action} (h : (machine env).step w act = some w') :
    w.history <:+ w'.history := by
  obtain ⟨-, ⟨t, reply, rfl, htask⟩ | ⟨i, b, -, -, rfl⟩ | ⟨-, -, rfl⟩⟩ := step_cases h
  · exact htask.history_suffix
  · exact List.suffix_rfl
  · exact List.suffix_rfl

end Plugin

end NmOpenvpn3
