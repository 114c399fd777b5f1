import NmOpenvpn3.Plugin.Failures

/-!
# The end of a session

After a failure signal NetworkManager takes the session for dead, and so does the timer of the
statistics, which looks at `failure_emitted` and stops. The listener and the poller do not look:
while one task signals a failure, another goes on, and may report that the session has started
(`failure_not_final_for_session`). `failure_final_for_session` is about the runs in which a report
and a failure keep out of each other's way.
-/

namespace NmOpenvpn3

namespace Plugin

open Rust Ovpn Service Concurrent

variable {env : Env} {w w' : World} {s t : TaskId} {op : Op} {reply a : Answer} {i : ℕ}
  {b : Background}

/-! ## Reports -/

/-- The listener emits the configuration, or sets another state than `Stopped`. -/
def ListenerPc.Reporting : ListenerPc → Prop
  | .skipped | .ip4 _ | .started | .other _ => True
  | _ => False

def PollerPc.Reporting : PollerPc → Prop
  | .ip4 _ _ | .started _ | .other _ _ => True
  | _ => False

/-- The program points at which a background task reports. -/
def Pc.Reporting : (t : TaskId) → Pc t → Prop
  | .background _ .listener, pc => ListenerPc.Reporting pc
  | .background _ .poller, pc => PollerPc.Reporting pc
  | _, _ => False

/-- A background task is in the middle of a report. -/
def Reporting (w : World) (i : ℕ) (b : Background) : Prop :=
  Pc.Reporting (.background i b) (w.pc (.background i b))

/-- The listener sets about a report when the session starts, whether or not it gets to emit the
configuration, and when the session is starting. -/
def ListenerPc.TakesUp : ListenerPc → Answer → Prop
  | .emitter _ target, reply => reply = .ok ∧ target ≠ .started ∧ target ≠ .stopped
  | .claim, _ => True
  | _, _ => False

/-- The poller does so only while it has not seen the start, and for the start only if nobody else
emits the configuration. -/
def PollerPc.TakesUp (emitted : Bool) : PollerPc → Answer → Prop
  | .emitter l _ target, reply =>
    reply = .ok ∧ l.ip4Emitted = false ∧ target ≠ .started ∧ target ≠ .stopped
  | .claim _, _ => emitted = false
  | _, _ => False

/-- The steps with which a background task sets about a report. -/
def Pc.TakesUp : (t : TaskId) → Pc t → Bool → Answer → Prop
  | .background _ .listener, pc, _, reply => ListenerPc.TakesUp pc reply
  | .background _ .poller, pc, emitted, reply => PollerPc.TakesUp emitted pc reply
  | _, _, _, _ => False

theorem ListenerPc.takesUp_of_next {pc pc' : ListenerPc} {next : Answer → Option ListenerPc}
    (hcode : pc.code i = some (op, next)) (hexec : exec t w op reply = some (a, w'))
    (hnext : next a = some pc') (h' : pc'.Reporting) : pc.Reporting ∨ pc.TakesUp reply := by
  cases pc <;> cases hcode
  case wait =>
    -- An event is only sorted here; the branches over it come with the next step.
    refine absurd h' ?_
    cases a <;> simp only [Option.some_inj, reduceCtorEq] at hnext <;> subst hnext
    case status major minor =>
      cases Status.fromWire major minor with
      | none => simp [Reporting]
      | some st => cases h : st.toNmState <;> simp [Reporting, h]
    all_goals simp [Reporting]
  case emitter st target =>
    cases hexec
    obtain ⟨rfl, rfl⟩ | ⟨-, rfl⟩ := onReply_eq_some.mp hnext
    · refine .inr ⟨rfl, ?_, ?_⟩ <;> rintro rfl <;> exact h'
    · exact absurd h' id
  case claim => exact .inr trivial
  case skipped | ip4 | started | other => exact .inl trivial
  all_goals simp only [always_eq_some, onReply_eq_some, onFlag_eq_some] at hnext
  all_goals first
    | obtain rfl := hnext
    | obtain ⟨-, rfl⟩ | ⟨-, rfl⟩ := hnext
  all_goals exact absurd h' id

theorem PollerPc.takesUp_of_next {pc pc' : PollerPc} {next : Answer → Option PollerPc}
    (hcode : pc.code i = some (op, next)) (hexec : exec t w op reply = some (a, w'))
    (hnext : next a = some pc') (h' : pc'.Reporting) :
    pc.Reporting ∨ pc.TakesUp (w.flags i).ip4Emitted reply := by
  have hdecide (l : Polling) (st : Option Status) (target : Option NmVpnServiceState) :
      ¬(PollerPc.decide l st target).Reporting := by
    cases target <;> exact id
  cases pc <;> cases hcode
  case tick l =>
    refine absurd h' ?_
    obtain rfl := always_eq_some.mp hnext
    simp only [wake]
    split_ifs <;> exact id
  case status l =>
    refine absurd h' ?_
    cases a <;> simp only [Option.some_inj, reduceCtorEq] at hnext <;> subst hnext
    · simp only [unread]
      split_ifs <;> exact id
    · simp only [read]
      split_ifs
      · exact id
      · exact hdecide _ _ _
  case device l st =>
    refine absurd h' ?_
    cases a <;> simp only [Option.some_inj, reduceCtorEq] at hnext <;> subst hnext <;>
      exact hdecide _ _ _
  case emitter l st target =>
    cases hexec
    obtain ⟨rfl, rfl⟩ | ⟨-, rfl⟩ := onReply_eq_some.mp hnext
    · -- Past the start the poller has nothing to report.
      cases target <;> simp only [dispatch] at h' <;> (try split_ifs at h' with hip4) <;>
        first
          | exact absurd h' id
          | exact .inr ⟨rfl, eq_false_of_ne_true hip4, by rintro ⟨⟩, by rintro ⟨⟩⟩
    · exact absurd h' id
  case claim l =>
    obtain ⟨rfl, -⟩ | ⟨-, rfl⟩ := onFlag_eq_some.mp hnext
    · simp only [exec] at hexec
      split_ifs at hexec with hflag
      · cases hexec
      · exact .inr (eq_false_of_ne_true hflag)
    · exact absurd h' id
  case ip4 | started | other => exact .inl trivial
  all_goals simp only [always_eq_some, onReply_eq_some, onFlag_eq_some] at hnext
  all_goals first
    | obtain rfl := hnext
    | obtain ⟨-, rfl⟩ | ⟨-, rfl⟩ := hnext
  all_goals exact absurd h' id

/-- Whoever has announced a state or a failure does not go on with a report. -/
theorem not_reporting_of_signal {signal : Signal} {next : Answer → Option (Pc (.background i b))}
    {pc : Pc (.background i b)} (hprog : program env w (.background i b) = some (op, next))
    (hsignal : op.signal = some signal) (hnext : next a = some pc) :
    ¬Pc.Reporting (.background i b) pc := by
  match b with
  | .listener =>
    obtain ⟨-, -, hcode⟩ := Option.bind_eq_some_iff.mp hprog
    cases hpc : w.pc (.background i .listener) <;> rw [hpc] at hcode <;> cases hcode
    case ip4 e => cases e <;> cases hsignal
    all_goals first
      | (cases hsignal; done)
      | (obtain rfl := always_eq_some.mp hnext; exact id)
  | .poller =>
    obtain ⟨-, -, hcode⟩ := Option.bind_eq_some_iff.mp hprog
    cases hpc : w.pc (.background i .poller) <;> rw [hpc] at hcode <;> cases hcode
    case ip4 l e => cases e <;> cases hsignal
    all_goals first
      | (cases hsignal; done)
      | (obtain rfl := always_eq_some.mp hnext; exact id)
  | .attention => exact id

/-- A task gets to report only by setting about it. -/
theorem TaskStep.takesUp (h : TaskStep env w (.background i b) reply w')
    (hrep : Reporting w' i b) :
    Reporting w i b ∨ Pc.TakesUp (.background i b) (w.pc (.background i b))
      (w.flags i).ip4Emitted reply := by
  cases h with
  | @complete op next a w₁ pc hprog howed hexec howed' hnext =>
    rw [Reporting, World.goto_pc, Function.update_self] at hrep
    match b with
    | .listener =>
      obtain ⟨-, -, hcode⟩ := Option.bind_eq_some_iff.mp hprog
      exact ListenerPc.takesUp_of_next hcode hexec hnext hrep
    | .poller =>
      obtain ⟨-, -, hcode⟩ := Option.bind_eq_some_iff.mp hprog
      exact PollerPc.takesUp_of_next hcode hexec hnext hrep
    | .attention => exact absurd hrep id
  | update | win => exact .inl hrep
  | settle hprog howed hsignal hnext =>
    rw [Reporting, World.goto_pc, Function.update_self] at hrep
    exact absurd hrep (not_reporting_of_signal hprog hsignal hnext)

/-- Whoever reports is in the middle of a report. -/
theorem reporting_of_reports {next : Answer → Option (Pc (.background i b))} {e : Event}
    (hprog : program env w (.background i b) = some (op, next))
    (he : op.Records e ∨ ∃ signal, op.signal = some signal ∧
      w.owed (.background i b) = some signal ∧ e = .sent signal) (hrep : e.Reports) :
    Reporting w i b := by
  have hop := Op.of_reports (program_of hprog) he hrep
  match b with
  | .listener =>
    obtain ⟨-, -, hcode⟩ := Option.bind_eq_some_iff.mp hprog
    rw [Reporting]
    cases hpc : w.pc (.background i .listener) <;> rw [hpc] at hcode <;> cases hcode <;>
      first | trivial | simp at hop
  | .poller =>
    obtain ⟨-, -, hcode⟩ := Option.bind_eq_some_iff.mp hprog
    rw [Reporting]
    cases hpc : w.pc (.background i .poller) <;> rw [hpc] at hcode <;> cases hcode <;>
      first | trivial | simp at hop
  | .attention => exact absurd hrep (not_reports_of_attention hprog he)

/-! ## Reports and failures -/

/-- A failure signal of a background task goes with the flag. -/
def Flagged (w : World) : Prop :=
  ∀ i b reason, (w.owed (.background i b) = some (.failure reason) ∨
    (.background i b, .sent (.failure reason)) ∈ w.history) → (w.flags i).failureEmitted = true

theorem TaskStep.flagged (hw : Flagged w) (h : TaskStep env w t reply w') : Flagged w' := by
  intro i b reason hor
  by_contra hflag
  -- Without the flag there was no signal before the step.
  have hnone : ¬(w.owed (.background i b) = some (.failure reason) ∨
      (.background i b, .sent (.failure reason)) ∈ w.history) := fun hold ↦ by
    have := h.failureEmitted (eq_false_of_ne_true hflag)
    rw [hw i b reason hold] at this
    cases this
  obtain ⟨howed₀, hsent₀⟩ := not_or.mp hnone
  obtain howes | hsent := hor
  · by_cases ht : .background i b = t
    · subst ht
      cases h with
      | complete hprog howed hexec howed' hnext =>
        rw [World.goto_owed, howed'] at howes
        cases howes
      | update => simp at howes
      | win hprog howed hfree =>
        obtain ⟨c, hc⟩ := program_of hprog
        cases hc
        simp at hflag
      | settle =>
        rw [World.goto_owed, emit_owed_self] at howes
        cases howes
    · exact howed₀ (h.owed_of_ne ht ▸ howes)
  · obtain hh | ⟨op, next, e, hprog, hh, he⟩ := h.history
    · exact hsent₀ (hh ▸ hsent)
    · rw [hh] at hsent
      cases (List.mem_cons.mp hsent).resolve_right hsent₀
      -- Only `connect` sends a failure that it does not owe.
      obtain he | ⟨signal, -, howed, he⟩ := he
      · obtain rfl := Op.records_sent.mp he
        obtain ⟨j, hj⟩ := program_of hprog
        cases hj
      · cases he
        exact howed₀ howed

theorem flagged_of_reachable (h : (machine env).Reachable w) : Flagged w := by
  refine invariant_of_steps (I := Flagged) ?_ (fun _ _ _ _ _ _ hw htask ↦ htask.flagged hw) ?_
    (fun _ ↦ id) h
  · rintro i b reason (howes | hsent)
    · cases howes
    · cases hsent
  · intro w j c _ hw i b reason hor
    refine hw i b reason (hor.imp_left fun howes ↦ ?_)
    by_cases ht : TaskId.background i b = .background j c
    · simp [ht] at howes
    · simpa [ht] using howes

/-- A task sets about a report only while nobody has taken up a failure, and takes one up only while
nobody reports. -/
structure FailsLast (env : Env) (w : World) (act : Action) : Prop where
  reports : ∀ i b reply, act = .run (.background i b) reply →
    Pc.TakesUp (.background i b) (w.pc (.background i b)) (w.flags i).ip4Emitted reply →
    ¬(failureClaim w i).taken
  fails : ∀ i b reply reason next, act = .run (.background i b) reply →
    program env w (.background i b) = some (.emitFailureOnce i reason, next) →
    (w.flags i).failureEmitted = false → ∀ c, ¬Reporting w i c
  connect : ∀ i, act = .run (.connect i) .ok → w.pc (.connect i) = ConnectPc.failure →
    ∀ c, ¬Reporting w i c

/-- The steps that take up a failure. -/
theorem TaskStep.taken (h : TaskStep env w t reply w') (hnot : ¬(failureClaim w i).taken)
    (htaken : (failureClaim w' i).taken) :
    (∃ b reason next, t = .background i b ∧
      program env w (.background i b) = some (.emitFailureOnce i reason, next) ∧
      (w.flags i).failureEmitted = false ∧ w'.pc = w.pc) ∨
    t = .connect i ∧ reply = .ok ∧ w.pc (.connect i) = ConnectPc.failure := by
  obtain ⟨hflag, hconnect⟩ := not_or.mp hnot
  obtain hflag' | ⟨reason, hsent⟩ := htaken
  · left
    cases h with
    | complete hprog howed hexec howed' hnext =>
      exact absurd (exec_failureEmitted hexec howed' ▸ hflag') hflag
    | update => exact absurd hflag' hflag
    | @win j reason next hprog howed hfree =>
      obtain rfl : i = j := by
        by_contra hij
        rw [World.owe_flags, World.setFlags_of_ne hij] at hflag'
        exact hflag hflag'
      obtain ⟨b, rfl⟩ := program_of hprog
      exact ⟨b, reason, next, rfl, hprog, hfree, rfl⟩
    | settle => cases reply <;> exact absurd hflag' hflag
  · right
    have hold : (.connect i, .sent (.failure reason)) ∉ w.history :=
      fun hmem ↦ hconnect ⟨reason, hmem⟩
    cases h with
    | complete hprog howed hexec howed' hnext =>
      obtain hh | ⟨e, he, hh⟩ := exec_history hexec
      · exact absurd (hh ▸ hsent) hold
      · rw [World.goto_history, hh] at hsent
        cases (List.mem_cons.mp hsent).resolve_right hold
        obtain rfl := Op.records_sent.mp he
        cases reply with
        | ok => exact ⟨rfl, rfl, (ConnectPc.of_send_failure hprog).1⟩
        | _ =>
          cases hexec
          exact absurd hh (by simp)
    | update => exact absurd (by simpa using hsent) hold
    | win => exact absurd hsent hold
    | @settle op next signal pc hprog howed hsignal hnext =>
      obtain hh | ⟨-, hh⟩ := emit_history (w := w) (t := t)
      · exact absurd (by rwa [World.goto_history, hh] at hsent) hold
      · rw [World.goto_history, hh] at hsent
        cases (List.mem_cons.mp hsent).resolve_right hold
        obtain ⟨j, rfl⟩ := Op.signal_failure.mp hsignal
        obtain ⟨b, hb⟩ := program_of hprog
        cases hb

/-- While a failure of a session has been taken up, nobody reports. -/
def Exclusive (w : World) : Prop := ∀ i, (failureClaim w i).taken → ∀ b, ¬Reporting w i b

theorem TaskStep.exclusive (hw : Exclusive w) (hlast : FailsLast env w (.run t reply))
    (h : TaskStep env w t reply w') : Exclusive w' := by
  intro i htaken b hrep
  by_cases hold : (failureClaim w i).taken
  · by_cases ht : .background i b = t
    · subst ht
      obtain hrep | htakes := h.takesUp hrep
      · exact hw i hold b hrep
      · exact hlast.reports i b reply rfl htakes hold
    · rw [Reporting, h.pc_of_ne ht] at hrep
      exact hw i hold b hrep
  · obtain ⟨c, reason, next, rfl, hprog, hflag, hpc⟩ | ⟨rfl, rfl, hpc⟩ := h.taken hold htaken
    · rw [Reporting, hpc] at hrep
      exact hlast.fails i c reply reason next rfl hprog hflag b hrep
    · rw [Reporting, h.pc_of_ne (by simp)] at hrep
      exact hlast.connect i rfl hpc b hrep

theorem exclusive_of_reachableBy (h : (machine env).ReachableBy (FailsLast env) w) :
    Exclusive w := by
  refine invariant_of_steps (I := Exclusive) ?_
    (fun _ _ _ _ _ hlast hw htask ↦ htask.exclusive hw hlast) ?_ (fun _ ↦ id) h
  · rintro i (hflag | ⟨reason, hsent⟩)
    · cases hflag
    · cases hsent
  · intro w j c _ hw i htaken b hrep
    by_cases ht : TaskId.background i b = .background j c
    · -- A task that is cancelled does not report any more.
      cases ht
      rw [Reporting, World.goto_pc, Function.update_self] at hrep
      cases c <;> exact hrep
    · rw [Reporting, World.goto_pc, Function.update_of_ne ht] at hrep
      exact hw i htaken b hrep

/-- No task of an activation reports anything once a failure of it has been signalled. -/
def FinalForSession (e : TaskId × Event) (earlier : List (TaskId × Event)) : Prop :=
  ∀ i b, e.1 = .background i b → e.2.Reports →
    ∀ s reason, s.activation = some i → (s, .sent (.failure reason)) ∉ earlier

/-- In runs in which reports and failures keep out of each other's way, a failure signal is final
for its session. -/
theorem failure_final_for_session (env : Env) {w : World}
    (h : (machine env).ReachableBy (FailsLast env) w) : Keeps FinalForSession w.history := by
  refine h.invariant_of_reachableBy (I := fun w ↦ Keeps FinalForSession w.history)
    (by rintro _ rfl; trivial) ?_
  intro w act w' hreach hkeeps _ hstep
  refine step_keeps hkeeps ?_ hstep
  rintro t reply op next e - hprog he i b rfl hrep s reason hs hsent
  refine exclusive_of_reachableBy hreach i ?_ b (reporting_of_reports hprog he hrep)
  match s with
  | .connect j =>
    obtain rfl := Option.some_inj.mp hs
    exact .inr ⟨reason, hsent⟩
  | .background j c =>
    obtain rfl := Option.some_inj.mp hs
    exact .inl (flagged_of_reachable hreach.reachable j c reason (.inr hsent))

/-- The listener reports the start, and hears later that the connection has failed. -/
private def startsThenFails : List Action :=
  ([.ok, .status 2 7, .ok, .ok, .ok, .ok, .ok, .ok, .ok, .status 2 10, .ok, .ok, .ok, .ok, .ok,
    .ok] : List Answer).map (.run (.background 0 .listener))

private def startedThenFailed : World :=
  ((machine sampleEnv).run .init (connectRun ++ startsThenFails)).getD .init

theorem failure_final_for_session_started :
    (startedThenFailed.history.map Prod.snd).take 4 =
      [.sent (.failure .connectFailed), .sent (.stateChanged .stopped), .set .stopped true,
        .sent (.stateChanged .started)] ∧
      Keeps FinalForSession startedThenFailed.history := by
  refine ⟨rfl, failure_final_for_session sampleEnv
    (Machine.ReachableBy.getD_run ⟨_, rfl, .refl⟩ _ ?_)⟩
  simp only [connectRun, startsThenFails, List.map, List.cons_append, List.nil_append,
    Machine.Allows, and_true]
  and_intros <;> refine ⟨?_, ?_, by rintro i ⟨⟩ ⟨⟩⟩
  all_goals first
    | (rintro i b reply reason next ⟨⟩ ⟨⟩ <;> rintro - c <;> cases c <;> exact id)
    | rintro i b reply ⟨⟩ htakes
  -- The listener sets about a report once, when there is no failure.
  all_goals first
    | exact absurd htakes id
    | exact absurd rfl htakes.2.1
    | exact absurd rfl htakes.2.2
    | exact not_or.mpr ⟨Bool.false_ne_true, not_connectSignalled rfl⟩

/-- The inputs of a prompt cannot be fetched, which the attention listener signals as a failure. -/
private def attentionFails : List Action :=
  ([.ok, .message "", .err, .ok, .ok, .ok, .ok] : List Answer).map
    (.run (.background 0 .attention))

/-- The poller sees that the tunnel is up, and starts the session. -/
private def pollerStarts : List Action :=
  ([.ok, .ok, .status 2 7, .err, .ok, .ok, .ok, .ok, .ok, .ok, .ok] : List Answer).map
    (.run (.background 0 .poller))

/-- After the failure of the attention listener the poller starts the session. -/
theorem failure_not_final_for_session :
    ∃ w, (machine sampleEnv).Reachable w ∧ w.state = .started ∧
      (.background 0 .attention, .sent (.failure .loginFailed)) ∈ w.history ∧
      ¬Keeps FinalForSession w.history := by
  refine ⟨_, Machine.reachable_getD_run (Machine.reachable_of_init rfl)
    (connectRun ++ attentionFails ++ pollerStarts), rfl, ?_, fun h ↦ ?_⟩
  · exact List.mem_of_getElem? (i := 5) rfl
  · exact h.1 0 .poller rfl trivial (.background 0 .attention) .loginFailed rfl
      (List.mem_of_getElem? (i := 4) rfl)

end Plugin

end NmOpenvpn3
