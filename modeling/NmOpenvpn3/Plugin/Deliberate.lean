import NmOpenvpn3.Plugin.Failures

/-!
# Deliberate disconnects

A `Disconnect` call sets the teardown flag, so that what falls over from then on is not taken for a
failure. `connect` looks at that flag, but the background tasks look at the request to disconnect of
their session, which is made later, or at nothing. `deliberate_disconnect_silent` says which steps
have to stay away for a `Disconnect` to surface without a failure.
-/

namespace NmOpenvpn3

namespace Plugin

open Rust Ovpn Service Concurrent

variable {env : Env} {w w' : World} {s t : TaskId} {op : Op} {reply a : Answer} {i : ℕ}
  {b : Background}

/-! ## The branches that fail -/

/-- A task is on its way to a failure signal. -/
def Stage.Doomed (s : Stage) : Prop := s = .failing ∨ s = .reverting

/-- The listener fails when the configuration cannot be emitted, and when the session stops without
a request to disconnect. -/
def ListenerPc.Fails (requested : Bool) : ListenerPc → Answer → Prop
  | .ip4 _, reply => reply ≠ .ok
  | .checkTeardown _, _ => requested = false
  | _, _ => False

/-- The poller fails like the listener, and when its polls are used up before the start or have
failed for too long after it. -/
def PollerPc.Fails (requested : Bool) : PollerPc → Answer → Prop
  | .tick l, _ => l.ip4Emitted = false ∧ maxTicksPreStarted ≤ l.ticks + 1
  | .status l, reply =>
    reply = .err ∧ l.ip4Emitted = true ∧ postStartedErrBudget ≤ l.postStartedErrs + 1
  | .ip4 _ _, reply => reply ≠ .ok
  | .checkTeardown _, _ => requested = false
  | _, _ => False

/-- The attention listener fails with an input that could not be handled, unless there is a request
to disconnect. -/
def AttentionPc.Fails (requested : Bool) : AttentionPc → Answer → Prop
  | .failed, _ => requested = false
  | _, _ => False

/-- The steps with which a background task gets on its way to a failure signal. -/
def Pc.Fails : (t : TaskId) → Pc t → Bool → Answer → Prop
  | .background _ .listener, pc, requested, reply => ListenerPc.Fails requested pc reply
  | .background _ .poller, pc, requested, reply => PollerPc.Fails requested pc reply
  | .background _ .attention, pc, requested, reply => AttentionPc.Fails requested pc reply
  | _, _, _, _ => False

theorem exec_ip4 {e : Ip4Pc} (h : exec t w e.op reply = some (a, w')) (ha : a ≠ .ok) :
    reply ≠ .ok := by
  rintro rfl
  cases e <;> cases h <;> exact ha rfl

/-- A task that looks at the request to disconnect goes the other way only when there is none. -/
theorem not_disconnectRequested {α : Type} {yes no pc : α}
    (hexec : exec t w (.disconnectRequested i) reply = some (a, w'))
    (hnext : onFlag yes no a = some pc) (hne : pc ≠ yes) :
    (w.flags i).disconnectRequested = false := by
  cases hexec
  obtain ⟨-, rfl⟩ | ⟨hflag, -⟩ := onFlag_eq_some.mp hnext
  · exact absurd rfl hne
  · exact Answer.flag.inj hflag

theorem ListenerPc.fails_of_next {pc pc' : ListenerPc} {next : Answer → Option ListenerPc}
    (hcode : pc.code i = some (op, next)) (hexec : exec t w op reply = some (a, w'))
    (hnext : next a = some pc') (hs' : pc'.stage.Doomed) :
    pc.stage.Doomed ∨ pc.Fails (w.flags i).disconnectRequested reply := by
  cases pc <;> cases hcode
  case wait =>
    -- Whatever the event says, the listener only sorts it here; it fails in an arm, not on the way.
    refine absurd hs' ?_
    cases a <;> simp only [Option.some_inj, reduceCtorEq] at hnext <;> subst hnext
    case status major minor =>
      cases Status.fromWire major minor with
      | none => simp [Stage.Doomed, stage]
      | some st => cases h : st.toNmState <;> simp [Stage.Doomed, stage, h]
    all_goals simp [Stage.Doomed, stage]
  case emitter st target =>
    simp only [onReply_eq_some] at hnext
    obtain ⟨-, rfl⟩ | ⟨-, rfl⟩ := hnext
    · rw [stage_dispatch] at hs'
      simp [Stage.Doomed] at hs'
    · simp [Stage.Doomed, stage] at hs'
  case ip4 e =>
    -- An emission that goes well leads to the next one or to `Started`; only an error rolls back.
    by_cases ha : a = .ok
    · subst ha
      cases e <;> cases hnext <;> obtain h | h := hs' <;> cases h
    · exact .inr (exec_ip4 hexec ha)
  case checkTeardown st =>
    refine .inr (not_disconnectRequested hexec hnext ?_)
    rintro rfl
    simp [Stage.Doomed, stage] at hs'
  all_goals simp only [always_eq_some, onReply_eq_some, onFlag_eq_some] at hnext
  all_goals first
    | obtain rfl := hnext
    | obtain ⟨rfl, rfl⟩ | ⟨rfl, rfl⟩ := hnext
  all_goals simp_all [Stage.Doomed, stage]

theorem PollerPc.fails_of_next {pc pc' : PollerPc} {next : Answer → Option PollerPc}
    (hcode : pc.code i = some (op, next)) (hexec : exec t w op reply = some (a, w'))
    (hnext : next a = some pc') (hs' : pc'.stage.Doomed) :
    pc.stage.Doomed ∨ pc.Fails (w.flags i).disconnectRequested reply := by
  cases pc <;> cases hcode
  case tick l =>
    -- The last turn of the loop gives up only while the poller has not seen the start.
    obtain rfl := always_eq_some.mp hnext
    simp only [wake] at hs'
    split_ifs at hs' with hlast
    · exact .inr ⟨by simpa using hlast.1, hlast.2⟩
    · simp [Stage.Doomed, stage] at hs'
  case status l =>
    cases hexec
    cases reply <;> simp only [Option.some_inj, reduceCtorEq] at hnext <;> subst hnext
    case status major minor =>
      rw [stage_read] at hs'
      simp [Stage.Doomed] at hs'
    case err =>
      -- A read that failed is forgiven before the start, and within the budget after it.
      simp only [unread] at hs'
      split_ifs at hs' with hip4 hbudget
      · simp [Stage.Doomed, stage] at hs'
      · exact .inr ⟨rfl, hip4, by omega⟩
      · simp [Stage.Doomed, stage] at hs'
  case device l st =>
    cases a <;> simp only [Option.some_inj, reduceCtorEq] at hnext <;> subst hnext <;>
      rw [stage_decide] at hs' <;> simp [Stage.Doomed] at hs'
  case emitter l st target =>
    simp only [onReply_eq_some] at hnext
    obtain ⟨-, rfl⟩ | ⟨-, rfl⟩ := hnext
    · rw [stage_dispatch] at hs'
      simp [Stage.Doomed] at hs'
    · simp [Stage.Doomed, stage] at hs'
  case ip4 l e =>
    by_cases ha : a = .ok
    · subst ha
      cases e <;> cases hnext <;> obtain h | h := hs' <;> cases h
    · exact .inr (exec_ip4 hexec ha)
  case checkTeardown st =>
    refine .inr (not_disconnectRequested hexec hnext ?_)
    rintro rfl
    simp [Stage.Doomed, stage] at hs'
  all_goals simp only [always_eq_some, onReply_eq_some, onFlag_eq_some] at hnext
  all_goals first
    | obtain rfl := hnext
    | obtain ⟨rfl, rfl⟩ | ⟨rfl, rfl⟩ := hnext
  all_goals simp_all [Stage.Doomed, stage]

theorem AttentionPc.fails_of_next {pc pc' : AttentionPc} {p : Path}
    {next : Answer → Option AttentionPc} (hcode : pc.code i p = some (op, next))
    (hexec : exec t w op reply = some (a, w')) (hnext : next a = some pc')
    (hs' : pc'.stage.Doomed) :
    pc.stage.Doomed ∨ pc.Fails (w.flags i).disconnectRequested reply := by
  cases pc <;> cases hcode
  case wait | fetch =>
    refine absurd hs' ?_
    cases a <;> simp only [Option.some_inj, reduceCtorEq] at hnext <;> subst hnext
    all_goals try split_ifs
    all_goals simp [Stage.Doomed, stage]
  case owned msg slots =>
    -- A session that is no longer the owned one is left alone without a failure.
    refine absurd hs' ?_
    cases a <;> simp only [reduceCtorEq] at hnext
    case snapshot data secrets owned =>
      cases owned <;> simp only [Option.some_inj] at hnext <;> subst hnext
      · simp [Stage.Doomed, stage]
      · simp [Stage.Doomed, stage_loop]
  case provide msg data secrets slot value rest needed =>
    simp only [onReply_eq_some] at hnext
    obtain ⟨-, rfl⟩ | ⟨-, rfl⟩ := hnext
    · rw [stage_loop] at hs'
      simp [Stage.Doomed] at hs'
    · simp [Stage.Doomed, stage] at hs'
  case failed =>
    refine .inr (not_disconnectRequested hexec hnext ?_)
    rintro rfl
    simp [Stage.Doomed, stage] at hs'
  all_goals simp only [always_eq_some, onReply_eq_some] at hnext
  all_goals first
    | obtain rfl := hnext
    | obtain ⟨rfl, rfl⟩ | ⟨rfl, rfl⟩ := hnext
  all_goals simp_all [Stage.Doomed, stage]

/-- A task gets on its way to a failure signal only by a branch that fails. -/
theorem fails_of_next {next : Answer → Option (Pc (.background i b))} {pc : Pc (.background i b)}
    (hprog : program env w (.background i b) = some (op, next))
    (hexec : exec (.background i b) w op reply = some (a, w')) (hnext : next a = some pc)
    (hs' : (Pc.stage (.background i b) pc).Doomed) :
    (w.stage (.background i b)).Doomed ∨
      Pc.Fails (.background i b) (w.pc (.background i b)) (w.flags i).disconnectRequested
        reply := by
  match b with
  | .listener =>
    obtain ⟨-, -, hcode⟩ := Option.bind_eq_some_iff.mp hprog
    exact ListenerPc.fails_of_next hcode hexec hnext hs'
  | .poller =>
    obtain ⟨-, -, hcode⟩ := Option.bind_eq_some_iff.mp hprog
    exact PollerPc.fails_of_next hcode hexec hnext hs'
  | .attention =>
    obtain ⟨p, -, hcode⟩ := Option.bind_eq_some_iff.mp hprog
    exact AttentionPc.fails_of_next hcode hexec hnext hs'

/-! ## While the teardown flag is set -/

/-- A background task that nothing but its cancellation or the bus keeps from a failure signal. -/
def Bound (w : World) (i : ℕ) (b : Background) : Prop :=
  (w.stage (.background i b)).Doomed ∧ ((w.flags i).failureEmitted = false ∨
    ∃ reason, w.owed (.background i b) = some (.failure reason))

/-- A `Disconnect` call begins only when nobody is bound to signal a failure, and while the teardown
flag is set, no task of a session without a failure signal takes a branch that fails. -/
structure Deliberate (w : World) (act : Action) : Prop where
  begins : ∀ j reply, act = .run (.disconnect j) reply →
    w.pc (.disconnect j) = DisconnectPc.dispatched →
    (∀ i, w.pc (.connect i) ≠ ConnectPc.stopped ∧ w.pc (.connect i) ≠ ConnectPc.failure) ∧
      ∀ i b, ¬Bound w i b
  goesOn : ∀ i b reply, act = .run (.background i b) reply → w.teardown = true →
    (w.flags i).failureEmitted = false →
    ¬Pc.Fails (.background i b) (w.pc (.background i b)) (w.flags i).disconnectRequested reply

/-- While the teardown flag is set, nobody is bound to signal a failure. -/
def Silent (w : World) : Prop :=
  w.teardown = true →
    (∀ i, w.pc (.connect i) ≠ ConnectPc.stopped ∧ w.pc (.connect i) ≠ ConnectPc.failure) ∧
      ∀ i b, ¬Bound w i b

/-- `connect` gets to its failure signal only by finding the teardown flag clear. -/
theorem ConnectPc.of_stopped_or_failure {pc pc' : ConnectPc} {data : VpnData} {secrets : SecretsMap}
    {next : Answer → Option ConnectPc} (hcode : pc.code i data secrets = some (op, next))
    (hnext : next a = some pc') (hpc' : pc' = .stopped ∨ pc' = .failure) :
    (op = .teardownRequested ∧ a = .flag false) ∨ pc = .stopped := by
  cases pc <;> cases hcode
  case sessionDisconnect p c | retryDisconnect p c =>
    cases c <;> simp only [afterDisconnect, onReply_eq_some] at hnext <;>
      obtain ⟨-, rfl⟩ | ⟨-, rfl⟩ := hnext <;> simp at hpc'
  case importConfig | newTunnel | cleanup =>
    cases a <;> simp at hnext <;> simp [← hnext] at hpc'
  all_goals simp only [always_eq_some, onReply_eq_some, onFlag_eq_some] at hnext
  all_goals first
    | obtain rfl := hnext
    | obtain ⟨rfl, rfl⟩ | ⟨rfl, rfl⟩ := hnext
  all_goals simp_all

/-- A step that sets no flag for a failure binds no task that it does not move. -/
theorem Bound.of_ne
    (hflag : (w'.flags i).failureEmitted = false → (w.flags i).failureEmitted = false)
    (hstage : w'.stage (.background i b) = w.stage (.background i b))
    (howed : w'.owed (.background i b) = w.owed (.background i b)) (h : Bound w' i b) :
    Bound w i b := by
  obtain ⟨hdoomed, hfree⟩ := h
  rw [hstage] at hdoomed
  rw [howed] at hfree
  exact ⟨hdoomed, hfree.imp_left hflag⟩

/-- An update of the state neither begins nor ends a failure, and a failure signal is the end. -/
theorem Op.Advance.doomed {signal : Signal} {s s' : Stage} (h : op.Advance b a s s')
    (hsignal : op.signal = some signal) (hs' : s'.Doomed) : s.Doomed := by
  cases op with
  | setState new => cases new <;> simp_all [Advance, Stage.Doomed]
  | emitFailureOnce j reason => simp_all [Advance, Stage.Doomed]
  | _ => cases hsignal

/-- A background task that is not bound stays so, unless it takes a branch that fails. -/
theorem TaskStep.not_bound (hnot : ¬Bound w i b)
    (hfails : (w.flags i).failureEmitted = false →
      ¬Pc.Fails (.background i b) (w.pc (.background i b)) (w.flags i).disconnectRequested reply)
    (h : TaskStep env w (.background i b) reply w') : ¬Bound w' i b := by
  rintro ⟨hdoomed, hfree⟩
  have hmono := h.failureEmitted (i := i)
  cases h with
  | complete hprog howed hexec howed' hnext =>
    rw [stage_goto] at hdoomed
    -- A call owes nothing afterwards, so a task that it binds must have taken a branch that fails.
    obtain hflag | ⟨reason, howes⟩ := hfree
    · obtain hold | hf := fails_of_next hprog hexec hnext hdoomed
      · exact hnot ⟨hold, .inl (hmono hflag)⟩
      · exact hfails (hmono hflag) hf
    · rw [World.goto_owed, howed'] at howes
      cases howes
  | update =>
    obtain hflag | ⟨reason, howes⟩ := hfree
    · exact hnot ⟨hdoomed, .inl hflag⟩
    · simp at howes
  | win hprog howed hflag =>
    -- Who wins the flag was failing already, and found it clear.
    obtain ⟨a, s', hadv⟩ := program_stage hprog
    exact hnot ⟨.inl hadv.1, .inl (by obtain ⟨c, hc⟩ := program_of hprog; cases hc; exact hflag)⟩
  | @settle op next signal pc hprog howed hsignal hnext =>
    rw [stage_goto] at hdoomed
    have hold : (w.stage (.background i b)).Doomed :=
      (program_advance hprog hnext).doomed hsignal hdoomed
    obtain hflag | ⟨reason, howes⟩ := hfree
    · exact hnot ⟨hold, .inl (hmono hflag)⟩
    · simp at howes

theorem exec_teardown (h : exec t w op reply = some (a, w')) (hop : ∀ b, op ≠ .setTeardown b) :
    w'.teardown = w.teardown := by
  unfold exec at h
  split at h <;> (try split_ifs at h) <;> cases h <;> first | exact absurd rfl (hop _) | rfl

theorem DisconnectPc.of_setTeardown {persist : Bool} {pc : DisconnectPc}
    {next : Answer → Option DisconnectPc} {v : Bool}
    (hcode : pc.code persist = some (.setTeardown v, next)) : pc = .dispatched := by
  cases pc <;> cases hcode
  rfl

/-- The teardown flag is set by a `Disconnect` call that begins. -/
theorem TaskStep.teardown (h : TaskStep env w t reply w') (htd : w'.teardown = true) :
    w.teardown = true ∨
      ∃ j, t = .disconnect j ∧ w.pc (.disconnect j) = DisconnectPc.dispatched := by
  cases h with
  | @complete op next a w₁ pc hprog howed hexec howed' hnext =>
    rw [World.goto_teardown] at htd
    by_cases hop : ∃ v, op = .setTeardown v
    · obtain ⟨v, rfl⟩ := hop
      cases hexec
      obtain rfl : v = true := htd
      obtain ⟨j, rfl⟩ := program_of hprog
      exact .inr ⟨j, rfl, DisconnectPc.of_setTeardown hprog⟩
    · rw [not_exists] at hop
      exact .inl (exec_teardown hexec hop ▸ htd)
  | update | win => exact .inl htd
  | settle => cases reply <;> exact .inl htd

/-- A `Connect` call under a set teardown flag does not get to its failure signal. -/
theorem TaskStep.connect_silent (hnot : w.pc (.connect i) ≠ ConnectPc.stopped ∧
    w.pc (.connect i) ≠ ConnectPc.failure) (htd : w.teardown = true)
    (h : TaskStep env w (.connect i) reply w') :
    w'.pc (.connect i) ≠ ConnectPc.stopped ∧ w'.pc (.connect i) ≠ ConnectPc.failure := by
  rw [← not_or]
  intro hpc'
  cases h with
  | complete hprog howed hexec howed' hnext =>
    rw [World.goto_pc, Function.update_self] at hpc'
    obtain ⟨rfl, rfl⟩ | hpc := ConnectPc.of_stopped_or_failure hprog hnext hpc'
    · simp [exec, htd] at hexec
    · exact hnot.1 hpc
  | update | win => exact hpc'.elim hnot.1 hnot.2
  | settle hprog howed hsignal hnext =>
    rw [World.goto_pc, Function.update_self] at hpc'
    obtain ⟨rfl, -⟩ | hpc := ConnectPc.of_stopped_or_failure hprog hnext hpc'
    · cases hsignal
    · exact hnot.1 hpc

theorem TaskStep.silent (hw : Silent w) (hdel : Deliberate w (.run t reply))
    (h : TaskStep env w t reply w') : Silent w' := by
  intro htd'
  have hbefore : (∀ i, w.pc (.connect i) ≠ ConnectPc.stopped ∧
      w.pc (.connect i) ≠ ConnectPc.failure) ∧ ∀ i b, ¬Bound w i b := by
    obtain htd | ⟨j, rfl, hpc⟩ := h.teardown htd'
    · exact hw htd
    · exact hdel.begins j reply rfl hpc
  refine ⟨fun i ↦ ?_, fun i b hbound ↦ ?_⟩
  · by_cases ht : .connect i = t
    · subst ht
      obtain htd | ⟨j, hj, -⟩ := h.teardown htd'
      · exact h.connect_silent (hbefore.1 i) htd
      · cases hj
    · rw [h.pc_of_ne ht]
      exact hbefore.1 i
  · by_cases ht : .background i b = t
    · subst ht
      obtain htd | ⟨j, hj, -⟩ := h.teardown htd'
      · exact h.not_bound (hbefore.2 i b) (hdel.goesOn i b reply rfl htd) hbound
      · cases hj
    · exact hbefore.2 i b (hbound.of_ne h.failureEmitted (h.stage_of_ne ht) (h.owed_of_ne ht))

theorem step_silent {act : Action} (hw : Silent w) (hdel : Deliberate w act)
    (h : (machine env).step w act = some w') : Silent w' := by
  obtain ⟨-, ⟨t, reply, rfl, htask⟩ | ⟨j, c, -, -, rfl⟩ | ⟨-, -, rfl⟩⟩ := step_cases h
  · exact htask.silent hw hdel
  · intro htd
    obtain ⟨hcon, hbound⟩ := hw htd
    refine ⟨fun i ↦ by simpa using hcon i, fun i b hb ↦ ?_⟩
    by_cases ht : TaskId.background i b = .background j c
    · cases ht
      have := hb.1
      rw [stage_goto, stage_exited] at this
      simp [Stage.Doomed] at this
    · refine hbound i b (Bound.of_ne ?_ ?_ ?_ hb)
      · exact id
      · rw [stage_goto_of_ne ht]
        rfl
      · simp [ht]
  · exact hw

/-- Whether the teardown flag is set. -/
def teardownSet : List (TaskId × Event) → Bool
  | [] => false
  | (_, .teardown value) :: _ => value
  | _ :: h => teardownSet h

/-- A failure is not signalled from the moment a `Disconnect` call sets the teardown flag until a
`Connect` call clears it. -/
def NotDuringTeardown (e : TaskId × Event) (earlier : List (TaskId × Event)) : Prop :=
  e.2.isFailure = true → teardownSet earlier = false

theorem teardownSet_cons_of_ne {e : Event} {h : List (TaskId × Event)}
    (hne : ∀ value, e ≠ .teardown value) : teardownSet ((t, e) :: h) = teardownSet h := by
  cases e <;> first | rfl | exact absurd rfl (hne _)

theorem TaskStep.teardown_eq (hw : w.teardown = teardownSet w.history)
    (h : TaskStep env w t reply w') : w'.teardown = teardownSet w'.history := by
  cases h with
  | @complete op next a w₁ pc hprog howed hexec howed' hnext =>
    by_cases hop : ∃ v, op = .setTeardown v
    · obtain ⟨v, rfl⟩ := hop
      cases hexec
      rfl
    · rw [not_exists] at hop
      rw [World.goto_teardown, World.goto_history, exec_teardown hexec hop, hw]
      obtain hh | ⟨e, he, hh⟩ := exec_history hexec
      · rw [hh]
      · rw [hh, teardownSet_cons_of_ne]
        rintro value rfl
        cases op <;> simp [Op.Records] at he
        exact hop _ rfl
  | update | win => exact hw
  | settle => cases reply <;> exact hw

theorem teardown_eq (h : (machine env).Reachable w) : w.teardown = teardownSet w.history := by
  refine invariant_of_steps (I := fun w ↦ w.teardown = teardownSet w.history) rfl ?_
    (fun _ _ _ _ ↦ id) (fun _ ↦ id) h
  exact fun w t reply w' _ _ hw htask ↦ htask.teardown_eq hw

/-- In runs whose `Disconnect` calls begin and go on undisturbed, none surfaces with a failure
signal. -/
theorem deliberate_disconnect_silent (env : Env) {w : World}
    (h : (machine env).ReachableBy Deliberate w) : Keeps NotDuringTeardown w.history := by
  have hboth : Silent w ∧ Keeps NotDuringTeardown w.history := by
    refine h.invariant_of_reachable
      (I := fun w ↦ Silent w ∧ Keeps NotDuringTeardown w.history) ?_ ?_
    · rintro _ rfl
      exact ⟨nofun, trivial⟩
    · rintro w act w' hreach ⟨hsilent, hkeeps⟩ hdel hstep
      refine ⟨step_silent hsilent hdel hstep, step_keeps hkeeps ?_ hstep⟩
      rintro t reply op next e - hprog he hfail
      obtain ⟨reason, rfl⟩ := Event.isFailure_iff.mp hfail
      rw [← teardown_eq hreach]
      by_contra htd
      obtain ⟨hcon, hbound⟩ := hsilent (by simpa using htd)
      obtain he | ⟨signal, hsignal, howed, he⟩ := he
      · obtain rfl := Op.records_sent.mp he
        obtain ⟨i, rfl⟩ := program_of hprog
        exact (hcon i).2 (ConnectPc.of_send_failure hprog).1
      · cases he
        obtain ⟨i, rfl⟩ := Op.signal_failure.mp hsignal
        obtain ⟨b, rfl⟩ := program_of hprog
        obtain ⟨a, s', hadv⟩ := program_stage hprog
        exact hbound i b ⟨.inl hadv.1, .inr ⟨reason, howed⟩⟩
  exact hboth.2

/-- A `Disconnect` call takes the session; the listener hears that the connection is gone, sees that
this was asked for, and exits. -/
private def disconnectsSilently : List Action :=
  (List.replicate 3 .ok).map (.run (.disconnect 0)) ++
    ([.ok, .status 2 9, .ok, .ok, .ok, .ok] : List Answer).map (.run (.background 0 .listener)) ++
    (List.replicate 5 .ok).map (.run (.disconnect 0))

/-- Another `Connect` call cannot read its profile, and signals that. -/
private def failsToConnect : List Action :=
  ([.ok, .ok, .ok, .err, .ok, .ok, .ok] : List Answer).map (.run (.connect 1))

private def disconnectedThenFailed : World :=
  ((machine sampleEnv).run .init (connectRun ++ disconnectsSilently ++ failsToConnect)).getD .init

/-- When the `Disconnect` call begins, only `connect` has taken steps. -/
private theorem pc_connectRun (ht : t ≠ .connect 0) :
    (((machine sampleEnv).run .init connectRun).getD .init).pc t = Pc.start t := by
  have hrun : (machine sampleEnv).ReachableBy (fun _ act ↦ ∃ reply, act = .run (.connect 0) reply)
      (((machine sampleEnv).run .init connectRun).getD .init) := by
    refine Machine.ReachableBy.getD_run ⟨_, rfl, .refl⟩ _ ?_
    simp only [connectRun, List.map, Machine.Allows, and_true]
    and_intros <;> exact ⟨_, rfl⟩
  refine hrun.invariant (I := fun w ↦ w.pc t = Pc.start t) (by rintro _ rfl; rfl) ?_
  rintro w _ w' hpc ⟨reply, rfl⟩ hstep
  obtain ⟨-, ⟨t', reply', hact, htask⟩ | ⟨i, b, hact, -⟩ | ⟨hact, -⟩⟩ := step_cases hstep
  · cases hact
    exact (htask.pc_of_ne ht).trans hpc
  · cases hact
  · cases hact

private theorem not_doomed_connectRun (i : ℕ) (b : Background) :
    ¬((((machine sampleEnv).run .init connectRun).getD .init).stage (.background i b)).Doomed := by
  rw [World.stage, pc_connectRun (by simp), show Pc.stage (.background i b) (Pc.start _) = .watching
    from stage_init]
  simp [Stage.Doomed]

theorem deliberate_disconnect_silent_then_failed :
    (disconnectedThenFailed.history.map Prod.snd).take 7 =
      [.sent (.failure .connectFailed), .set .stopped false, .teardown false, .set .stopped false,
        .sent (.stateChanged .stopped), .set .stopped true, .teardown true] ∧
      Keeps NotDuringTeardown disconnectedThenFailed.history := by
  refine ⟨rfl, deliberate_disconnect_silent sampleEnv
    (Machine.ReachableBy.getD_run ⟨_, rfl, .refl⟩ _ ?_)⟩
  simp only [connectRun, disconnectsSilently, failsToConnect, List.map, List.replicate,
    List.cons_append, List.nil_append, Machine.Allows, and_true]
  and_intros <;> constructor
  -- The listener takes no branch that fails: the request to disconnect is there when it looks.
  all_goals first
    | (rintro i b reply ⟨⟩; done)
    | (rintro i b reply ⟨⟩ - -; exact id)
    | (rintro i b reply ⟨⟩ - - h; exact absurd (show _ = false from h) (by decide))
    | (rintro j reply ⟨⟩ ⟨⟩; done)
    | skip
  rintro j reply - -
  refine ⟨fun i ↦ ?_, fun i b hb ↦ ?_⟩
  · by_cases hi : i = 0
    · subst hi
      exact ⟨by rintro ⟨⟩, by rintro ⟨⟩⟩
    · have hpc := pc_connectRun (t := .connect i) (by simpa using hi)
      refine ⟨fun h ↦ ?_, fun h ↦ ?_⟩ <;> cases hpc.symm.trans h
  · exact not_doomed_connectRun i b hb.1

/-- A `Disconnect` call has set the teardown flag; the listener hears that the connection is gone
before the call gets on, and signals a failure. -/
private def listenerHearsDisconnected : List Action :=
  ([.ok, .status 2 9, .ok, .ok, .ok, .ok, .ok, .ok] : List Answer).map
    (.run (.background 0 .listener))

theorem deliberate_disconnect_fails :
    ∃ w, (machine sampleEnv).Reachable w ∧ w.teardown = true ∧
      ¬Keeps NotDuringTeardown w.history := by
  refine ⟨_, Machine.reachable_getD_run (Machine.reachable_of_init rfl)
    (connectRun ++ [.run (.disconnect 0) .ok] ++ listenerHearsDisconnected), rfl, fun h ↦ ?_⟩
  have := h.1 rfl
  cases this

end Plugin

end NmOpenvpn3
