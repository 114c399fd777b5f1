import NmOpenvpn3.Plugin.Accounts

/-!
# A refused `Connect`

`do_connect` refuses a call while a session is live, before it has done anything. Its caller treats
the refusal like any other failure: it sets the state to `Stopped` and signals `ConnectFailed`, both
about the session that goes on. `refused_connect_changes_nothing` says that these are the only
effects.
-/

namespace NmOpenvpn3

namespace Plugin

open Rust Ovpn Service Concurrent

variable {env : Env} {w w' : World} {t : TaskId} {op : Op} {reply a : Answer} {i : ℕ}

/-! ## What a call may leave alone -/

def Event.signal? : Event → Option Signal
  | .sent signal => some signal
  | _ => none

/-- The signals sent to NetworkManager, the latest first. -/
def World.signals (w : World) : List Signal := w.history.filterMap fun e ↦ e.2.signal?

/-- A step of a task leaves the session, the other tasks, the state and the signals as they were. -/
structure Untouched (t : TaskId) (w w' : World) : Prop where
  session : w'.session = w.session
  spawned : w'.spawned = w.spawned
  aborted : w'.aborted = w.aborted
  others : ∀ t', t' ≠ t → w'.pc t' = w.pc t'
  state : w'.state = w.state
  signals : w'.signals = w.signals

/-- The refused call comes to set the state only when it is `Stopped` already, and its failure
signal does not get out. -/
structure Unnoticed (i : ℕ) (w : World) (act : Action) : Prop where
  stopped : ∀ reply, act = .run (.connect i) reply → w.pc (.connect i) = ConnectPc.stopped →
    w.state = .stopped
  failure : ∀ reply, act = .run (.connect i) reply → w.pc (.connect i) = ConnectPc.failure →
    reply ≠ .ok

/-! ## The refusal -/

/-- The program points of a call that is refused. -/
def ConnectPc.Refusing : ConnectPc → Prop
  | .checkActive | .failed | .stopped | .failure | .replying .aborted | .replying .failed
  | .replied .aborted | .replied .failed => True
  | _ => False

/-- A call that finds a session active goes on to be refused, and does not look again. -/
theorem ConnectPc.refusing_next {pc pc' : ConnectPc} {data : VpnData} {secrets : SecretsMap}
    {next : Answer → Option ConnectPc} (hcode : pc.code i data secrets = some (op, next))
    (hnext : next a = some pc') (hactive : op = .sessionActive → a = .flag true)
    (hpc : pc.Refusing) : pc'.Refusing ∧ pc' ≠ .checkActive := by
  cases pc <;> cases hcode
  -- Whether a session is active is looked at once, under the lock.
  case checkActive =>
    obtain rfl := hactive rfl
    obtain rfl := Option.some_inj.mp hnext
    exact ⟨trivial, nofun⟩
  case failed =>
    obtain ⟨-, rfl⟩ | ⟨-, rfl⟩ := onFlag_eq_some.mp hnext <;> exact ⟨trivial, nofun⟩
  case stopped =>
    obtain rfl := always_eq_some.mp hnext
    exact ⟨trivial, nofun⟩
  case failure =>
    obtain ⟨-, rfl⟩ | ⟨-, rfl⟩ := onReply_eq_some.mp hnext <;> exact ⟨trivial, nofun⟩
  case replying r =>
    obtain rfl := always_eq_some.mp hnext
    cases r
    · exact absurd hpc id
    · exact ⟨trivial, nofun⟩
    · exact ⟨trivial, nofun⟩
  all_goals exact absurd hpc id

theorem ConnectPc.refusing_op {pc : ConnectPc} {data : VpnData} {secrets : SecretsMap}
    {next : Answer → Option ConnectPc} (hcode : pc.code i data secrets = some (op, next))
    (hpc : pc.Refusing) :
    (op = .sessionActive ∧ pc = .checkActive) ∨ (op = .teardownRequested ∧ pc = .failed) ∨
      (op = .setState .stopped ∧ pc = .stopped) ∨
      (op = .send (.failure .connectFailed) ∧ pc = .failure) ∨
      op = .release ∧ ∃ r, pc = .replying r := by
  cases pc <;> cases hcode <;> first | exact absurd hpc id | simp

/-- A call is being refused: it owes nothing, and until it looks, a session is active. -/
structure Refused (i : ℕ) (w : World) : Prop where
  refusing : ConnectPc.Refusing (w.pc (.connect i))
  owed : w.owed (.connect i) = none
  active : w.pc (.connect i) = ConnectPc.checkActive → w.session.sessionPath ≠ none

/-- A session goes only by being taken out. -/
theorem exec_sessionPath (h : exec t w op reply = some (a, w'))
    (hactive : w.session.sessionPath ≠ none) :
    w'.session.sessionPath ≠ none ∨ op = .cleanup ∨ op = .takeSession := by
  unfold exec at h
  split at h <;> (try split_ifs at h) <;> cases h
  all_goals first
    | exact .inl hactive
    | exact .inl (Option.some_ne_none _)
    | exact .inr (.inl rfl)
    | exact .inr (.inr rfl)

/-- While another task holds the lock, a session that is active stays so. -/
theorem TaskStep.active (hw : Accounted w (holdings w)) (hlock : w.lock ≠ some t)
    (hactive : w.session.sessionPath ≠ none) (h : TaskStep env w t reply w') :
    w'.session.sessionPath ≠ none := by
  cases h with
  | complete hprog howed hexec howed' hnext =>
    obtain hactive' | hop := exec_sessionPath hexec hactive
    · exact hactive'
    · obtain ⟨h, hrule, -⟩ := program_rule hprog hnext
      refine absurd (hw.holder (t := t) ?_) hlock
      obtain rfl | rfl := hop <;> cases hexec <;> exact hrule.1
  | update | win => exact hactive
  | settle => cases reply <;> exact hactive

theorem TaskStep.refused (hacc : Accounted w (holdings w)) (hw : Refused i w)
    (hquiet : Unnoticed i w (.run t reply)) (h : TaskStep env w t reply w') : Refused i w' := by
  by_cases ht : .connect i = t
  · subst ht
    cases h with
    | @complete op next a w₁ pc hprog howed hexec howed' hnext =>
      have hnext' := ConnectPc.refusing_next hprog hnext ?_ hw.refusing
      · refine ⟨?_, howed', ?_⟩ <;> rw [World.goto_pc, Function.update_self]
        · exact hnext'.1
        · exact fun hpc ↦ absurd hpc hnext'.2
      · rintro rfl
        cases hexec
        have hpc : w.pc (.connect i) = ConnectPc.checkActive := by
          simpa using ConnectPc.refusing_op hprog hw.refusing
        rw [Option.isSome_iff_ne_none.mpr (hw.active hpc)]
    | update hprog howed hstate =>
      obtain ⟨rfl, hpc⟩ : _ ∧ w.pc (.connect i) = ConnectPc.stopped := by
        simpa using ConnectPc.refusing_op hprog hw.refusing
      exact absurd (hquiet.stopped reply rfl hpc) hstate
    | win hprog =>
      obtain ⟨b, hb⟩ := program_of hprog
      cases hb
    | settle hprog howed =>
      rw [hw.owed] at howed
      cases howed
  -- While the call looks, it holds the lock, so that no other task takes the session away.
  · refine ⟨?_, ?_, ?_⟩
    · rw [h.pc_of_ne ht]
      exact hw.refusing
    · rw [h.owed_of_ne ht]
      exact hw.owed
    · rw [h.pc_of_ne ht]
      intro hpc
      refine h.active hacc (fun hlock ↦ ?_) (hw.active hpc)
      have hheld : w.lock = some (.connect i) := hacc.holder (by rw [holdings, hpc]; rfl)
      exact ht (Option.some_inj.mp (hheld.symm.trans hlock))

/-- Of a refused call's steps, exactly those that meet the condition leave everything else as it
was. -/
theorem TaskStep.untouched_iff (hw : Refused i w) (h : TaskStep env w (.connect i) reply w') :
    Untouched (.connect i) w w' ↔ Unnoticed i w (.run (.connect i) reply) := by
  have hothers := fun s (hs : s ≠ TaskId.connect i) ↦ h.pc_of_ne hs
  have helsewhere (hstopped : w.pc (.connect i) ≠ ConnectPc.stopped)
      (hfailure : w.pc (.connect i) ≠ ConnectPc.failure) :
      Unnoticed i w (.run (.connect i) reply) :=
    ⟨fun _ _ hpc ↦ absurd hpc hstopped, fun _ _ hpc ↦ absurd hpc hfailure⟩
  cases h with
  | @complete op next a w₁ pc hprog howed hexec howed' hnext =>
    obtain ⟨rfl, hpc⟩ | ⟨rfl, hpc⟩ | ⟨rfl, hpc⟩ | ⟨rfl, hpc⟩ | ⟨rfl, r, hpc⟩ :=
      ConnectPc.refusing_op hprog hw.refusing
    · cases hexec
      exact iff_of_true ⟨rfl, rfl, rfl, hothers, rfl, rfl⟩
        (helsewhere (by simp [hpc]) (by simp [hpc]))
    · cases hexec
      exact iff_of_true ⟨rfl, rfl, rfl, hothers, rfl, rfl⟩
        (helsewhere (by simp [hpc]) (by simp [hpc]))
    -- The state is `Stopped` already, or the call goes on to owe a `StateChanged`.
    · simp only [exec] at hexec
      split_ifs at hexec with hstate <;> cases hexec
      · exact iff_of_true ⟨rfl, rfl, rfl, hothers, rfl, rfl⟩ ⟨fun _ _ _ ↦ hstate, by simp [hpc]⟩
      · simp at howed'
    -- A failure signal that the bus takes is one more signal.
    · cases reply with
      | ok =>
        cases hexec
        refine iff_of_false (fun h ↦ ?_) fun h ↦ h.failure .ok rfl hpc rfl
        have := congrArg List.length h.signals
        simp [World.signals, Event.signal?] at this
      | _ =>
        cases hexec
        refine iff_of_true ⟨rfl, rfl, rfl, hothers, rfl, rfl⟩ ⟨by simp [hpc], ?_⟩
        rintro _ ⟨⟩ - ⟨⟩
    · cases hexec
      exact iff_of_true ⟨rfl, rfl, rfl, hothers, rfl, rfl⟩
        (helsewhere (by simp [hpc]) (by simp [hpc]))
  | update hprog howed hstate =>
    obtain ⟨rfl, hpc⟩ : _ ∧ w.pc (.connect i) = ConnectPc.stopped := by
      simpa using ConnectPc.refusing_op hprog hw.refusing
    exact iff_of_false (fun h ↦ hstate h.state.symm) fun h ↦ hstate (h.stopped reply rfl hpc)
  | win hprog =>
    obtain ⟨b, hb⟩ := program_of hprog
    cases hb
  | settle hprog howed =>
    rw [hw.owed] at howed
    cases howed

/-! ## The reply -/

/-- Left to itself, the call replies with an error. -/
def RepliesError (env : Env) (i : ℕ) (w : World) : Prop :=
  ∃ replies w' r, (machine env).run w (List.map (.run (.connect i)) replies) = some w' ∧
    w'.pc (.connect i) = ConnectPc.replied r ∧ r ≠ .ok

theorem RepliesError.step (reply : Answer) (h : RepliesError env i w')
    (hstep : (machine env).step w (.run (.connect i) reply) = some w') : RepliesError env i w := by
  obtain ⟨replies, w'', r, hrun, hpc, hr⟩ := h
  refine ⟨reply :: replies, w'', r, ?_, hpc, hr⟩
  rw [List.map_cons, Machine.run, hstep]
  exact hrun

section Reply

variable (hexited : w.exited = false) (howed : w.owed (.connect i) = none)
include hexited howed

theorem repliesError_replying {r : ConnectReply} (hr : r ≠ .ok)
    (hpc : w.pc (.connect i) = ConnectPc.replying r) : RepliesError env i w := by
  have hexec : exec (.connect i) w .release .ok = some (.ok, { w with lock := none }) := rfl
  refine .step .ok ⟨[], _, r, rfl, ?_, hr⟩
    (step_complete hexited howed (by rw [program, hpc]; rfl) hexec howed rfl)
  simp

theorem repliesError_failure (hpc : w.pc (.connect i) = ConnectPc.failure) :
    RepliesError env i w := by
  have hexec : exec (.connect i) w (.send (.failure .connectFailed)) .err = some (.err, w) := rfl
  refine .step .err (repliesError_replying ?_ ?_ (r := .failed) nofun ?_)
    (step_complete hexited howed (by rw [program, hpc]; rfl) hexec howed rfl)
  · exact hexited
  · exact howed
  · simp

theorem repliesError_stopped (hpc : w.pc (.connect i) = ConnectPc.stopped) :
    RepliesError env i w := by
  have hprog : program env w (.connect i) =
      some (.setState .stopped, always ConnectPc.failure) := by rw [program, hpc]; rfl
  by_cases hstate : w.state = .stopped
  · have hexec : exec (.connect i) w (.setState .stopped) .ok =
        some (.flag false, w.note (.connect i) (.set .stopped false)) := if_pos hstate
    refine .step .ok (repliesError_failure ?_ ?_ ?_)
      (step_complete hexited howed hprog hexec howed rfl)
    · exact hexited
    · exact howed
    · simp
  · -- The update and the emission are two steps.
    have hset : (machine env).step w (.run (.connect i) .ok) =
        some (({ w with state := .stopped }.note (.connect i) (.set .stopped true)).owe (.connect i)
          (some (.stateChanged .stopped))) := by
      simp [machine, step, runTask, hexited, howed, hprog, exec, hstate]
    refine .step .ok ?_ hset
    refine .step .err (repliesError_failure ?_ ?_ ?_)
      (step_settle ?_ (Function.update_self ..) hprog rfl rfl)
    · exact hexited
    · rw [World.goto_owed]
      exact emit_owed_self
    · simp
    · exact hexited

theorem repliesError_failed (hpc : w.pc (.connect i) = ConnectPc.failed) :
    RepliesError env i w := by
  have hexec : exec (.connect i) w .teardownRequested .ok = some (.flag w.teardown, w) := rfl
  cases htd : w.teardown <;> rw [htd] at hexec
  · refine .step .ok (repliesError_stopped ?_ ?_ ?_)
      (step_complete hexited howed (by rw [program, hpc]; rfl) hexec howed rfl)
    · exact hexited
    · exact howed
    · simp
  · refine .step .ok (repliesError_replying ?_ ?_ (r := .aborted) (by decide) ?_)
      (step_complete hexited howed (by rw [program, hpc]; rfl) hexec howed rfl)
    · exact hexited
    · exact howed
    · simp

theorem repliesError_checkActive (hactive : w.session.sessionPath ≠ none)
    (hpc : w.pc (.connect i) = ConnectPc.checkActive) : RepliesError env i w := by
  have hexec : exec (.connect i) w .sessionActive .ok = some (.flag true, w) := by
    rw [exec, Option.isSome_iff_ne_none.mpr hactive]
  refine .step .ok (repliesError_failed ?_ ?_ ?_)
    (step_complete hexited howed (by rw [program, hpc]; rfl) hexec howed rfl)
  · exact hexited
  · exact howed
  · simp

end Reply

theorem Refused.repliesError (hw : Refused i w) (hexited : w.exited = false) :
    RepliesError env i w := by
  have hrefusing := hw.refusing
  cases hpc : w.pc (.connect i) <;> rw [hpc] at hrefusing
  case checkActive => exact repliesError_checkActive hexited hw.owed (hw.active hpc) hpc
  case failed => exact repliesError_failed hexited hw.owed hpc
  case stopped => exact repliesError_stopped hexited hw.owed hpc
  case failure => exact repliesError_failure hexited hw.owed hpc
  case replying r =>
    cases r
    · exact absurd hrefusing id
    · exact repliesError_replying (r := .aborted) hexited hw.owed nofun hpc
    · exact repliesError_replying (r := .failed) hexited hw.owed nofun hpc
  case replied r =>
    cases r
    · exact absurd hrefusing id
    · exact ⟨[], w, .aborted, rfl, hpc, nofun⟩
    · exact ⟨[], w, .failed, rfl, hpc, nofun⟩
  all_goals exact absurd hrefusing id

/-! ## The result -/

/-- Getting the lock is all that a call has done when it comes to look for a session. -/
theorem TaskStep.acquires (hpc : w.pc (.connect i) = ConnectPc.dispatched)
    (h : TaskStep env w (.connect i) reply w') :
    w.owed (.connect i) = none ∧
      w' = { w with lock := some (.connect i) }.goto (.connect i) ConnectPc.checkActive := by
  have hcode : program env w (.connect i) = some (.acquire, always ConnectPc.checkActive) := by
    rw [program, hpc]
    rfl
  cases h with
  | complete hprog howed hexec howed' hnext =>
    cases hcode.symm.trans hprog
    obtain rfl := always_eq_some.mp hnext
    simp only [exec] at hexec
    split_ifs at hexec
    cases hexec
    exact ⟨howed, rfl⟩
  | update hprog | win hprog => cases hcode.symm.trans hprog
  | settle hprog howed hsignal =>
    cases hcode.symm.trans hprog
    cases hsignal

theorem refused_of_reaches {w₀ : World} (h : (machine env).Reachable w₀) (hw₀ : Refused i w₀)
    (hrun : (machine env).Reaches (Unnoticed i) w₀ w) : Refused i w := by
  have hboth : Accounted w (holdings w) ∧ Refused i w := by
    refine hrun.invariant (I := fun w ↦ Accounted w (holdings w) ∧ Refused i w) ?_
      ⟨accounted_of_reachable h, hw₀⟩
    rintro w act w' ⟨hacc, hw⟩ hquiet hstep
    refine ⟨step_accounted hacc hstep, ?_⟩
    obtain ⟨-, ⟨t, reply, rfl, htask⟩ | ⟨j, b, -, -, rfl⟩ | ⟨-, -, rfl⟩⟩ := step_cases hstep
    · exact htask.refused hacc hw hquiet
    · refine ⟨?_, ?_, ?_⟩
      · simpa using hw.refusing
      · simpa using hw.owed
      · simpa using hw.active
    · exact ⟨hw.refusing, hw.owed, hw.active⟩
  exact hboth.2

/-- A `Connect` call that gets the lock while a session is active is refused: it leaves everything
but the lock as it was until it comes to set the state, can only reply with an error, and does so if
it is left to itself. Along any run, its steps leave everything as it was up to the first one that
does not meet the condition, and that one does not. -/
theorem refused_connect_changes_nothing (env : Env) {w₀ w₁ w : World} {i : ℕ} {reply₀ : Answer}
    (h : (machine env).Reachable w₀) (hactive : w₀.session.sessionPath ≠ none)
    (hpc : w₀.pc (.connect i) = ConnectPc.dispatched)
    (hlock : (machine env).step w₀ (.run (.connect i) reply₀) = some w₁)
    (hrun : (machine env).Reaches (Unnoticed i) w₁ w) :
    Untouched (.connect i) w₀ w₁ ∧
      (∀ r, w.pc (.connect i) = ConnectPc.replied r → r ≠ .ok) ∧
      (w.exited = false → RepliesError env i w) ∧
      ∀ reply w', (machine env).step w (.run (.connect i) reply) = some w' →
        (Untouched (.connect i) w w' ↔ Unnoticed i w (.run (.connect i) reply)) := by
  have htask : TaskStep env w₀ (.connect i) reply₀ w₁ := by
    obtain ⟨-, ⟨t, reply, hact, htask⟩ | ⟨j, b, hact, -⟩ | ⟨hact, -⟩⟩ := step_cases hlock <;>
      cases hact
    exact htask
  have hreach : (machine env).Reachable w₁ := Machine.reachable_of_run h
    (show (machine env).run w₀ [.run (.connect i) reply₀] = some w₁ by simp [Machine.run, hlock])
  obtain ⟨howed, rfl⟩ := htask.acquires hpc
  have hw : Refused i w :=
    refused_of_reaches hreach ⟨by simp [ConnectPc.Refusing], howed, fun _ ↦ hactive⟩ hrun
  refine ⟨⟨rfl, rfl, rfl, fun s hs ↦ htask.pc_of_ne hs, rfl, rfl⟩, ?_, hw.repliesError, ?_⟩
  · rintro r hr rfl
    have := hw.refusing
    rw [hr] at this
    exact this
  · intro reply w' hstep
    obtain ⟨-, ⟨t, reply, hact, htask⟩ | ⟨j, b, hact, -⟩ | ⟨hact, -⟩⟩ := step_cases hstep <;>
      cases hact
    exact htask.untouched_iff hw

/-- The listener hears that the connection is gone; its session stays in the session state. -/
private def listenerStops : List Action :=
  ([.ok, .status 2 9, .ok, .ok, .ok, .ok, .ok, .ok] : List Answer).map
    (.run (.background 0 .listener))

private def stoppedSession : World :=
  ((machine sampleEnv).run .init (connectRun ++ listenerStops)).getD .init

private def asked : World :=
  ((machine sampleEnv).step stoppedSession (.run (.connect 1) .ok)).getD stoppedSession

/-- The call is refused, and its failure signal does not get out. -/
private def refusedQuietly : List Action :=
  ([.ok, .ok, .ok, .err] : List Answer).map (.run (.connect 1))

theorem refused_connect_changes_nothing_stopped :
    Untouched (.connect 1) stoppedSession asked ∧
      RepliesError sampleEnv 1 (((machine sampleEnv).run asked refusedQuietly).getD asked) := by
  have h := refused_connect_changes_nothing sampleEnv
    (Machine.reachable_getD_run (Machine.reachable_of_init rfl) (connectRun ++ listenerStops))
    (show stoppedSession.session.sessionPath ≠ none from Option.some_ne_none "/session") rfl
    (show (machine sampleEnv).step stoppedSession (.run (.connect 1) .ok) = some asked from rfl)
    (Machine.Reaches.getD_run .refl refusedQuietly ?_)
  · exact ⟨h.1, h.2.2.1 rfl⟩
  · simp only [refusedQuietly, List.map, Machine.Allows, and_true]
    and_intros <;> exact ⟨fun _ _ _ ↦ rfl, by rintro _ ⟨⟩ ⟨⟩ <;> exact nofun⟩

/-- A second `Connect` call, refused: NetworkManager hears that the session that goes on has failed,
and the state says so too. -/
theorem refused_connect_noticed :
    ∃ w w', (machine sampleEnv).Reachable w ∧ w.session.sessionPath = some "/session" ∧
      (∀ j, w.pc (.disconnect j) = DisconnectPc.dispatched) ∧
      (machine sampleEnv).run w ((List.replicate 7 .ok).map (.run (.connect 1))) = some w' ∧
      w'.pc (.connect 1) = ConnectPc.replied .failed ∧ w.state = .starting ∧ w'.state = .stopped ∧
      w'.signals = .failure .connectFailed :: .stateChanged .stopped :: w.signals :=
  ⟨_, _, Machine.reachable_getD_run (Machine.reachable_of_init rfl) connectRun, rfl, fun _ ↦ rfl,
    rfl, rfl, rfl, rfl, rfl⟩

end Plugin

end NmOpenvpn3
