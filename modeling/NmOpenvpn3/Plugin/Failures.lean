import NmOpenvpn3.Plugin.Stages
import NmOpenvpn3.Concurrent.Claim

/-!
# Failure signals

NetworkManager learns of a failure by a signal. The background tasks of a session signal one at most
once between them (`emit_failure_once`), and the one that does is done (`failure_final_for_task`).
`connect` signals its own failures past that guard.
-/

namespace NmOpenvpn3

namespace Plugin

open Rust Ovpn Service Concurrent

variable {env : Env} {w w' : World} {s t : TaskId} {op : Op} {reply a : Answer} {i : ℕ}
  {b : Background}

theorem TaskStep.failureEmitted (h : TaskStep env w t reply w')
    (hflag : (w'.flags i).failureEmitted = false) : (w.flags i).failureEmitted = false := by
  cases h with
  | complete hprog howed hexec howed' hnext => exact exec_failureEmitted hexec howed' ▸ hflag
  | update => exact hflag
  | @win j reason next hprog howed hfree =>
    by_cases hij : i = j
    · exact hij ▸ hfree
    · rwa [World.owe_flags, World.setFlags_of_ne hij] at hflag
  | settle => cases reply <;> exact hflag

/-! ## The task that fails -/

/-- A task that is over does nothing. -/
theorem program_of_over (hover : w.stage (.background i b) = .over) :
    program env w (.background i b) = none := by
  rw [Option.eq_none_iff_forall_ne_some]
  rintro ⟨op, next⟩ hprog
  obtain ⟨a, s', hadv⟩ := program_stage hprog
  rw [show Pc.stage _ _ = Stage.over from hover] at hadv
  unfold Op.Advance at hadv
  split at hadv <;> simp at hadv

/-- A task that has signalled a failure is over. -/
def Failed (w : World) : Prop :=
  ∀ i b reason, (.background i b, .sent (.failure reason)) ∈ w.history →
    w.stage (.background i b) = .over

theorem TaskStep.failed (hw : Failed w) (h : TaskStep env w t reply w') : Failed w' := by
  intro i b reason hsent
  by_cases hold : (.background i b, .sent (.failure reason)) ∈ w.history
  · -- The task is over already, so the step is another's.
    have hover := hw i b reason hold
    have ht : .background i b ≠ t := by
      rintro rfl
      obtain ⟨op, next, hprog⟩ := h.exists_program
      rw [program_of_over hover] at hprog
      cases hprog
    rw [h.stage_of_ne ht, hover]
  cases h with
  | @complete op next a w₁ pc hprog howed hexec howed' hnext =>
    obtain hh | ⟨e, he, hh⟩ := exec_history hexec
    · exact absurd (hh ▸ hsent) hold
    · rw [World.goto_history, hh] at hsent
      cases (List.mem_cons.mp hsent).resolve_right hold
      -- Only `connect` sends a failure outside of `emit_failure_once`.
      obtain rfl := Op.records_sent.mp he
      obtain ⟨j, hj⟩ := program_of hprog
      cases hj
  | update => exact absurd (by simpa using hsent) hold
  | win => exact absurd hsent hold
  | @settle op next signal pc hprog howed hsignal hnext =>
    obtain hh | ⟨-, hh⟩ := emit_history (w := w) (t := t)
    · rw [World.goto_history, hh] at hsent
      exact absurd hsent hold
    · rw [World.goto_history, hh] at hsent
      cases (List.mem_cons.mp hsent).resolve_right hold
      -- The signal that `emit_failure_once` owes is the last thing that its task does.
      obtain ⟨j, rfl⟩ := Op.signal_failure.mp hsignal
      rw [stage_goto]
      exact (program_advance hprog hnext).2

theorem failed_of_reachable (h : (machine env).Reachable w) : Failed w := by
  refine invariant_of_steps (I := Failed) nofun ?_ ?_ (fun _ ↦ id) h
  · exact fun w t reply w' _ _ hw htask ↦ htask.failed hw
  · intro w j c _ hw i b reason hsent
    by_cases ht : TaskId.background i b = .background j c
    · cases ht
      rw [stage_goto, stage_exited]
    · rw [stage_goto_of_ne ht]
      exact hw i b reason hsent

/-- An event that reports the session as starting or started. -/
def Event.Reports : Event → Prop
  | .sent .config | .sent .ip4Config | .set .starting _ | .set .started _
  | .sent (.stateChanged .starting) | .sent (.stateChanged .started) => True
  | _ => False

/-- A task does not report anything once it has signalled a failure, and the attention listener
never does. -/
def FinalForTask (e : TaskId × Event) (earlier : List (TaskId × Event)) : Prop :=
  ∀ i b, e.1 = .background i b → e.2.Reports →
    b ≠ .attention ∧ ∀ reason, (e.1, .sent (.failure reason)) ∉ earlier

/-- The operations that report. -/
theorem Op.of_reports {e : Event} (hof : op.Of t)
    (he : op.Records e ∨ ∃ signal, op.signal = some signal ∧ w.owed t = some signal ∧
      e = .sent signal) (hrep : e.Reports) :
    op = .send .config ∨ op = .send .ip4Config ∨ op = .setState .starting ∨
      op = .setState .started := by
  obtain he | ⟨signal, hsignal, -, rfl⟩ := he
  · cases e with
    | sent signal =>
      obtain rfl := Op.records_sent.mp he
      cases signal with
      | config => exact .inl rfl
      | ip4Config => exact .inr (.inl rfl)
      | stateChanged new => exact absurd hof id
      | failure _ | secretsRequired _ _ => exact absurd hrep id
    | set new changed =>
      obtain rfl := Op.records_set.mp he
      cases new <;> first | exact absurd hrep id | simp
    | _ => exact absurd hrep id
  · obtain ⟨new, rfl, rfl⟩ | ⟨j, reason, rfl, rfl⟩ := Op.of_signal hsignal
    · cases new <;> first | exact absurd hrep id | simp
    · exact absurd hrep id

/-- The operations of the attention listener report nothing. -/
theorem not_reports_of_attention {next : Answer → Option (Pc (.background i .attention))}
    {e : Event} (hprog : program env w (.background i .attention) = some (op, next))
    (he : op.Records e ∨ ∃ signal, op.signal = some signal ∧
      w.owed (.background i .attention) = some signal ∧ e = .sent signal) : ¬e.Reports := by
  intro hrep
  have hof := program_of hprog
  obtain rfl | rfl | rfl | rfl := Op.of_reports hof he hrep <;> simp [Op.Of] at hof

/-- Once a background task has signalled a failure, it does not report its session as starting or
started any more. -/
theorem failure_final_for_task (env : Env) {w : World} (h : (machine env).Reachable w) :
    Keeps FinalForTask w.history := by
  refine h.invariant_of_reachable (I := fun w ↦ Keeps FinalForTask w.history)
    (by rintro _ rfl; trivial) ?_
  intro w act w' hreach hkeeps _ hstep
  refine step_keeps hkeeps ?_ hstep
  rintro t reply op next e - hprog he i b rfl hrep
  refine ⟨?_, fun reason hsent ↦ ?_⟩
  · rintro rfl
    exact not_reports_of_attention hprog he hrep
  · rw [program_of_over (failed_of_reachable hreach i b reason hsent)] at hprog
    cases hprog

/-! ## One failure signal -/

def Event.isFailure : Event → Bool
  | .sent (.failure _) => true
  | _ => false

theorem Event.isFailure_iff {e : Event} :
    e.isFailure = true ↔ ∃ reason, e = .sent (.failure reason) := by
  cases e with
  | sent signal => cases signal <;> simp [isFailure]
  | _ => simp [isFailure]

/-- `connect` has signalled a failure of its own. -/
def ConnectSignalled (i : ℕ) (h : List (TaskId × Event)) : Prop :=
  ∃ reason, (.connect i, .sent (.failure reason)) ∈ h

/-- `connect` signals a failure only while no background task has taken the failure flag, and none
takes it after that. -/
structure OneSource (env : Env) (w : World) (act : Action) : Prop where
  connect : ∀ i, act = .run (.connect i) .ok → w.pc (.connect i) = ConnectPc.failure →
    (w.flags i).failureEmitted = false
  background : ∀ i b reply reason next, act = .run (.background i b) reply →
    program env w (.background i b) = some (.emitFailureOnce i reason, next) →
    ConnectSignalled i w.history → (w.flags i).failureEmitted = true

/-- The race for the failure signal of an activation. A background task is at work while it owes the
signal; `connect` signals without owing anything. -/
def failureClaim (w : World) (i : ℕ) : Claim TaskId where
  taken := (w.flags i).failureEmitted = true ∨ ConnectSignalled i w.history
  busy t := t.activation = some i ∧ ∃ reason, w.owed t = some (.failure reason)
  reports := w.tally i Event.isFailure

/-- Once `connect` has signalled a failure, it is on its way out. -/
def Leaving (w : World) : Prop :=
  ∀ i, ConnectSignalled i w.history →
    ∃ r, w.pc (.connect i) = ConnectPc.replying r ∨ w.pc (.connect i) = ConnectPc.replied r

theorem ConnectPc.of_send_failure {pc : ConnectPc} {data : VpnData} {secrets : SecretsMap}
    {next : Answer → Option ConnectPc} {reason : NmVpnPluginFailure}
    (hcode : pc.code i data secrets = some (.send (.failure reason), next)) :
    pc = .failure ∧ next = onReply (.replying .failed) (.replying .failed) := by
  cases pc <;> cases hcode
  exact ⟨rfl, rfl⟩

/-- All that is left is to give back the lock. -/
theorem ConnectPc.of_leaving {pc : ConnectPc} {data : VpnData} {secrets : SecretsMap}
    {next : Answer → Option ConnectPc} {r : ConnectReply} (hpc : pc = .replying r ∨ pc = .replied r)
    (hcode : pc.code i data secrets = some (op, next)) :
    op = .release ∧ next = always (.replied r) := by
  obtain rfl | rfl := hpc <;> cases hcode
  exact ⟨rfl, rfl⟩

theorem TaskStep.leaving (hw : Leaving w) (h : TaskStep env w t reply w') : Leaving w' := by
  rintro i ⟨reason, hsent⟩
  by_cases ht : .connect i = t
  swap
  · rw [h.pc_of_ne ht]
    refine hw i ⟨reason, ?_⟩
    obtain hh | ⟨op, next, e, -, hh, -⟩ := h.history
    · exact hh ▸ hsent
    · rw [hh] at hsent
      exact (List.mem_cons.mp hsent).resolve_left fun e ↦ ht (congrArg Prod.fst e)
  subst ht
  -- The failure was sent before, or it is sent by this step.
  by_cases hold : (.connect i, .sent (.failure reason)) ∈ w.history
  · obtain ⟨r, hpc⟩ := hw i ⟨reason, hold⟩
    cases h with
    | complete hprog howed hexec howed' hnext =>
      obtain ⟨-, rfl⟩ := ConnectPc.of_leaving hpc hprog
      obtain rfl := always_eq_some.mp hnext
      exact ⟨r, .inr (by simp)⟩
    | update | win => exact ⟨r, hpc⟩
    | settle hprog howed hsignal hnext =>
      obtain ⟨rfl, -⟩ := ConnectPc.of_leaving hpc hprog
      cases hsignal
  cases h with
  | @complete op next a w₁ pc hprog howed hexec howed' hnext =>
    obtain hh | ⟨e, he, hh⟩ := exec_history hexec
    · exact absurd (hh ▸ hsent) hold
    · rw [World.goto_history, hh] at hsent
      cases (List.mem_cons.mp hsent).resolve_right hold
      obtain rfl := Op.records_sent.mp he
      obtain ⟨-, rfl⟩ := ConnectPc.of_send_failure hprog
      obtain ⟨-, rfl⟩ | ⟨-, rfl⟩ := onReply_eq_some.mp hnext <;> exact ⟨.failed, .inl (by simp)⟩
  | update => exact absurd (by simpa using hsent) hold
  | win => exact absurd hsent hold
  | @settle op next signal pc hprog howed hsignal hnext =>
    obtain hh | ⟨-, hh⟩ := emit_history (w := w) (t := .connect i)
    · rw [World.goto_history, hh] at hsent
      exact absurd hsent hold
    · rw [World.goto_history, hh] at hsent
      cases (List.mem_cons.mp hsent).resolve_right hold
      obtain ⟨j, rfl⟩ := Op.signal_failure.mp hsignal
      obtain ⟨b, hb⟩ := program_of hprog
      cases hb

theorem leaving_of_reachable (h : (machine env).Reachable w) : Leaving w := by
  refine invariant_of_steps (I := Leaving) (by rintro i ⟨reason, hsent⟩; cases hsent) ?_ ?_
    (fun _ ↦ id) h
  · exact fun w t reply w' _ _ hw htask ↦ htask.leaving hw
  · intro w j c _ hw i hs
    simpa using hw i hs

section Steps

variable {next : Answer → Option (Pc t)} {pc : Pc t}

/-- An operation that is done, other than the signal of `connect`, leaves the race as it is. -/
theorem failureClaim_complete (hprog : program env w t = some (op, next))
    (howed : w.owed t = none) (hexec : exec t w op reply = some (a, w')) (howed' : w'.owed t = none)
    (hop : t = .connect i → ∀ reason, op ≠ .send (.failure reason)) :
    Claim.Move (failureClaim w i) (failureClaim (w'.goto t pc) i) := by
  refine .stay ?_ ?_ ?_
  · rintro (hflag | ⟨reason, hsent⟩)
    · exact .inl ((exec_failureEmitted hexec howed').trans hflag)
    · exact .inr ⟨reason, (exec_history_suffix hexec).subset hsent⟩
  · rintro s ⟨hs, reason, howes⟩
    rw [World.goto_owed] at howes
    by_cases hst : s = t
    · rw [hst, howed'] at howes
      cases howes
    · exact ⟨hs, reason, exec_owed_of_ne hexec hst ▸ howes⟩
  · refine (exec_tally (p := Event.isFailure) hexec fun ht e he ↦ ?_ : w'.tally i _ = _)
    by_contra hfail
    obtain ⟨reason, rfl⟩ := Event.isFailure_iff.mp (eq_true_of_ne_false hfail)
    obtain rfl := Op.records_sent.mp he
    obtain ⟨j, rfl⟩ := program_of hprog
    obtain rfl : j = i := Option.some_inj.mp ht
    exact hop rfl reason rfl

/-- The signal of `connect`, if it gets out, settles the race. -/
theorem failureClaim_connect {reason : NmVpnPluginFailure}
    {next : Answer → Option (Pc (.connect i))} {pc : Pc (.connect i)} (hleave : Leaving w)
    (hone : OneSource env w (.run (.connect i) reply))
    (hprog : program env w (.connect i) = some (.send (.failure reason), next))
    (hexec : exec (.connect i) w (.send (.failure reason)) reply = some (a, w')) :
    Claim.Move (failureClaim w i) (failureClaim (w'.goto (.connect i) pc) i) := by
  obtain ⟨hpc, -⟩ := ConnectPc.of_send_failure hprog
  cases reply with
  | ok =>
    cases hexec
    refine .finish ?_ (.inr ⟨reason, List.mem_cons_self⟩) (fun _ ↦ id) (tally_succ rfl rfl rfl)
    rintro (hflag | hsignalled)
    · rw [hone.connect i rfl hpc] at hflag
      cases hflag
    · obtain ⟨r, hr | hr⟩ := hleave i hsignalled <;> rw [hpc] at hr <;> cases hr
  | _ =>
    cases hexec
    exact .stay id (fun _ ↦ id) rfl

/-- Whatever a task owes but a failure signal, it is not at work on one. -/
theorem failureClaim_busy_of_owe {signal : Option Signal}
    (hsignal : ∀ reason, signal ≠ some (.failure reason)) (howed : w'.owed = w.owed)
    (hs : (failureClaim (w'.owe t signal) i).busy s) : s ≠ t ∧ (failureClaim w i).busy s := by
  obtain ⟨hact, reason, howes⟩ := hs
  rw [World.owe_owed, howed] at howes
  by_cases hst : s = t
  · subst hst
    rw [Function.update_self] at howes
    exact absurd howes (hsignal reason)
  · rw [Function.update_of_ne hst] at howes
    exact ⟨hst, hact, reason, howes⟩

/-- A background task takes the failure flag. -/
theorem failureClaim_win {j : ℕ} {reason : NmVpnPluginFailure}
    (hflag : (w.flags j).failureEmitted = false)
    (hfree : j = i → ¬ConnectSignalled i w.history) (ht : t.activation = some j) :
    Claim.Move (failureClaim w i) (failureClaim ((w.setFlags j fun f ↦
      { f with failureEmitted := true }).owe t (some (.failure reason))) i) := by
  have hothers {s : TaskId} (hst : s ≠ t) (hs : (failureClaim ((w.setFlags j fun f ↦
      { f with failureEmitted := true }).owe t (some (.failure reason))) i).busy s) :
      (failureClaim w i).busy s := by
    obtain ⟨hact, reason', howes⟩ := hs
    rw [World.owe_owed, Function.update_of_ne hst] at howes
    exact ⟨hact, reason', howes⟩
  -- Taking the flag of another activation leaves this claim alone.
  by_cases hji : j = i
  · subst hji
    refine .claim t ?_ (.inl (by simp)) (fun s hs ↦ ?_) rfl
    · rintro (htrue | hsignalled)
      · simp [hflag] at htrue
      · exact hfree rfl hsignalled
    · exact or_iff_not_imp_left.mpr fun hst ↦ hothers hst hs
  · refine .stay (Or.imp_left fun htrue ↦ ?_) (fun s hs ↦ hothers ?_ hs) rfl
    · rwa [World.owe_flags, World.setFlags_of_ne (Ne.symm hji)]
    · rintro rfl
      exact hji (Option.some_inj.mp (ht.symm.trans hs.1))

/-- An owed signal is sent, or lost. -/
theorem failureClaim_emit {signal : Signal} (howed : w.owed t = some signal) :
    Claim.Move (failureClaim w i) (failureClaim (emit t w signal reply) i) := by
  by_cases hreply : reply = .ok
  · subst hreply
    have hothers {s : TaskId}
        (hs : (failureClaim ((w.note t (.sent signal)).owe t none) i).busy s) :
        s ≠ t ∧ (failureClaim w i).busy s := failureClaim_busy_of_owe (by simp) rfl hs
    have htaken : (failureClaim w i).taken → (failureClaim (emit t w signal .ok) i).taken :=
      Or.imp_right fun ⟨reason, hsent⟩ ↦ ⟨reason, .tail _ hsent⟩
    by_cases hfail : t.activation = some i ∧ ∃ reason, signal = .failure reason
    · obtain ⟨hact, reason, rfl⟩ := hfail
      exact .report t ⟨hact, reason, howed⟩ htaken (fun s hs ↦ hothers hs) (tally_succ rfl hact rfl)
    · refine .stay htaken (fun s hs ↦ (hothers hs).2) (tally_of_cons rfl fun hact ↦ ?_)
      by_contra hev
      obtain ⟨reason, hev⟩ := Event.isFailure_iff.mp (eq_true_of_ne_false hev)
      exact hfail ⟨hact, reason, Event.sent.inj hev⟩
  · have hemit : emit t w signal reply = w.owe t none := by
      cases reply <;> first | rfl | exact absurd rfl hreply
    rw [hemit]
    exact .stay id (fun s hs ↦ (failureClaim_busy_of_owe (by simp) rfl hs).2) rfl

theorem TaskStep.failureClaim_move (hleave : Leaving w) (hone : OneSource env w (.run t reply))
    (h : TaskStep env w t reply w') : Claim.Move (failureClaim w i) (failureClaim w' i) := by
  cases h with
  | @complete op next a w₁ pc hprog howed hexec howed' hnext =>
    by_cases hsend : t = .connect i ∧ ∃ reason, op = .send (.failure reason)
    · obtain ⟨rfl, reason, rfl⟩ := hsend
      exact failureClaim_connect hleave hone hprog hexec
    · rw [not_and, not_exists] at hsend
      exact failureClaim_complete hprog howed hexec howed' hsend
  | @update new next hprog howed hstate =>
    exact .stay (Or.imp_right fun ⟨reason, hsent⟩ ↦ ⟨reason, .tail _ hsent⟩)
      (fun s hs ↦ (failureClaim_busy_of_owe (by simp) rfl hs).2) (tally_of_cons rfl fun _ ↦ rfl)
  | @win j reason next hprog howed hflag =>
    obtain ⟨b, rfl⟩ := program_of hprog
    refine failureClaim_win hflag ?_ rfl
    rintro rfl hsignalled
    have := hone.background j b reply reason next rfl hprog hsignalled
    simp [hflag] at this
  | @settle op next signal pc hprog howed hsignal hnext => exact failureClaim_emit howed

end Steps

/-- In runs in which `connect` and the background tasks do not both signal, an activation has at
most one failure signal. -/
theorem failure_at_most_once (env : Env) {w : World}
    (h : (machine env).ReachableBy (OneSource env) w) (i : ℕ) : w.tally i Event.isFailure ≤ 1 := by
  suffices (failureClaim w i).Sound from this.reports_le_one
  refine invariant_of_steps (I := fun w ↦ (failureClaim w i).Sound) ?_ ?_ ?_ ?_ h
  · have hnobody (t : TaskId) : ¬(failureClaim .init i).busy t := by
      rintro ⟨-, reason, howes⟩
      cases howes
    exact ⟨fun t ht ↦ absurd ht (hnobody t), fun s _ hs ↦ absurd hs (hnobody s),
      fun hne ↦ absurd rfl hne⟩
  · intro w t reply w' hreach hone hsound htask
    exact hsound.move (htask.failureClaim_move (leaving_of_reachable hreach) hone)
  · -- A task that is cancelled before it sends the signal takes it along.
    intro w j b _ hsound
    refine hsound.move (.stay id (fun s hs ↦ ?_) rfl)
    exact (failureClaim_busy_of_owe (t := .background j b) (by simp) rfl hs).2
  · exact fun w hsound ↦ hsound.move (.stay id (fun _ ↦ id) rfl)

/-- The listener hears that the connection has failed. -/
private def listenerHearsFailure : List Action :=
  ([.ok, .status 2 10, .ok, .ok, .ok, .ok, .ok, .ok] : List Answer).map
    (.run (.background 0 .listener))

private def failedOnce : World :=
  ((machine sampleEnv).run .init (connectRun ++ listenerHearsFailure)).getD .init

theorem not_connectSignalled {h : List (TaskId × Event)}
    (hall : (h.all fun e ↦ !(decide (e.1 = .connect i) && e.2.isFailure)) = true) :
    ¬ConnectSignalled i h := by
  rintro ⟨reason, hsent⟩
  have := List.all_eq_true.mp hall _ hsent
  simp [Event.isFailure] at this

theorem failure_at_most_once_failedOnce :
    failedOnce.sessions = ["/session"] ∧ failedOnce.tally 0 Event.isFailure = 1 ∧
      failedOnce.tally 0 Event.isFailure ≤ 1 := by
  refine ⟨rfl, rfl,
    failure_at_most_once sampleEnv (Machine.ReachableBy.getD_run ⟨_, rfl, .refl⟩ _ ?_) 0⟩
  simp only [connectRun, listenerHearsFailure, List.map, List.cons_append, List.nil_append,
    Machine.Allows, and_true]
  and_intros <;> refine ⟨by rintro i ⟨⟩ ⟨⟩, ?_⟩
  all_goals rintro i b reply reason next ⟨⟩ ⟨⟩ hsignalled
  all_goals exact absurd hsignalled (not_connectSignalled rfl)

/-- The call to connect fails, and the session is cleaned up. -/
private def connectFails : List Action :=
  ([.err, .ok, .ok, .ok, .ok, .ok, .ok] : List Answer).map (.run (.connect 0))

/-- The listener signals the failure of the connection, and `connect` its own. -/
theorem failure_twice :
    ∃ w, (machine sampleEnv).Reachable w ∧ w.tally 0 Event.isFailure = 2 :=
  ⟨_, Machine.reachable_getD_run (Machine.reachable_of_init rfl)
    (connectRun.take 16 ++ listenerHearsFailure ++ connectFails), rfl⟩

end Plugin

end NmOpenvpn3
