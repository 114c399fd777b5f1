import NmOpenvpn3.Plugin.Steps

/-!
# The timeout of an activation

The poller gives up a session that it has not seen start within a number of polls. It only learns of
a start from its own polls: a start that the listener has reported, and that no poll observes, is
timed out like one that never came. `session_started_not_timed_out` says when that does not happen.
-/

namespace NmOpenvpn3

namespace Plugin

open Rust Ovpn Service Concurrent

variable {env : Env} {w w' : World} {t : TaskId} {op : Op} {reply a : Answer} {i : ℕ}

/-! ## The polls before the start -/

/-- The poller is at its last poll before the timeout, or has made it. -/
def Polling.Last (l : Polling) : Prop := l.ip4Emitted = false ∧ maxTicksPreStarted ≤ l.ticks + 1

/-- The poller has made its last poll without seeing a start or an end, or is timing out. -/
def PollerPc.Exhausted : PollerPc → Prop
  | .tick l | .other l _ => l.Last
  | .emitter l _ target => l.Last ∧ target ≠ .started ∧ target ≠ .stopped
  | .timedOut | .timeoutStopped | .timeoutFailure => True
  | _ => False

/-- A reply with which the last poll fails to see a start or an end: the status cannot be read, the
status is neither and no tunnel device shows, or the finding cannot be reported. -/
def PollerPc.Unobserved : PollerPc → Answer → Prop
  | .status l, .err => l.Last
  | .device l st, .device name =>
    l.Last ∧ isTun name = false ∧ st.bind Status.toNmState ≠ some .started
  | .device l st, .err => l.Last ∧ st.bind Status.toNmState ≠ some .started
  | .emitter l _ _, .err => l.Last
  | _, _ => False

namespace PollerPc

variable {pc pc' : PollerPc} {next : Answer → Option PollerPc} {l : Polling}

theorem exhausted_wake (h : (wake l).Exhausted) : l.Last := by
  simp only [wake] at h
  split_ifs at h with hlast
  · exact ⟨by simpa using hlast.1, hlast.2⟩
  · exact h.elim

theorem exhausted_decide {st : Option Status} {target : Option NmVpnServiceState}
    (h : (PollerPc.decide l st target).Exhausted) :
    l.Last ∧ target ≠ some .started ∧ target ≠ some .stopped := by
  cases target with
  | none => exact ⟨h, nofun, nofun⟩
  | some target => simpa [PollerPc.decide, Exhausted] using h

theorem exhausted_dispatch {st : Option Status} {target : NmVpnServiceState}
    (h : (dispatch l st target).Exhausted) :
    l.Last ∧ target ≠ .started ∧ target ≠ .stopped := by
  cases target <;> simp only [dispatch] at h <;> (try split_ifs at h with hip4) <;>
    simp_all [Exhausted, Polling.Last]

/-- A status that is read is the end, or leaves the device to be looked at. -/
theorem not_exhausted_read {st : Option Status} : ¬(read l st).Exhausted := by
  intro h
  simp only [read] at h
  split_ifs at h with hdev
  · exact h.elim
  · obtain ⟨hlast, -, hstop⟩ := exhausted_decide h
    exact hdev ⟨by simp [hlast.1], hstop⟩

theorem exhausted_unread (h : (unread l).Exhausted) : l.Last := by
  simp only [unread] at h
  split_ifs at h with hip4 hbudget
  · simp [Exhausted, Polling.Last, hip4] at h
  · exact h.elim
  · exact h

/-- The polls are only used up by a last poll that observes nothing. -/
theorem exhausted_of_next (hcode : pc.code i = some (op, next)) (hnext : next a = some pc')
    (h : pc'.Exhausted) : pc.Exhausted ∨ op = .call ∧ pc.Unobserved a := by
  cases pc <;> cases hcode
  case tick l =>
    obtain rfl := always_eq_some.mp hnext
    exact .inl (exhausted_wake h)
  -- After a status that could be read there is still the device name to look at.
  case status l =>
    cases a <;> simp only [Option.some_inj, reduceCtorEq] at hnext <;> subst hnext
    case status major minor => exact absurd h not_exhausted_read
    case err => exact .inr ⟨rfl, exhausted_unread h⟩
  -- A device name speaks for the start only when it begins with `tun`.
  case device l st =>
    cases a <;> simp only [Option.some_inj, reduceCtorEq] at hnext <;> subst hnext
    case device name =>
      obtain ⟨hlast, hstarted, -⟩ := exhausted_decide h
      split_ifs at hstarted with htun
      · exact absurd rfl hstarted
      · exact .inr ⟨rfl, hlast, eq_false_of_ne_true htun, hstarted⟩
    case err =>
      obtain ⟨hlast, hstarted, -⟩ := exhausted_decide h
      exact .inr ⟨rfl, hlast, hstarted⟩
  case emitter l st target =>
    simp only [onReply_eq_some] at hnext
    obtain ⟨rfl, rfl⟩ | ⟨rfl, rfl⟩ := hnext
    · exact .inl (exhausted_dispatch h)
    · exact .inr ⟨rfl, h⟩
  case ip4 l e =>
    cases e <;> simp only [Ip4Pc.next, Option.elim, onReply_eq_some] at hnext <;>
      obtain ⟨-, rfl⟩ | ⟨-, rfl⟩ := hnext <;> exact h.elim
  all_goals simp only [always_eq_some, onReply_eq_some, onFlag_eq_some] at hnext
  all_goals first
    | obtain rfl := hnext
    | obtain ⟨rfl, rfl⟩ | ⟨rfl, rfl⟩ := hnext
  all_goals simp_all [Exhausted, Polling.Last, Polling.started, maxTicksPreStarted]

end PollerPc

/-! ## The start by the listener -/

/-- The listener has published the configuration, and then set the state to `Started`. -/
def ListenerStarted (i : ℕ) : List (TaskId × Event) → Prop
  | [] => False
  | (t, e) :: h =>
    (t = .background i .listener ∧ (∃ changed, e = .set .started changed) ∧
      (.background i .listener, .sent .ip4Config) ∈ h) ∨ ListenerStarted i h

theorem ListenerStarted.mono {h h' : List (TaskId × Event)} (hs : ListenerStarted i h)
    (hh : h <:+ h') : ListenerStarted i h' := by
  obtain ⟨later, rfl⟩ := hh
  induction later with
  | nil => exact hs
  | cons e later ih => exact .inr ih

/-- Once the listener has published the configuration, it has started the session, or is about to,
or was cancelled. -/
def Published (w : World) (i : ℕ) : Prop :=
  (.background i .listener, .sent .ip4Config) ∈ w.history →
    ListenerStarted i w.history ∨
      (w.pc (.background i .listener) = ListenerPc.started ∧
        w.owed (.background i .listener) = none) ∨
      w.pc (.background i .listener) = ListenerPc.exited

theorem ListenerPc.started_of_sent {pc pc' : ListenerPc} {next : Answer → Option ListenerPc}
    (hcode : pc.code i = some (.send .ip4Config, next)) (hnext : next .ok = some pc') :
    pc' = .started := by
  cases pc
  case ip4 e =>
    cases e <;> cases hcode
    exact (Option.some_inj.mp hnext).symm
  all_goals cases hcode

/-- What the listener does once it has published the configuration. -/
theorem program_of_published {next : Answer → Option (Pc (.background i .listener))}
    (hpub : Published w i)
    (hsent : (.background i .listener, .sent .ip4Config) ∈ w.history)
    (hprog : program env w (.background i .listener) = some (op, next)) :
    ListenerStarted i w.history ∨
      op = .setState .started ∧ w.owed (.background i .listener) = none ∧
        w.pc (.background i .listener) = ListenerPc.started := by
  obtain ⟨-, -, hcode⟩ := Option.bind_eq_some_iff.mp hprog
  obtain hs | ⟨hpc, howed⟩ | hpc := hpub hsent
  · exact .inl hs
  · rw [hpc] at hcode
    cases hcode
    exact .inr ⟨rfl, howed, hpc⟩
  · rw [hpc] at hcode
    cases hcode

theorem TaskStep.published (hpub : Published w i) (h : TaskStep env w t reply w') :
    Published w' i := by
  intro hsent
  by_cases ht : t = .background i .listener
  swap
  · -- Another task cannot have sent the listener's signal.
    have hold : (TaskId.background i .listener, Event.sent .ip4Config) ∈ w.history := by
      obtain hh | ⟨op, next, e, -, hh, -⟩ := h.history
      · exact hh ▸ hsent
      · rw [hh] at hsent
        exact (List.mem_cons.mp hsent).resolve_left fun e ↦ ht (congrArg Prod.fst e).symm
    rw [h.pc_of_ne (Ne.symm ht), h.owed_of_ne (Ne.symm ht)]
    exact (hpub hold).imp_left fun hs ↦ hs.mono h.history_suffix
  subst ht
  cases h with
  | @complete op next a w₁ pc hprog howed hexec howed' hnext =>
    rw [World.goto_history] at hsent ⊢
    obtain hh | ⟨e, he, hh⟩ := exec_history hexec
    · rw [hh] at hsent ⊢
      obtain hs | ⟨rfl, -, -⟩ := program_of_published hpub hsent hprog
      · exact .inl hs
      · simp only [exec] at hexec
        split_ifs at hexec <;> cases hexec <;> simp at hh
    · rw [hh] at hsent ⊢
      obtain heq | hold := List.mem_cons.mp hsent
      · obtain rfl : Event.sent .ip4Config = e := congrArg Prod.snd heq
        obtain rfl := Op.records_sent.mp he
        obtain rfl : a = .ok := by
          cases reply <;> cases hexec
          · rfl
          all_goals simp at hh
        obtain ⟨-, -, hcode⟩ := Option.bind_eq_some_iff.mp hprog
        refine .inr (.inl ⟨?_, howed'⟩)
        rw [World.goto_pc, Function.update_self]
        exact ListenerPc.started_of_sent hcode hnext
      · obtain hs | ⟨rfl, -, -⟩ := program_of_published hpub hold hprog
        · exact .inl (.inr hs)
        · exact .inl (.inl ⟨rfl, he, hold⟩)
  -- The listener assigns `Started` when it owes nothing, so this is the assignment in question.
  | update hprog howed hstate =>
    obtain hs | ⟨hop, -, -⟩ := program_of_published hpub (by simpa using hsent) hprog
    · exact .inl (.inr hs)
    · cases hop
      exact .inl (.inl ⟨rfl, ⟨true, rfl⟩, by simpa using hsent⟩)
  | win hprog howed hflag =>
    obtain hs | ⟨hop, -, -⟩ := program_of_published hpub hsent hprog
    · exact .inl hs
    · cases hop
  | @settle op next signal pc hprog howed hsignal hnext =>
    have hold : (TaskId.background i .listener, Event.sent .ip4Config) ∈ w.history := by
      rw [World.goto_history] at hsent
      obtain hh | ⟨-, hh⟩ := emit_history (w := w) (t := .background i .listener)
      · exact hh ▸ hsent
      · rw [hh] at hsent
        refine (List.mem_cons.mp hsent).resolve_left fun e ↦ ?_
        cases e
        cases op <;> cases hsignal
    obtain hs | ⟨-, hnone, -⟩ := program_of_published hpub hold hprog
    · refine .inl (hs.mono ?_)
      rw [World.goto_history]
      obtain hh | ⟨-, hh⟩ := emit_history (w := w) (t := .background i .listener)
      · exact hh ▸ List.suffix_rfl
      · exact hh ▸ List.suffix_cons _ _
    · rw [hnone] at howed
      cases howed

theorem published_of_reachable (h : (machine env).Reachable w) (i : ℕ) : Published w i := by
  refine invariant_of_steps (I := fun w ↦ Published w i) nofun ?_ ?_ (fun _ ↦ id) h
  · exact fun w t reply w' _ _ hpub htask ↦ htask.published hpub
  · intro w j b _ hpub
    by_cases ht : TaskId.background j b = .background i .listener
    · cases ht
      exact fun _ ↦ .inr (.inr (by simp [Pc.exited]))
    · intro hsent
      simpa [Ne.symm ht] using hpub hsent

/-! ## No timeout after the start -/

/-- After the listener has started the session, the last poll before the timeout observes the start
or the end; and the listener does not start a session whose polls are used up. -/
structure InTime (w : World) (act : Action) : Prop where
  observed : ∀ i reply, act = .run (.background i .poller) reply →
    ListenerStarted i w.history → ¬PollerPc.Unobserved (w.pc (.background i .poller)) reply
  early : ∀ i reply, act = .run (.background i .listener) reply →
    w.pc (.background i .listener) = ListenerPc.started →
    ¬PollerPc.Exhausted (w.pc (.background i .poller))

/-- Where the listener has started the session, the poller has polls left. -/
def Spared (w : World) (i : ℕ) : Prop :=
  ListenerStarted i w.history → ¬PollerPc.Exhausted (w.pc (.background i .poller))

theorem TaskStep.spared (hpub : Published w i) (hw : Spared w i)
    (hin : InTime w (.run t reply)) (h : TaskStep env w t reply w') : Spared w' i := by
  intro hs
  by_cases ht : t = .background i .poller
  · subst ht
    -- The poller moves: the start is not its doing, so it has been observed by now.
    have hold : ListenerStarted i w.history := by
      obtain hh | ⟨op, next, e, -, hh, -⟩ := h.history
      · exact hh ▸ hs
      · rw [hh] at hs
        exact hs.resolve_left fun h ↦ by simp at h
    have hnot := hw hold
    cases h with
    | @complete op next a w₁ pc hprog howed hexec howed' hnext =>
      obtain ⟨-, -, hcode⟩ := Option.bind_eq_some_iff.mp hprog
      rw [World.goto_pc, Function.update_self]
      intro hex
      obtain hex | ⟨rfl, hun⟩ := PollerPc.exhausted_of_next hcode hnext hex
      · exact hnot hex
      · cases hexec
        exact hin.observed i _ rfl hold hun
    | update | win => exact hnot
    | @settle op next signal pc hprog howed hsignal hnext =>
      obtain ⟨-, -, hcode⟩ := Option.bind_eq_some_iff.mp hprog
      rw [World.goto_pc, Function.update_self]
      intro hex
      obtain hex | ⟨rfl, -⟩ := PollerPc.exhausted_of_next hcode hnext hex
      · exact hnot hex
      · cases hsignal
  · rw [h.pc_of_ne (Ne.symm ht)]
    -- Another task moves: it may be the listener that starts the session, early enough.
    obtain hh | ⟨op, next, e, hprog, hh, he⟩ := h.history
    · exact hw (hh ▸ hs)
    · rw [hh] at hs
      obtain ⟨rfl, ⟨changed, rfl⟩, hsent⟩ | hold := hs
      · obtain hold | ⟨-, -, hpc⟩ := program_of_published hpub hsent hprog
        · exact hw hold
        · exact hin.early i reply rfl hpc
      · exact hw hold

/-- In runs in which polls observe a start in time, a session that the listener has started is not
timed out by the poller. -/
theorem session_started_not_timed_out (env : Env) {w : World}
    (h : (machine env).ReachableBy InTime w) (i : ℕ) (hs : ListenerStarted i w.history) :
    w.pc (.background i .poller) ≠ PollerPc.timeoutStopped ∧
      w.pc (.background i .poller) ≠ PollerPc.timeoutFailure := by
  have hspared : Spared w i := by
    refine invariant_of_steps (I := fun w ↦ Spared w i) (fun hs ↦ hs.elim) ?_ ?_ (fun _ ↦ id) h
    · intro w t reply w' hreach hin hw htask
      exact htask.spared (published_of_reachable hreach i) hw hin
    · intro w j b _ hw
      by_cases ht : TaskId.background j b = .background i .poller
      · cases ht
        simp [Spared, Pc.exited, PollerPc.Exhausted]
      · simpa [Spared, Ne.symm ht] using hw
  constructor <;> intro hpc <;> simpa [hpc, PollerPc.Exhausted] using hspared hs

/-- The listener starts the session, and the poller attaches to it. -/
private def startedRun : List Action :=
  connectRun ++ ([.ok, .status 2 7, .ok, .ok, .ok, .ok, .ok, .ok, .ok] : List Answer).map
    (.run (.background 0 .listener)) ++ [.run (.background 0 .poller) .ok]

/-- The first poll observes the start. -/
private def pollSucceeds : List Action :=
  ([.ok, .status 2 7, .device "", .ok, .ok] : List Answer).map (.run (.background 0 .poller))

theorem session_started_not_timed_out_observed :
    (((machine sampleEnv).run .init (startedRun ++ pollSucceeds)).getD .init).pc
      (.background 0 .poller) ≠ PollerPc.timeoutStopped := by
  refine (session_started_not_timed_out sampleEnv
    (Machine.ReachableBy.getD_run ⟨_, rfl, .refl⟩ _ ?_) 0 ?_).1
  · simp only [startedRun, pollSucceeds, connectRun, List.map, List.cons_append, List.nil_append,
      Machine.Allows, and_true]
    and_intros <;> constructor <;> rintro i reply ⟨⟩ - h <;>
      first | exact h | exact absurd h.1.2 (by decide)
  · exact .inr (.inl ⟨rfl, ⟨true, rfl⟩, List.mem_cons_self⟩)

/-! A session that starts, and a poller that cannot read its status. -/

/-- Polls that cannot read the status. -/
def failedPolls (i n : ℕ) : List Action :=
  (List.replicate n
    [.run (.background i .poller) .ok, .run (.background i .poller) .err]).flatten

theorem step_poller_call {pc pc' : PollerPc} {next : Answer → Option PollerPc} {p : Path}
    (hexited : w.exited = false) (howed : w.owed (.background i .poller) = none)
    (hspawned : w.spawned i .poller = some p) (hpc : w.pc (.background i .poller) = pc)
    (hcode : pc.code i = some (.call, next)) (hnext : next reply = some pc') :
    (machine env).step w (.run (.background i .poller) reply) =
      some (w.goto (.background i .poller) pc') :=
  step_call hexited howed (by simp [program, hspawned, hpc, hcode]) hnext

/-- Until the timeout, such polls do nothing but use up polls. -/
theorem run_failedPolls {l : Polling} {p : Path} {n : ℕ} (hexited : w.exited = false)
    (howed : w.owed (.background i .poller) = none) (hspawned : w.spawned i .poller = some p)
    (hpc : w.pc (.background i .poller) = PollerPc.tick l) (hip4 : l.ip4Emitted = false)
    (hn : l.ticks + n < maxTicksPreStarted) :
    (machine env).run w (failedPolls i n) = some (w.goto (.background i .poller)
      (PollerPc.tick { l with ticks := l.ticks + n })) := by
  induction n generalizing w l with
  | zero =>
    have hsame : w.goto (.background i .poller) (PollerPc.tick l) = w := by
      rw [World.goto, ← hpc, Function.update_eq_self]
    exact congrArg some hsame.symm
  | succ n ih =>
    -- One turn of the loop: the sleep, and then a status that cannot be read.
    have hwake : PollerPc.wake l = .status { l with ticks := l.ticks + 1 } := by
      simp only [PollerPc.wake]
      rw [if_neg (by omega)]
    have hunread : PollerPc.unread { l with ticks := l.ticks + 1 } =
        .tick { l with ticks := l.ticks + 1 } := by
      simp [PollerPc.unread, hip4]
    have htick : (machine env).step w (.run (.background i .poller) .ok) =
        some (w.goto (.background i .poller) (PollerPc.status { l with ticks := l.ticks + 1 })) :=
      step_poller_call hexited howed hspawned hpc rfl (congrArg some hwake)
    have hpoll : (machine env).step
        (w.goto (.background i .poller) (PollerPc.status { l with ticks := l.ticks + 1 }))
        (.run (.background i .poller) .err) = some ((w.goto (.background i .poller)
          (PollerPc.status { l with ticks := l.ticks + 1 })).goto (.background i .poller)
          (PollerPc.tick { l with ticks := l.ticks + 1 })) :=
      step_poller_call hexited howed hspawned (Function.update_self ..) rfl
        (congrArg some hunread)
    rw [World.goto_goto] at hpoll
    have hrest := ih (w := w.goto (.background i .poller)
      (PollerPc.tick { l with ticks := l.ticks + 1 })) hexited howed hspawned
      (Function.update_self ..) hip4 (show l.ticks + 1 + n < maxTicksPreStarted by omega)
    rw [failedPolls, List.replicate_succ, List.flatten_cons, List.cons_append, List.cons_append,
      List.nil_append, Machine.run, htick, Option.bind_some, Machine.run, hpoll, Option.bind_some,
      ← failedPolls, hrest, World.goto_goto]
    simp only [Nat.add_assoc, Nat.add_comm 1 n]

private def lagging : World := ((machine sampleEnv).run .init startedRun).getD .init

/-- After 99 polls that could not read the status. -/
private def exhausted : World :=
  lagging.goto (.background 0 .poller) (PollerPc.tick ⟨false, 99, 0⟩)

/-- After one more sleep. -/
private def timingOut : World :=
  ((machine sampleEnv).run exhausted
    (List.replicate 2 (.run (.background 0 .poller) .ok))).getD exhausted

/-- The session is started, and then reported as failed. -/
theorem session_started_timed_out :
    ∃ w w', (machine sampleEnv).Reachable w ∧ ListenerStarted 0 w.history ∧
      w.pc (.background 0 .poller) = PollerPc.timeoutStopped ∧
      (machine sampleEnv).run w (List.replicate 4 (.run (.background 0 .poller) .ok)) = some w' ∧
      w'.state = .stopped ∧
      w'.history.head? = some (.background 0 .poller, .sent (.failure .connectFailed)) := by
  have hpolls : (machine sampleEnv).run lagging (failedPolls 0 99) = some exhausted :=
    run_failedPolls (l := ⟨false, 0, 0⟩) (n := 99) rfl rfl rfl rfl rfl (by decide)
  have hlagging : (machine sampleEnv).Reachable lagging :=
    Machine.reachable_getD_run (Machine.reachable_of_init rfl) startedRun
  have htiming : (machine sampleEnv).Reachable timingOut :=
    Machine.reachable_getD_run (Machine.reachable_of_run hlagging hpolls) _
  exact ⟨timingOut, _, htiming, .inr (.inl ⟨rfl, ⟨true, rfl⟩, List.mem_cons_self⟩), rfl, rfl, rfl,
    rfl⟩

end Plugin

end NmOpenvpn3
