import NmOpenvpn3.Plugin.Accounts

/-!
# Teardown

What is left behind when a connection is torn down. `disconnect_authoritative` is about the objects
of the backend: at most one session is outstanding, none is lost while the lock is free, and none is
left once a `Disconnect` has finished its teardown. `no_credentials_retained` is about the session
state, and `exit_over_no_session` about the end of the process.
-/

namespace NmOpenvpn3

namespace Plugin

open Rust Ovpn Service Concurrent

variable {env : Env} {w w' : World} {t : TaskId} {op : Op} {reply a : Answer}

/-! ## After a `Disconnect` -/

/-- No `Connect` call acquires the lock. -/
def NoConnect (w : World) (act : Action) : Prop :=
  ∀ i reply, act = .run (.connect i) reply → w.pc (.connect i) ≠ ConnectPc.dispatched

/-- A `Disconnect` call has finished its teardown, and still holds the lock. -/
def DisconnectPc.TornDown (pc : DisconnectPc) : Prop := pc = .stopped ∨ pc = .quit ∨ pc = .releasing

/-- Nothing is outstanding, and no `Connect` call is in progress. -/
structure Quiet (w : World) : Prop where
  accounted : Accounted w (holdings w)
  sessions : w.sessions = []
  configs : w.configs = []
  lock : ∀ i, w.lock ≠ some (.connect i)

/-- While no `Connect` call holds the lock, each of them has yet to take it, or is done. -/
theorem connect_dispatched {i : ℕ} {next : Answer → Option (Pc (.connect i))}
    (hw : Accounted w (holdings w)) (hlock : w.lock ≠ some (.connect i))
    (hprog : program env w (.connect i) = some (op, next)) :
    w.pc (.connect i) = ConnectPc.dispatched := by
  have hfree := (hw.lock (.connect i)).not.mp hlock
  simp only [program] at hprog
  cases hpc : w.pc (.connect i) <;> rw [hpc] at hprog <;> cases hprog <;>
    simp [holdings, Pc.holding, ConnectPc.holding, hpc] at hfree

theorem quiet_of_tornDown {j : ℕ} (hw : Accounted w (holdings w))
    (h : DisconnectPc.TornDown (w.pc (.disconnect j))) : Quiet w := by
  have hhold : holdings w (.disconnect j) = ⟨true, none, none, some none⟩ := by
    obtain h | h | h := h <;> simp [holdings, Pc.holding, h, DisconnectPc.holding]
  have hl : w.lock = some (.disconnect j) := hw.holder (by rw [hhold])
  have hslot := hw.slot (.disconnect j) none hl (by rw [hhold])
  refine ⟨hw, hw.sessions.eq_nil ?_ hslot, hw.configs.eq_nil ?_ (hw.blank hslot).configPath, ?_⟩
  · simp [sessionCustody, held, hl, hhold]
  · simp [configCustody, held, hl, hhold]
  · simp [hl]

theorem TaskStep.quiet (hq : Quiet w) (hno : ∀ i, t = .connect i → w.pc (.connect i) ≠
    ConnectPc.dispatched) (h : TaskStep env w t reply w') :
    w'.sessions = [] ∧ w'.configs = [] ∧ ∀ i, w'.lock ≠ some (.connect i) := by
  cases h with
  | @complete op next a w₁ pc hprog howed hexec howed' hnext =>
    have hcon : ∀ i, t ≠ .connect i := by
      rintro i rfl
      exact hno i rfl (connect_dispatched hq.accounted (hq.lock i) hprog)
    have hof := program_of hprog
    -- Only a `Connect` call creates, and none has the lock.
    have hs := exec_sessions hexec (by rintro rfl; simp [Op.Of, hcon] at hof)
    have hc := exec_configs hexec (by rintro rfl; simp [Op.Of, hcon] at hof)
    rw [hq.sessions, List.sublist_nil] at hs
    rw [hq.configs, List.sublist_nil] at hc
    refine ⟨hs, hc, fun i ↦ ?_⟩
    rw [World.goto_lock]
    obtain ⟨-, hl⟩ | hl | hl := exec_lock hexec
    · rw [hl]
      exact fun hi ↦ hcon i (Option.some_inj.mp hi)
    · simp [hl]
    · rw [hl]
      exact hq.lock i
  | update | win => exact ⟨hq.sessions, hq.configs, hq.lock⟩
  | settle => cases reply <;> exact ⟨hq.sessions, hq.configs, hq.lock⟩

theorem step_quiet {act : Action} (hq : Quiet w) (hno : NoConnect w act)
    (h : (machine env).step w act = some w') : Quiet w' := by
  have hacc := step_accounted hq.accounted h
  obtain ⟨-, ⟨t, reply, rfl, hstep⟩ | ⟨i, b, -, -, rfl⟩ | ⟨-, -, rfl⟩⟩ := step_cases h
  · obtain ⟨hs, hc, hl⟩ := hstep.quiet hq fun i hi ↦ hno i reply (by rw [hi])
    exact ⟨hacc, hs, hc, hl⟩
  · exact ⟨hacc, hq.sessions, hq.configs, hq.lock⟩
  · exact ⟨hacc, hq.sessions, hq.configs, hq.lock⟩

/-- At most one session of the backend is outstanding; while the connect lock is free, whatever is
outstanding is in the session state; and from the end of the teardown of a `Disconnect` until a
`Connect` call acquires the lock, nothing is outstanding. -/
theorem disconnect_authoritative (env : Env) {w : World} (h : (machine env).Reachable w) :
    w.sessions.length ≤ 1 ∧
      (w.lock = none → (∀ p ∈ w.sessions, w.session.sessionPath = some p) ∧
        ∀ c ∈ w.configs, w.session.configPath = some c) ∧
      ∀ j, DisconnectPc.TornDown (w.pc (.disconnect j)) →
        ∀ w', (machine env).Reaches NoConnect w w' → w'.sessions = [] ∧ w'.configs = [] := by
  have hw := accounted_of_reachable h
  refine ⟨hw.sessions.length_le_one, fun hfree ↦ ⟨fun p hp ↦ ?_, fun c hc ↦ ?_⟩, ?_⟩
  · rw [show w.sessions = _ from hw.sessions.eq_slot hfree] at hp
    exact Option.mem_toList.mp hp
  · rw [show w.configs = _ from hw.configs.eq_slot hfree] at hc
    exact Option.mem_toList.mp hc
  · intro j hj w' hrun
    have hquiet : Quiet w' := hrun.invariant (fun _ _ _ hq hno hs ↦ step_quiet hq hno hs)
      (quiet_of_tornDown hw hj)
    exact ⟨hquiet.sessions, hquiet.configs⟩

/-- A `Disconnect` replies only by releasing the lock. -/
theorem DisconnectPc.releasing_of_next {persist : Bool} {pc : DisconnectPc}
    {next : Answer → Option DisconnectPc} (hcode : pc.code persist = some (op, next))
    (hnext : next a = some .replied) : pc = .releasing := by
  have hafter (c : Option Path) : DisconnectPc.afterDisconnect c ≠ .replied := by
    cases c <;> nofun
  cases pc <;> cases hcode
  case releasing => rfl
  case take => cases a <;> grind
  case stopped =>
    have := always_eq_some.mp hnext
    split_ifs at this
  all_goals simp only [always_eq_some, onReply_eq_some] at hnext
  all_goals grind

/-- A `Disconnect` that has replied has finished its teardown before. -/
theorem exists_tornDown_of_replied {j : ℕ} (h : (machine env).Reachable w)
    (hreplied : w.pc (.disconnect j) = DisconnectPc.replied) :
    ∃ w₀, (machine env).Reachable w₀ ∧ DisconnectPc.TornDown (w₀.pc (.disconnect j)) ∧
      (machine env).Reaches (fun _ _ ↦ True) w₀ w := by
  revert hreplied
  refine h.invariant_of_reachable (I := fun w ↦ w.pc (.disconnect j) = DisconnectPc.replied →
    ∃ w₀, (machine env).Reachable w₀ ∧ DisconnectPc.TornDown (w₀.pc (.disconnect j)) ∧
      (machine env).Reaches (fun _ _ ↦ True) w₀ w) (by rintro _ rfl h; cases h) ?_
  rintro w act w' hreach ih - hstep hreplied
  by_cases hpc : w'.pc (.disconnect j) = w.pc (.disconnect j)
  · obtain ⟨w₀, hreach₀, htorn, hrun⟩ := ih (hpc.symm.trans hreplied)
    exact ⟨w₀, hreach₀, htorn, hrun.step trivial hstep⟩
  · refine ⟨w, hreach, .inr (.inr ?_), Machine.Reaches.step .refl trivial hstep⟩
    obtain ⟨-, ⟨t, reply, rfl, htask⟩ | ⟨i, b, rfl, -, rfl⟩ | ⟨-, -, rfl⟩⟩ := step_cases hstep
    · obtain rfl : .disconnect j = t := by
        by_contra ht
        exact hpc (htask.pc_of_ne ht)
      cases htask with
      | complete hprog howed hexec howed' hnext =>
        obtain rfl : _ = DisconnectPc.replied := by simpa using hreplied
        exact DisconnectPc.releasing_of_next hprog hnext
      | update | win => exact absurd rfl hpc
      | settle hprog howed hsignal hnext =>
        obtain rfl : _ = DisconnectPc.replied := by simpa using hreplied
        exact DisconnectPc.releasing_of_next hprog hnext
    · exact absurd (by simp) hpc
    · exact absurd rfl hpc

/-! A run that the results apply to: a `Connect` call creates a session, and a `Disconnect` call
tears it down. -/

private def disconnectRun : List Action :=
  (List.replicate 9 .ok).map (.run (.disconnect 0))

private def connected (env : Env) : World := ((machine env).run .init connectRun).getD .init

private def disconnected (env : Env) : World :=
  ((machine env).run .init (connectRun ++ disconnectRun)).getD .init

/-- The `Disconnect` call is about to release the lock. -/
private def tornDown (env : Env) : World :=
  ((machine env).run .init (connectRun ++ disconnectRun.take 8)).getD .init

theorem disconnect_authoritative_connected :
    (connected sampleEnv).sessions = ["/session"] ∧ (connected sampleEnv).configs = ["/config"] ∧
      (connected sampleEnv).sessions.length ≤ 1 ∧
      (∀ c ∈ (connected sampleEnv).configs,
        (connected sampleEnv).session.configPath = some c) ∧
      (disconnected sampleEnv).pc (.disconnect 0) = DisconnectPc.replied ∧
      (disconnected sampleEnv).sessions = [] ∧ (disconnected sampleEnv).configs = [] := by
  have hinit : (machine sampleEnv).Reachable .init := Machine.reachable_of_init rfl
  obtain ⟨hone, hfree, -⟩ := disconnect_authoritative sampleEnv
    (Machine.reachable_getD_run hinit connectRun)
  obtain ⟨-, -, hnothing⟩ := disconnect_authoritative sampleEnv
    (Machine.reachable_getD_run hinit (connectRun ++ disconnectRun.take 8))
  have hrelease : (machine sampleEnv).Reaches NoConnect (tornDown sampleEnv)
      (disconnected sampleEnv) :=
    Machine.Reaches.step (a := .run (.disconnect 0) .ok) .refl (by rintro _ _ ⟨⟩) rfl
  obtain ⟨hsessions, hconfigs⟩ := hnothing 0 (.inr (.inr rfl)) _ hrelease
  exact ⟨rfl, rfl, hone, (hfree rfl).2, rfl, hsessions, hconfigs⟩

/-- Without a session, the session state holds no credentials, no config and no tasks. -/
theorem no_credentials_retained (env : Env) {w : World} (h : (machine env).Reachable w)
    (hnone : w.session.sessionPath = none) :
    w.session.currentSecrets = Dict.empty ∧ w.session.currentData = Dict.empty ∧
      w.session.configPath = none ∧ w.session.tasks = [] :=
  have hblank := (accounted_of_reachable h).blank hnone
  ⟨hblank.currentSecrets, hblank.currentData, hblank.configPath, hblank.tasks⟩

/-- Called with a user name and a password. -/
private def credentialEnv : Env where
  persist := false
  connectSettings _ :=
    (Dict.ofList [("username", "u")], Dict.ofList [("password", "s")])
  newSettings _ := (Dict.empty, Dict.empty)

theorem no_credentials_retained_disconnected :
    (connected credentialEnv).session.currentSecrets "password" = some "s" ∧
      (connected credentialEnv).session.currentData "username" = some "u" ∧
      (disconnected credentialEnv).quits = 1 ∧
      (disconnected credentialEnv).session.currentSecrets = Dict.empty ∧
      (disconnected credentialEnv).session.currentData = Dict.empty ∧
      (disconnected credentialEnv).session.configPath = none ∧
      (disconnected credentialEnv).session.tasks = [] :=
  ⟨rfl, rfl, rfl, no_credentials_retained credentialEnv (Machine.reachable_getD_run
    (Machine.reachable_of_init rfl) (connectRun ++ disconnectRun)) rfl⟩

/-! ## The end of the process -/

/-- `NewTunnel` does not succeed once a message to quit is in the channel. -/
def NoLateTunnel (w : World) (act : Action) : Prop :=
  ∀ i c p, act = .run (.connect i) (.path p) → w.pc (.connect i) = ConnectPc.newTunnel c →
    w.quits = 0

/-- Once there is a message to quit, nothing is outstanding. -/
structure Quitting (w : World) : Prop where
  sessions : w.quits ≠ 0 → w.sessions = []
  exited : w.exited = true → w.quits ≠ 0

theorem exec_quits (h : exec t w op reply = some (a, w')) (hop : op ≠ .quit) :
    w'.quits = w.quits := by
  unfold exec at h
  split at h <;> (try split_ifs at h) <;> cases h <;> first | exact absurd rfl hop | rfl

theorem pc_of_newTunnel {i : ℕ} {next : Answer → Option (Pc (.connect i))}
    (hprog : program env w (.connect i) = some (.newTunnel, next)) :
    ∃ c, w.pc (.connect i) = ConnectPc.newTunnel c := by
  simp only [program] at hprog
  cases hpc : w.pc (.connect i) <;> rw [hpc] at hprog <;> cases hprog
  exact ⟨_, rfl⟩

/-- A message to quit is sent with nothing in hand. -/
theorem sessions_of_quit {next : Answer → Option (Pc t)} {pc : Pc t}
    (hw : Accounted w (holdings w)) (hprog : program env w t = some (.quit, next))
    (hnext : next a = some pc) : w.sessions = [] := by
  obtain ⟨h, ⟨hlocked, hs, -, hslot, -⟩, -⟩ := program_rule hprog hnext
  have hl := hw.holder (t := t) hlocked
  exact hw.sessions.eq_nil (by simpa [sessionCustody, held, hl, holdings] using hs)
    (hw.slot t none hl hslot)

theorem TaskStep.quitting (hw : Accounted w (holdings w)) (hq : w.quits ≠ 0 → w.sessions = [])
    (hlate : ∀ i c p, t = .connect i → reply = .path p → w.pc (.connect i) = ConnectPc.newTunnel c →
      w.quits = 0) (h : TaskStep env w t reply w') : w'.quits ≠ 0 → w'.sessions = [] := by
  cases h with
  | @complete op next a w₁ pc hprog howed hexec howed' hnext =>
    rw [World.goto_quits, World.goto_sessions]
    by_cases hquit : op = .quit
    -- `disconnect` puts the message into the channel when it has accounted for everything.
    · subst hquit
      have hnil := sessions_of_quit hw hprog hnext
      cases hexec
      exact fun _ ↦ hnil
    · rw [exec_quits hexec hquit]
      intro hne
      by_cases htun : op = .newTunnel
      · subst htun
        obtain ⟨i, rfl⟩ := program_of hprog
        obtain ⟨c, hc⟩ := pc_of_newTunnel hprog
        cases reply with
        | path p => exact absurd (hlate i c p rfl rfl hc) hne
        | _ =>
          cases hexec
          exact hq hne
      · exact List.sublist_nil.mp (hq hne ▸ exec_sessions hexec htun)
  | update | win => exact hq
  | settle => cases reply <;> exact hq

/-- In runs in which `NewTunnel` does not succeed once there is a message to quit, the process does
not end over a session. -/
theorem exit_over_no_session (env : Env) {w : World}
    (h : (machine env).ReachableBy NoLateTunnel w) (hex : w.exited = true) : w.sessions = [] := by
  have hq : Quitting w := by
    refine h.invariant_of_reachable (by rintro _ rfl; exact ⟨fun _ ↦ rfl, nofun⟩) ?_
    intro w act w' hreach hq hlate hstep
    obtain ⟨hno, ⟨t, reply, rfl, htask⟩ | ⟨i, b, -, -, rfl⟩ | ⟨-, hquits, rfl⟩⟩ := step_cases hstep
    · refine ⟨htask.quitting (accounted_of_reachable hreach) hq.sessions ?_, ?_⟩
      · rintro i c p rfl rfl hc
        exact hlate i c p rfl hc
      · intro hex'
        rw [htask.exited, hno] at hex'
        cases hex'
    · exact ⟨hq.sessions, hq.exited⟩
    · exact ⟨hq.sessions, fun _ ↦ hquits⟩
  exact hq.sessions (hq.exited hex)

theorem exit_over_no_session_disconnected :
    (((machine sampleEnv).run .init (connectRun ++ disconnectRun ++ [.mainReturns])).getD
      .init).sessions = [] := by
  refine exit_over_no_session sampleEnv
    (Machine.ReachableBy.getD_run ⟨_, rfl, .refl⟩ _ ?_) rfl
  simp only [connectRun, disconnectRun, List.map, List.replicate, List.cons_append,
    List.nil_append, Machine.Allows, and_true]
  and_intros <;> rintro i c p ⟨⟩ - <;> rfl

/-- A `Connect` call that waits behind a `Disconnect` creates a session after the message to quit is
sent, and then the process ends. -/
theorem exit_over_session :
    ∃ w, (machine sampleEnv).Reachable w ∧ w.exited = true ∧ w.sessions = ["/session"] :=
  ⟨_, Machine.reachable_getD_run (Machine.reachable_of_init rfl)
    (disconnectRun.take 7 ++ connectRun.take 11 ++ [.mainReturns]), rfl, rfl⟩

end Plugin

end NmOpenvpn3
