import NmOpenvpn3.Plugin.Stages
import NmOpenvpn3.Concurrent.Claim

/-!
# The start of a session

The listener and the poller of a session both look for the start of the tunnel, and race for the
flag `ip4_emitted`: the winner emits the configuration, and hands the flag back if that fails.
`ip4Config_once` says that this gives at most one configuration.
-/

namespace NmOpenvpn3

namespace Plugin

open Rust Ovpn Service Concurrent

variable {env : Env} {w w' : World} {s t t' : TaskId} {op : Op} {reply a : Answer} {i : ℕ}

/-! ## One configuration -/

/-- A task is between its successful compare-and-swap and the end of its `emit`, or has not rolled
back yet. -/
def Stage.Emits (s : Stage) : Prop := s = .emitting ∨ s = .reverting

/-- The signal that ends a successful `emit`. -/
def Event.isIp4Config : Event → Bool
  | .sent .ip4Config => true
  | _ => false

/-- The race for the configuration of a session. -/
def ip4Claim (w : World) (i : ℕ) : Claim TaskId where
  taken := (w.flags i).ip4Emitted = true
  busy t := t.activation = some i ∧ (w.stage t).Emits
  reports := w.tally i Event.isIp4Config

/-- A task only begins to emit by claiming the flag. -/
theorem Op.Advance.emits {b : Background} {s s' : Stage} (h : op.Advance b a s s')
    (hs' : s'.Emits) (hclaim : ∀ i, op ≠ .claimIp4 i) : s.Emits := by
  unfold Op.Advance at h
  split at h
  all_goals first
    | exact absurd rfl (hclaim _)
    | (unfold Stage.Emits at *; grind)

theorem Event.isIp4Config_iff {e : Event} : e.isIp4Config = true ↔ e = .sent .ip4Config := by
  cases e with
  | sent signal => cases signal <;> simp [isIp4Config]
  | _ => simp [isIp4Config]

theorem records_isIp4Config {e : Event} (h : op.Records e) (hop : op ≠ .send .ip4Config) :
    e.isIp4Config = false := by
  by_contra he
  obtain rfl := Event.isIp4Config_iff.mp (eq_true_of_ne_false he)
  exact hop (Op.records_sent.mp h)

/-- Whoever else is emitting goes on with it. -/
theorem ip4Claim_busy_of_ne {pc : Pc t} (hpc : w'.pc = w.pc) (hne : s ≠ t)
    (hs : (ip4Claim (w'.goto t pc) i).busy s) : (ip4Claim w i).busy s := by
  refine ⟨hs.1, ?_⟩
  have := hs.2
  rwa [stage_goto_of_ne hne, stage_congr hpc] at this

section Complete

variable {next : Answer → Option (Pc t)} {pc : Pc t}

/-- Without an attempt at the flag, nobody begins to emit. -/
theorem ip4Claim_busy_of_program (hprog : program env w t = some (op, next))
    (hnext : next a = some pc) (hpc : w'.pc = w.pc)
    (hclaim : t.activation = some i → ∀ j, op ≠ .claimIp4 j)
    (hs : (ip4Claim (w'.goto t pc) i).busy s) : (ip4Claim w i).busy s := by
  by_cases hst : s = t
  · subst hst
    match s with
    | .background j b =>
      refine ⟨hs.1, (program_advance hprog hnext).emits ?_ (hclaim hs.1)⟩
      have := hs.2
      rwa [stage_goto] at this
    | .connect j | .disconnect j | .newSecrets j =>
      have := hs.2
      rw [stage_handler (by simp)] at this
      simp [Stage.Emits] at this
  · exact ip4Claim_busy_of_ne hpc hst hs

/-- All but three operations of the activation leave the race as it is. -/
theorem ip4Claim_stay (hprog : program env w t = some (op, next))
    (hexec : exec t w op reply = some (a, w')) (hnext : next a = some pc)
    (hother : t.activation = some i →
      (∀ j, op ≠ .claimIp4 j) ∧ (∀ j, op ≠ .clearIp4 j) ∧ op ≠ .send .ip4Config) :
    Claim.Move (ip4Claim w i) (ip4Claim (w'.goto t pc) i) := by
  refine .stay (fun htaken ↦ ?_) (fun s hs ↦ ?_) ?_
  · have hof := program_of hprog
    have hkeep : (w'.flags i).ip4Emitted = (w.flags i).ip4Emitted := by
      refine exec_ip4Emitted hexec ?_ ?_ <;> rintro rfl <;>
        obtain rfl | rfl := hof <;> simp [TaskId.activation] at hother
    exact hkeep.trans htaken
  · exact ip4Claim_busy_of_program hprog hnext (exec_pc hexec) (fun ht ↦ (hother ht).1) hs
  · exact (exec_tally hexec fun ht e he ↦ records_isIp4Config he (hother ht).2.2 :)

/-- A task that does not emit leaves it to the others. -/
theorem ip4Claim_busy_of_not_emits (hpc : w'.pc = w.pc) (hnot : ¬(Pc.stage t pc).Emits)
    (hs : (ip4Claim (w'.goto t pc) i).busy s) : s ≠ t ∧ (ip4Claim w i).busy s := by
  have hne : s ≠ t := by
    rintro rfl
    have := hs.2
    rw [stage_goto] at this
    exact hnot this
  exact ⟨hne, ip4Claim_busy_of_ne hpc hne hs⟩

theorem ip4Claim_claim {b : Background} {next : Answer → Option (Pc (.background i b))}
    {pc : Pc (.background i b)}
    (hprog : program env w (.background i b) = some (.claimIp4 i, next))
    (hexec : exec (.background i b) w (.claimIp4 i) reply = some (a, w'))
    (hnext : next a = some pc) : Claim.Move (ip4Claim w i) (ip4Claim (w'.goto _ pc) i) := by
  have hadv := program_advance hprog hnext
  simp only [exec] at hexec
  split_ifs at hexec with hflag <;> cases hexec
  · refine .stay id (fun s hs ↦ (ip4Claim_busy_of_not_emits rfl ?_ hs).2) rfl
    rw [hadv.2]
    split_ifs <;> simp [Stage.Emits]
  · refine .claim (.background i b) hflag (by simp [ip4Claim])
      (fun s hs ↦ ?_) (tally_of_cons rfl fun _ ↦ rfl)
    by_cases hne : s = .background i b
    · exact .inl hne
    · exact .inr (ip4Claim_busy_of_ne rfl hne hs)

theorem ip4Claim_clear {b : Background} {next : Answer → Option (Pc (.background i b))}
    {pc : Pc (.background i b)}
    (hprog : program env w (.background i b) = some (.clearIp4 i, next))
    (hexec : exec (.background i b) w (.clearIp4 i) reply = some (a, w'))
    (hnext : next a = some pc) : Claim.Move (ip4Claim w i) (ip4Claim (w'.goto _ pc) i) := by
  have hadv := program_advance hprog hnext
  cases hexec
  refine .withdraw (.background i b) ⟨rfl, .inr hadv.1⟩
    (fun s hs ↦ ip4Claim_busy_of_not_emits rfl ?_ hs) (tally_of_cons rfl fun _ ↦ rfl)
  rw [hadv.2]
  simp [Stage.Emits]

theorem ip4Claim_send {b : Background} {next : Answer → Option (Pc (.background i b))}
    {pc : Pc (.background i b)}
    (hprog : program env w (.background i b) = some (.send .ip4Config, next))
    (hexec : exec (.background i b) w (.send .ip4Config) reply = some (a, w'))
    (hnext : next a = some pc) : Claim.Move (ip4Claim w i) (ip4Claim (w'.goto _ pc) i) := by
  have hadv := program_advance hprog hnext
  have hpc := exec_pc hexec
  cases reply with
  | ok =>
    cases hexec
    refine .report (.background i b) ⟨rfl, .inl hadv.1⟩ id
      (fun s hs ↦ ip4Claim_busy_of_not_emits rfl ?_ hs) (tally_succ rfl rfl rfl)
    rw [hadv.2]
    simp [Stage.Emits]
  | _ =>
    -- A signal that could not be sent leaves its task with the flag.
    cases hexec
    refine .stay id (fun s hs ↦ ?_) rfl
    by_cases hne : s = .background i b
    · exact hne ▸ ⟨rfl, .inl hadv.1⟩
    · exact ip4Claim_busy_of_ne rfl hne hs

/-- An operation that is done is a move in the race. -/
theorem ip4Claim_complete (hprog : program env w t = some (op, next))
    (hexec : exec t w op reply = some (a, w')) (hnext : next a = some pc) :
    Claim.Move (ip4Claim w i) (ip4Claim (w'.goto t pc) i) := by
  by_cases hother : t.activation = some i →
      (∀ j, op ≠ .claimIp4 j) ∧ (∀ j, op ≠ .clearIp4 j) ∧ op ≠ .send .ip4Config
  · exact ip4Claim_stay hprog hexec hnext hother
  · have hof := program_of hprog
    simp only [Classical.not_imp, not_and_or, not_forall, not_not] at hother
    obtain ⟨ht, ⟨j, rfl⟩ | ⟨j, rfl⟩ | rfl⟩ := hother
    · obtain rfl | rfl := hof <;> obtain rfl : j = i := Option.some_inj.mp ht <;>
        exact ip4Claim_claim hprog hexec hnext
    · obtain rfl | rfl := hof <;> obtain rfl : j = i := Option.some_inj.mp ht <;>
        exact ip4Claim_clear hprog hexec hnext
    · obtain ⟨j, rfl | rfl⟩ := hof <;> obtain rfl : j = i := Option.some_inj.mp ht <;>
        exact ip4Claim_send hprog hexec hnext

end Complete

theorem TaskStep.ip4Claim_move (h : TaskStep env w t reply w') :
    Claim.Move (ip4Claim w i) (ip4Claim w' i) := by
  cases h with
  | complete hprog howed hexec howed' hnext => exact ip4Claim_complete hprog hexec hnext
  | update => exact .stay id (fun _ ↦ id) (tally_of_cons rfl fun _ ↦ rfl)
  | @win j reason next hprog howed hflag =>
    have hkeep := World.setFlags_congr (w := w) (i := i) (j := j)
      (f := fun f ↦ { f with failureEmitted := true }) Flags.ip4Emitted fun _ ↦ rfl
    exact .stay (fun htaken ↦ hkeep.trans htaken) (fun _ ↦ id) rfl
  -- The signals that follow an update or a failure are not the `Ip4Config`.
  | @settle op next signal pc hprog howed hsignal hnext =>
    refine .stay (fun htaken ↦ ?_) (fun s hs ↦ ?_) ?_
    · cases reply <;> exact htaken
    · refine ip4Claim_busy_of_program hprog hnext emit_pc (fun _ j ↦ ?_) hs
      rintro rfl
      cases hsignal
    · have hsig : signal ≠ .ip4Config := by
        rintro rfl
        cases op <;> cases hsignal
      have hno : (Event.sent signal).isIp4Config = false := by
        rw [← Bool.not_eq_true, Event.isIp4Config_iff]
        simpa using hsig
      cases reply with
      | ok => exact tally_of_cons rfl fun _ ↦ hno
      | _ => rfl

theorem step_ip4Claim {act : Action} (h : (machine env).step w act = some w') :
    Claim.Move (ip4Claim w i) (ip4Claim w' i) := by
  obtain ⟨-, ⟨t, reply, rfl, htask⟩ | ⟨j, b, -, -, rfl⟩ | ⟨-, -, rfl⟩⟩ := step_cases h
  · exact htask.ip4Claim_move
  · -- A task that is cancelled gives up, with or without the flag.
    refine .stay id (fun s hs ↦ ?_) rfl
    refine (ip4Claim_busy_of_not_emits (t := .background j b) ?_ ?_ hs).2
    · rfl
    · simp [Stage.Emits]
  · exact .stay id (fun _ ↦ id) rfl

theorem ip4Claim_sound (h : (machine env).Reachable w) (i : ℕ) : (ip4Claim w i).Sound := by
  refine h.invariant (I := fun w ↦ (ip4Claim w i).Sound) ?_
    fun _ _ _ hw _ hstep ↦ hw.move (step_ip4Claim hstep)
  rintro _ rfl
  have hnobody (t : TaskId) : ¬(ip4Claim .init i).busy t := fun ht ↦ by
    simpa [Stage.Emits] using ht.2
  exact ⟨fun t ht ↦ absurd ht (hnobody t), fun s _ hs ↦ absurd hs (hnobody s),
    fun hne ↦ absurd rfl hne⟩

/-! ## Who cleared the flag -/

/-- The task that has set the flag last, if nobody has cleared it since. -/
def claimant (i : ℕ) : List (TaskId × Event) → Option TaskId
  | [] => none
  | (t, .claimedIp4 j) :: h => if j = i then some t else claimant i h
  | (_, .clearedIp4 j) :: h => if j = i then none else claimant i h
  | _ :: h => claimant i h

theorem claimant_cons_of_ne {e : Event} {h : List (TaskId × Event)} (hclaim : e ≠ .claimedIp4 i)
    (hclear : e ≠ .clearedIp4 i) : claimant i ((t, e) :: h) = claimant i h := by
  cases e <;> simp_all [claimant]

/-- Whoever is emitting is the one who has set the flag. -/
def Owned (w : World) (i : ℕ) : Prop :=
  ∀ s, (ip4Claim w i).busy s → claimant i w.history = some s

theorem Owned.of_history (hw : Owned w i)
    (hbusy : ∀ s, (ip4Claim w' i).busy s → (ip4Claim w i).busy s)
    (hh : w'.history = w.history ∨ ∃ e, e ≠ .claimedIp4 i ∧ e ≠ .clearedIp4 i ∧
      w'.history = (t, e) :: w.history) : Owned w' i := by
  intro s hs
  obtain hh | ⟨e, hclaim, hclear, hh⟩ := hh
  · rw [hh, hw s (hbusy s hs)]
  · rw [hh, claimant_cons_of_ne hclaim hclear, hw s (hbusy s hs)]

theorem owned_complete {next : Answer → Option (Pc t)} {pc : Pc t} (hw : Owned w i)
    (hsound : (ip4Claim w i).Sound) (hprog : program env w t = some (op, next))
    (hexec : exec t w op reply = some (a, w')) (hnext : next a = some pc) :
    Owned (w'.goto t pc) i := by
  have hof := program_of hprog
  have hpc := exec_pc hexec
  by_cases hclaim : op = .claimIp4 i
  · subst hclaim
    intro s hs
    rw [World.goto_history]
    simp only [exec] at hexec
    split_ifs at hexec with hflag <;> cases hexec
    · obtain ⟨b, rfl⟩ : ∃ b, t = .background i b := by obtain rfl | rfl := hof <;> exact ⟨_, rfl⟩
      refine hw s (ip4Claim_busy_of_not_emits rfl ?_ hs).2
      rw [(program_advance hprog hnext).2]
      split_ifs <;> simp [Stage.Emits]
    · -- The flag was clear, so the claimant is alone.
      have hst : s = t := by
        by_contra hne
        have := hsound.taken s (ip4Claim_busy_of_ne rfl hne hs)
        exact hflag this
      rw [hst, World.note_history, claimant, if_pos rfl]
  by_cases hclear : op = .clearIp4 i
  · subst hclear
    intro s hs
    obtain ⟨b, rfl⟩ : ∃ b, t = .background i b := by obtain rfl | rfl := hof <;> exact ⟨_, rfl⟩
    have hadv := program_advance hprog hnext
    have hne := ip4Claim_busy_of_not_emits hpc (by rw [hadv.2]; simp [Stage.Emits]) hs
    exact absurd (hsound.exclusive s _ hne.2 ⟨rfl, .inr hadv.1⟩) hne.1
  · refine hw.of_history (t := t) (fun s hs ↦ ?_) ?_
    · refine ip4Claim_busy_of_program hprog hnext hpc (fun ht j hj ↦ ?_) hs
      subst hj
      obtain rfl | rfl := hof <;> exact hclaim (congrArg _ (Option.some_inj.mp ht))
    · rw [World.goto_history]
      refine (exec_history hexec).imp_right fun ⟨e, he, hh⟩ ↦ ⟨e, ?_, ?_, hh⟩ <;> rintro rfl
      · cases op <;> simp [Op.Records] at he hclaim
        exact hclaim he.symm
      · cases op <;> simp [Op.Records] at he hclear
        exact hclear he.symm

theorem TaskStep.owned (hw : Owned w i) (hsound : (ip4Claim w i).Sound)
    (h : TaskStep env w t reply w') : Owned w' i := by
  cases h with
  | complete hprog howed hexec howed' hnext => exact owned_complete hw hsound hprog hexec hnext
  | update => exact hw.of_history (fun _ ↦ id) (.inr ⟨.set _ true, nofun, nofun, rfl⟩)
  | win => exact hw.of_history (t := t) (fun _ ↦ id) (.inl rfl)
  | @settle op next signal pc hprog howed hsignal hnext =>
    refine hw.of_history (t := t) (fun s hs ↦ ?_) ?_
    · refine ip4Claim_busy_of_program hprog hnext emit_pc (fun _ j ↦ ?_) hs
      rintro rfl
      cases hsignal
    · cases reply with
      | ok => exact .inr ⟨.sent signal, nofun, nofun, rfl⟩
      | _ => exact .inl rfl

theorem owned_of_reachable (h : (machine env).Reachable w) (i : ℕ) : Owned w i := by
  refine invariant_of_steps (I := fun w ↦ Owned w i) ?_ ?_ ?_ (fun _ ↦ id) h
  · intro s hs
    simp [ip4Claim, Stage.Emits] at hs
  · exact fun w t reply w' hreach _ hw htask ↦ htask.owned hw (ip4Claim_sound hreach i)
  · intro w j b _ hw
    refine hw.of_history (t := .background j b) (fun s hs ↦ ?_) (.inl rfl)
    exact (ip4Claim_busy_of_not_emits (t := .background j b) rfl (by simp [Stage.Emits]) hs).2

/-- The flag is only cleared by the task that has set it. -/
def ClearedByClaimant (i : ℕ) (e : TaskId × Event) (earlier : List (TaskId × Event)) : Prop :=
  e.2 = .clearedIp4 i → claimant i earlier = some e.1

theorem keeps_clearedByClaimant (h : (machine env).Reachable w) (i : ℕ) :
    Keeps (ClearedByClaimant i) w.history := by
  refine h.invariant_of_reachable (I := fun w ↦ Keeps (ClearedByClaimant i) w.history)
    (by rintro _ rfl; trivial) ?_
  intro w act w' hreach hw _ hstep
  refine step_keeps hw (fun t reply op next e hact hprog he hclear ↦ ?_) hstep
  dsimp only at hclear
  subst hclear
  obtain he | ⟨signal, -, -, he⟩ := he
  · obtain rfl : op = .clearIp4 i := by
      cases op <;> simp [Op.Records] at he
      rw [he]
    obtain ⟨b, rfl⟩ : ∃ b, t = .background i b := by
      obtain rfl | rfl := program_of hprog <;> exact ⟨_, rfl⟩
    obtain ⟨a, s', hadv⟩ := program_stage hprog
    exact owned_of_reachable hreach i _ ⟨rfl, .inr hadv.1⟩
  · cases he

/-- For the tasks of one activation: at most one is emitting the configuration, the flag is only
cleared by the task that has set it, and NetworkManager gets at most one configuration. -/
theorem ip4Config_once (env : Env) {w : World} (h : (machine env).Reachable w) (i : ℕ) :
    (∀ s t, s.activation = some i → t.activation = some i → (w.stage s).Emits →
      (w.stage t).Emits → s = t) ∧
    Keeps (ClearedByClaimant i) w.history ∧ w.tally i Event.isIp4Config ≤ 1 :=
  have hsound := ip4Claim_sound h i
  ⟨fun s t hs ht hse hte ↦ hsound.exclusive s t ⟨hs, hse⟩ ⟨ht, hte⟩, keeps_clearedByClaimant h i,
    hsound.reports_le_one⟩

/-- The listener hears that the tunnel is up, and starts the session. -/
def listenerStarts : List Action :=
  ([.ok, .status 2 7, .ok, .ok, .ok, .ok, .ok, .ok, .ok] : List Answer).map
    (.run (.background 0 .listener))

private def started : World :=
  ((machine sampleEnv).run .init (connectRun ++ listenerStarts)).getD .init

theorem ip4Config_once_started :
    started.tally 0 Event.isIp4Config = 1 ∧ started.tally 0 Event.isIp4Config ≤ 1 :=
  ⟨rfl, (ip4Config_once sampleEnv (Machine.reachable_getD_run (Machine.reachable_of_init rfl)
    (connectRun ++ listenerStarts)) 0).2.2⟩

/-! ## No start before the configuration -/

/-- A task of the activation has sent the configuration. -/
def Ip4Sent (i : ℕ) (h : List (TaskId × Event)) : Prop :=
  ∃ t, t.activation = some i ∧ (t, .sent .ip4Config) ∈ h

theorem Ip4Sent.mono {h h' : List (TaskId × Event)} (hsent : Ip4Sent i h) (hh : h <:+ h') :
    Ip4Sent i h' :=
  hsent.imp fun _ ⟨ht, hmem⟩ ↦ ⟨ht, hh.subset hmem⟩

/-- The listener only loses the race to a poller that has sent the configuration. -/
def LosesToSent (w : World) (act : Action) : Prop :=
  ∀ i reply, act = .run (.background i .listener) reply →
    w.pc (.background i .listener) = ListenerPc.claim → (w.flags i).ip4Emitted = true →
    Ip4Sent i w.history

/-- A task that is about to announce the start has the configuration behind it. -/
def Announced (w : World) : Prop :=
  ∀ i b, w.stage (.background i b) = .announcing → Ip4Sent i w.history

/-- The two ways to get to announce the start. -/
theorem Op.Advance.announcing {b : Background} {s s' : Stage} (h : op.Advance b a s s')
    (hs' : s' = .announcing) :
    (b = .listener ∧ (∃ j, op = .claimIp4 j) ∧ a = .flag false) ∨
      op = .send .ip4Config ∧ a = .ok := by
  subst hs'
  unfold Op.Advance at h
  split at h
  all_goals first
    | exact .inr ⟨rfl, rfl⟩
    | exact .inl ⟨by simpa using h.2, ⟨_, rfl⟩, rfl⟩
    | grind

theorem ListenerPc.eq_claim {pc : ListenerPc} {next : Answer → Option ListenerPc} {j : ℕ}
    (hcode : pc.code i = some (.claimIp4 j, next)) : pc = .claim := by
  cases pc
  case ip4 e => cases e <;> cases hcode
  all_goals cases hcode
  rfl

theorem announced_complete {next : Answer → Option (Pc t)} {pc : Pc t} (hw : Announced w)
    (hloses : LosesToSent w (.run t reply)) (hprog : program env w t = some (op, next))
    (hexec : exec t w op reply = some (a, w')) (hnext : next a = some pc) :
    Announced (w'.goto t pc) := by
  intro i b hs
  have hsuffix := exec_history_suffix hexec
  by_cases ht : t = .background i b
  · subst ht
    rw [stage_goto] at hs
    obtain ⟨rfl, ⟨j, rfl⟩, rfl⟩ | ⟨rfl, rfl⟩ := (program_advance hprog hnext).announcing hs
    · -- The listener has lost the race.
      obtain rfl : j = i := by
        obtain h | h := program_of hprog <;> cases h
        rfl
      obtain ⟨-, -, hcode⟩ := Option.bind_eq_some_iff.mp hprog
      simp only [exec] at hexec
      split_ifs at hexec with hflag <;> cases hexec
      exact hloses j reply rfl (ListenerPc.eq_claim hcode) hflag
    · obtain rfl : reply = .ok := by
        cases reply <;> cases hexec
        rfl
      cases hexec
      exact ⟨_, rfl, List.mem_cons_self⟩
  · rw [stage_goto_of_ne (Ne.symm ht), stage_congr (exec_pc hexec)] at hs
    exact (hw i b hs).mono hsuffix

theorem step_announced {act : Action} (hw : Announced w) (hloses : LosesToSent w act)
    (h : (machine env).step w act = some w') : Announced w' := by
  have hsuffix := step_history_suffix h
  obtain ⟨-, ⟨t, reply, rfl, htask⟩ | ⟨j, b, -, -, rfl⟩ | ⟨-, -, rfl⟩⟩ := step_cases h
  · cases htask with
    | complete hprog howed hexec howed' hnext =>
      exact announced_complete hw hloses hprog hexec hnext
    | update | win => exact fun i b hs ↦ (hw i b hs).mono hsuffix
    | @settle op next signal pc hprog howed hsignal hnext =>
      intro i b hs
      by_cases ht : t = .background i b
      · subst ht
        rw [stage_goto] at hs
        -- No owed signal leads to the announcement of a start.
        obtain ⟨-, ⟨j, rfl⟩, -⟩ | ⟨rfl, -⟩ := (program_advance hprog hnext).announcing hs <;>
          cases hsignal
      · rw [stage_goto_of_ne (Ne.symm ht), stage_congr emit_pc] at hs
        exact (hw i b hs).mono hsuffix
  · intro i b' hs
    by_cases ht : TaskId.background j b = .background i b'
    · cases ht
      rw [stage_goto, stage_exited] at hs
      cases hs
    · rw [stage_goto_of_ne (Ne.symm ht)] at hs
      exact hw i b' hs
  · exact hw

/-- Whatever says that the session is started comes after its configuration. -/
def StartedAfterIp4 (e : TaskId × Event) (earlier : List (TaskId × Event)) : Prop :=
  (∃ changed, e.2 = .set .started changed) ∨ e.2 = .sent (.stateChanged .started) →
    ∃ i, e.1.activation = some i ∧ Ip4Sent i earlier

/-- The handlers never set the state to `Started`. -/
theorem background_of_setState_started {next : Answer → Option (Pc t)}
    (hprog : program env w t = some (.setState .started, next)) : ∃ i b, t = .background i b := by
  match t with
  | .background i b => exact ⟨i, b, rfl⟩
  | .newSecrets i =>
    simp only [program] at hprog
    cases hpc : w.pc (.newSecrets i) <;> rw [hpc] at hprog <;> cases hprog
  | .connect i =>
    simp only [program] at hprog
    cases hpc : w.pc (.connect i) <;> rw [hpc] at hprog <;> cases hprog
  | .disconnect i =>
    simp only [program] at hprog
    cases hpc : w.pc (.disconnect i) <;> rw [hpc] at hprog <;> cases hprog

theorem op_of_started {next : Answer → Option (Pc t)} {e : Event}
    (hprog : program env w t = some (op, next))
    (he : op.Records e ∨
      ∃ signal, op.signal = some signal ∧ w.owed t = some signal ∧ e = .sent signal)
    (hstarted : (∃ changed, e = .set .started changed) ∨ e = .sent (.stateChanged .started)) :
    op = .setState .started := by
  obtain ⟨changed, rfl⟩ | rfl := hstarted
  · obtain he | ⟨signal, -, -, he⟩ := he
    · exact Op.records_set.mp he
    · cases he
  · obtain he | ⟨signal, hsignal, -, he⟩ := he
    · obtain rfl := Op.records_sent.mp he
      exact (program_of hprog).elim
    · cases he
      exact Op.signal_stateChanged.mp hsignal

/-- In runs in which the listener only loses the race to a poller that has sent the configuration,
the state is set to `Started`, and reported as that, only after the configuration is sent. -/
theorem started_after_ip4Config (env : Env) {w : World}
    (h : (machine env).ReachableBy LosesToSent w) : Keeps StartedAfterIp4 w.history := by
  have hboth : Announced w ∧ Keeps StartedAfterIp4 w.history := by
    refine h.invariant (I := fun w ↦ Announced w ∧ Keeps StartedAfterIp4 w.history) ?_ ?_
    · rintro _ rfl
      exact ⟨fun i b hs ↦ by simp at hs, trivial⟩
    · rintro w act w' ⟨hann, hkeeps⟩ hloses hstep
      refine ⟨step_announced hann hloses hstep, step_keeps hkeeps ?_ hstep⟩
      rintro t reply op next e - hprog he hstarted
      obtain rfl : op = .setState .started := op_of_started hprog he hstarted
      obtain ⟨i, b, rfl⟩ := background_of_setState_started hprog
      obtain ⟨a, s', hadv⟩ := program_stage hprog
      exact ⟨i, rfl, hann i b hadv.1⟩
  exact hboth.2

theorem started_after_ip4Config_started :
    started.state = .started ∧ Keeps StartedAfterIp4 started.history := by
  refine ⟨rfl, started_after_ip4Config sampleEnv
    (Machine.ReachableBy.getD_run ⟨_, rfl, .refl⟩ _ ?_)⟩
  simp only [connectRun, listenerStarts, List.map, List.cons_append, List.nil_append,
    Machine.Allows, and_true]
  and_intros <;> rintro i reply ⟨⟩ hpc hflag <;> first | (cases hflag; done) | cases hpc

/-- The poller sees that the tunnel is up, and takes the flag. -/
private def pollerClaims : List Action :=
  ([.ok, .ok, .status 2 7, .err, .ok, .ok] : List Answer).map (.run (.background 0 .poller))

/-- The listener hears the same. -/
private def listenerLoses : List Action :=
  ([.ok, .status 2 7, .ok, .ok, .ok, .ok] : List Answer).map (.run (.background 0 .listener))

/-- While the poller is still at its reads, the listener has already reported the start. -/
theorem started_before_ip4Config :
    ∃ w, (machine sampleEnv).Reachable w ∧ w.state = .started ∧
      (.background 0 .listener, .sent (.stateChanged .started)) ∈ w.history ∧
      w.tally 0 Event.isIp4Config = 0 ∧ ¬Keeps StartedAfterIp4 w.history := by
  refine ⟨_, Machine.reachable_getD_run (Machine.reachable_of_init rfl)
    (connectRun ++ pollerClaims ++ listenerLoses), rfl, List.mem_cons_self, rfl, fun h ↦ ?_⟩
  obtain ⟨i, -, t, -, hsent⟩ := h.1 (.inr rfl)
  exact List.countP_eq_zero (p := fun e ↦ e.2.isIp4Config).mp rfl _ hsent rfl

end Plugin

end NmOpenvpn3
