import NmOpenvpn3.Plugin.Accounts

/-!
# Progress

A call of `Connect` or `Disconnect` always comes to its reply, whatever the backend answers. The
programs of these calls have no loops, so `Pc.stepsLeft` goes down with every step. They wait for
nothing but the connect lock, and its holder is such a call and does not wait.

`call_replies` drives a call: it takes the next step itself, or it waits for the lock and the holder
takes one. No step of this kind is ever refused, and there are at most 94.
-/

namespace NmOpenvpn3

namespace Plugin

open Rust Ovpn Service Concurrent

variable {env : Env} {w w' : World} {t t' : TaskId} {op : Op} {reply a : Answer}

/-! ## Steps that are left -/

/-- The most steps that `connect` may take from a program point to its reply. -/
def ConnectPc.stepsLeft : ConnectPc → ℕ
  | .dispatched => 24
  | .checkActive => 23
  | .clearTeardown => 22
  | .profile => 21
  | .starting => 20
  | .preImport => 19
  | .importConfig => 18
  | .overrides _ => 17
  | .newTunnel _ => 16
  | .removeConfig _ => 5
  | .stash _ _ => 15
  | .stashed _ => 14
  | .waitReady _ => 13
  | .spawnListeners _ => 12
  | .grantAccess _ => 11
  | .beforeConnect _ => 10
  | .sessionConnect _ => 9
  | .armPoller _ => 2
  | .cleanup _ => 8
  | .sessionDisconnect _ _ => 7
  | .retryDisconnect _ _ => 6
  | .removeTaken _ => 5
  | .failed => 4
  | .stopped => 3
  | .failure => 2
  | .replying _ => 1
  | .replied _ => 0

/-- The most steps that `disconnect` may take from a program point to its reply. -/
def DisconnectPc.stepsLeft : DisconnectPc → ℕ
  | .dispatched => 9
  | .acquire => 8
  | .take => 7
  | .sessionDisconnect _ _ => 6
  | .retryDisconnect _ _ => 5
  | .removeConfig _ => 4
  | .stopped => 3
  | .quit => 2
  | .releasing => 1
  | .replied => 0

/-- A call of `Connect` or `Disconnect`. -/
def TaskId.IsCall : TaskId → Prop
  | .connect _ | .disconnect _ => True
  | .newSecrets _ | .background _ _ => False

/-- The steps that are left of a call. -/
def Pc.stepsLeft : (t : TaskId) → Pc t → ℕ
  | .connect _, pc => ConnectPc.stepsLeft pc
  | .disconnect _, pc => DisconnectPc.stepsLeft pc
  | .newSecrets _, _ | .background _ _, _ => 0

/-- A call that has replied. -/
def World.Replied (w : World) : TaskId → Prop
  | .connect i => ∃ r, w.pc (.connect i) = ConnectPc.replied r
  | .disconnect j => w.pc (.disconnect j) = DisconnectPc.replied
  | .newSecrets _ | .background _ _ => False

/-- A call that has yet to acquire the connect lock. -/
def Pc.waits : (t : TaskId) → Pc t → Bool
  | .connect _, .dispatched => true
  | .disconnect _, .acquire => true
  | _, _ => false

@[simp] theorem ConnectPc.stepsLeft_afterDisconnect_le (c : Option Path) :
    (ConnectPc.afterDisconnect c).stepsLeft ≤ 5 := by
  cases c <;> simp [afterDisconnect, stepsLeft]

@[simp] theorem DisconnectPc.stepsLeft_afterDisconnect_le (c : Option Path) :
    (DisconnectPc.afterDisconnect c).stepsLeft ≤ 4 := by
  cases c <;> simp [afterDisconnect, stepsLeft]

/-- Each step of `connect` leaves fewer steps. -/
theorem ConnectPc.stepsLeft_lt {i : ℕ} {data : VpnData} {secrets : SecretsMap} {pc pc' : ConnectPc}
    {next : Answer → Option ConnectPc} (hcode : pc.code i data secrets = some (op, next))
    (hnext : next a = some pc') : pc'.stepsLeft < pc.stepsLeft := by
  cases pc <;> cases hcode
  case importConfig | newTunnel | cleanup =>
    cases a <;> simp at hnext <;> simp [← hnext, stepsLeft]
  case sessionDisconnect p c =>
    have hc := stepsLeft_afterDisconnect_le c
    simp only [onReply_eq_some] at hnext
    obtain ⟨-, rfl⟩ | ⟨-, rfl⟩ := hnext
    · exact hc.trans_lt (by simp [stepsLeft])
    · simp [stepsLeft]
  case retryDisconnect p c =>
    have hc := stepsLeft_afterDisconnect_le c
    simp only [onReply_eq_some] at hnext
    obtain ⟨-, rfl⟩ | ⟨-, rfl⟩ := hnext <;> exact hc.trans_lt (by simp [stepsLeft])
  all_goals
    simp only [always_eq_some, onReply_eq_some, onFlag_eq_some] at hnext
    first
      | obtain rfl := hnext
      | obtain ⟨rfl, rfl⟩ | ⟨rfl, rfl⟩ := hnext
    all_goals simp [stepsLeft]

/-- Each step of `disconnect` leaves fewer steps. -/
theorem DisconnectPc.stepsLeft_lt {persist : Bool} {pc pc' : DisconnectPc}
    {next : Answer → Option DisconnectPc} (hcode : pc.code persist = some (op, next))
    (hnext : next a = some pc') : pc'.stepsLeft < pc.stepsLeft := by
  cases pc <;> cases hcode
  case take =>
    cases a with
    | taken p c =>
      have hc := stepsLeft_afterDisconnect_le c
      cases p <;> simp only [Option.some_inj] at hnext <;> subst hnext
      · exact hc.trans_lt (by simp [stepsLeft])
      · simp [stepsLeft]
    | _ => simp at hnext
  case sessionDisconnect p c =>
    have hc := stepsLeft_afterDisconnect_le c
    simp only [onReply_eq_some] at hnext
    obtain ⟨-, rfl⟩ | ⟨-, rfl⟩ := hnext
    · exact hc.trans_lt (by simp [stepsLeft])
    · simp [stepsLeft]
  case retryDisconnect p c =>
    have hc := stepsLeft_afterDisconnect_le c
    simp only [onReply_eq_some] at hnext
    obtain ⟨-, rfl⟩ | ⟨-, rfl⟩ := hnext <;> exact hc.trans_lt (by simp [stepsLeft])
  case stopped =>
    simp only [always_eq_some] at hnext
    cases persist <;> simp [hnext, stepsLeft]
  all_goals
    simp only [always_eq_some, onReply_eq_some] at hnext
    first
      | obtain rfl := hnext
      | obtain ⟨rfl, rfl⟩ | ⟨rfl, rfl⟩ := hnext
    all_goals simp [stepsLeft]

theorem stepsLeft_lt {next : Answer → Option (Pc t)} {pc : Pc t} (ht : t.IsCall)
    (hprog : program env w t = some (op, next)) (hnext : next a = some pc) :
    Pc.stepsLeft t pc < Pc.stepsLeft t (w.pc t) := by
  match t, ht with
  | .connect i, _ => exact ConnectPc.stepsLeft_lt hprog hnext
  | .disconnect j, _ => exact DisconnectPc.stepsLeft_lt hprog hnext

/-! ## What is done with a reply -/

/-- A reply of the backend to an operation: an error, or success, with the path of what is
created. -/
def Op.replyOf : Op → Option Path → Answer
  | _, none => .err
  | .importConfig, some p | .newTunnel, some p => .path p
  | _, some _ => .ok

/-- An operation is carried out with any reply, and the program knows how to go on. -/
structure Goes (t : TaskId) (w : World) (op : Op) (next : Answer → Option (Pc t)) : Prop where
  exec : ∀ reply, ∃ a w', exec t w op (op.replyOf reply) = some (a, w') ∧
    (w'.owed t = none → (next a).isSome)
  settle : op.signal.isSome → (next (.flag true)).isSome

section Goes

variable {next : Answer → Option (Pc t)}

/-- It is enough to look at the answer. -/
theorem Goes.of_exec (hsignal : op.signal = none)
    (h : ∀ reply, ∃ a w', Plugin.exec t w op (op.replyOf reply) = some (a, w') ∧
      (next a).isSome) : Goes t w op next :=
  ⟨fun reply ↦ let ⟨a, w', hexec, hnext⟩ := h reply; ⟨a, w', hexec, fun _ ↦ hnext⟩,
    by simp [hsignal]⟩

theorem goes_setState {new : NmVpnServiceState} {pc : Pc t} :
    Goes t w (.setState new) (always pc) := by
  refine ⟨fun reply ↦ ?_, fun _ ↦ rfl⟩
  by_cases hstate : w.state = new
  · exact ⟨_, _, by rw [Plugin.exec, if_pos hstate], fun _ ↦ rfl⟩
  · exact ⟨_, _, by rw [Plugin.exec, if_neg hstate], fun _ ↦ rfl⟩

theorem goes_flag {b : Bool} {yes no : Pc t} (hsignal : op.signal = none)
    (h : ∀ reply, Plugin.exec t w op (op.replyOf reply) = some (.flag b, w)) :
    Goes t w op (onFlag yes no) :=
  .of_exec hsignal fun reply ↦ ⟨_, _, h reply, by cases b <;> rfl⟩

theorem goes_reply {ok err : Pc t} (hsignal : op.signal = none)
    (h : ∀ reply, ∃ w', Plugin.exec t w op (op.replyOf reply) =
      some (if reply.isSome then .ok else .err, w')) :
    Goes t w op (onReply ok err) := by
  refine .of_exec hsignal fun reply ↦ ?_
  obtain ⟨w', hexec⟩ := h reply
  exact ⟨_, _, hexec, by cases reply <;> rfl⟩

end Goes

/-- A program of `connect` that is not done goes on, but for the lock. -/
theorem ConnectPc.exists_goes {i : ℕ} {data : VpnData} {secrets : SecretsMap} {pc : ConnectPc}
    (hreplied : pc.stepsLeft ≠ 0) (hlock : pc = .dispatched → w.lock = none) :
    ∃ op next, pc.code i data secrets = some (op, next) ∧ Goes (.connect i) w op next := by
  cases pc
  case replied r => exact absurd rfl hreplied
  all_goals refine ⟨_, _, rfl, ?_⟩
  case dispatched =>
    exact .of_exec rfl fun _ ↦ ⟨_, _, by rw [exec, if_pos (hlock rfl)], rfl⟩
  case checkActive | preImport | stashed | beforeConnect | failed =>
    exact goes_flag rfl fun _ ↦ rfl
  case starting | stopped => exact goes_setState
  case importConfig | newTunnel =>
    exact .of_exec rfl fun reply ↦ by cases reply <;> exact ⟨_, _, rfl, rfl⟩
  case profile | waitReady | sessionConnect | removeConfig | sessionDisconnect | retryDisconnect
      | removeTaken | failure =>
    exact goes_reply rfl fun reply ↦ by cases reply <;> exact ⟨_, rfl⟩
  all_goals exact .of_exec rfl fun reply ↦ ⟨_, _, rfl, rfl⟩

/-- A program of `disconnect` that is not done goes on, but for the lock. -/
theorem DisconnectPc.exists_goes {j : ℕ} {persist : Bool} {pc : DisconnectPc}
    (hreplied : pc.stepsLeft ≠ 0) (hlock : pc = .acquire → w.lock = none) :
    ∃ op next, pc.code persist = some (op, next) ∧ Goes (.disconnect j) w op next := by
  cases pc
  case replied => exact absurd rfl hreplied
  all_goals refine ⟨_, _, rfl, ?_⟩
  case acquire =>
    exact .of_exec rfl fun _ ↦ ⟨_, _, by rw [exec, if_pos (hlock rfl)], rfl⟩
  case stopped => exact goes_setState
  case take =>
    refine .of_exec rfl fun _ ↦ ⟨_, _, rfl, ?_⟩
    cases w.session.sessionPath <;> rfl
  case removeConfig | sessionDisconnect | retryDisconnect =>
    exact goes_reply rfl fun reply ↦ by cases reply <;> exact ⟨_, rfl⟩
  all_goals exact .of_exec rfl fun reply ↦ ⟨_, _, rfl, rfl⟩

/-- A call that has not replied goes on, but for the lock. -/
theorem exists_goes (ht : t.IsCall) (hreplied : Pc.stepsLeft t (w.pc t) ≠ 0)
    (hlock : Pc.waits t (w.pc t) = true → w.lock = none) :
    ∃ op next, program env w t = some (op, next) ∧ Goes t w op next := by
  match t, ht with
  | .connect i, _ =>
    exact ConnectPc.exists_goes hreplied fun hpc ↦ hlock (by rw [hpc]; rfl)
  | .disconnect j, _ =>
    exact DisconnectPc.exists_goes hreplied fun hpc ↦ hlock (by rw [hpc]; rfl)

theorem replied_iff (ht : t.IsCall) : w.Replied t ↔ Pc.stepsLeft t (w.pc t) = 0 := by
  match t, ht with
  | .connect i, _ =>
    change (∃ r, _) ↔ ConnectPc.stepsLeft (w.pc (.connect i)) = 0
    cases hpc : w.pc (.connect i) <;> simp [ConnectPc.stepsLeft]
  | .disconnect j, _ =>
    change _ = _ ↔ DisconnectPc.stepsLeft (w.pc (.disconnect j)) = 0
    cases hpc : w.pc (.disconnect j) <;> simp [DisconnectPc.stepsLeft]

/-! ## Signals that are owed -/

/-- The program of a call depends on its program point only. -/
theorem program_congr (ht : t.IsCall) (hpc : w'.pc t = w.pc t) :
    program env w' t = program env w t := by
  match t, ht with
  | .connect i, _ | .disconnect i, _ => simp only [program, hpc]

/-- A call owes no signals but those of its operation. -/
def OwesOwn (env : Env) (w : World) (t : TaskId) : Prop :=
  ∀ signal, w.owed t = some signal →
    ∃ op next, program env w t = some (op, next) ∧ op.signal = some signal

theorem TaskStep.owesOwn (h : TaskStep env w t reply w') (ht' : t'.IsCall)
    (hw : OwesOwn env w t') : OwesOwn env w' t' := by
  intro signal howes
  by_cases htt : t' = t
  · subst htt
    cases h with
    | complete hprog howed hexec howed' hnext =>
      rw [World.goto_owed, howed'] at howes
      cases howes
    | @update new next hprog howed hstate =>
      simp only [World.owe_owed, Function.update_self, Option.some_inj] at howes
      exact ⟨_, next, by rw [← hprog]; exact program_congr ht' rfl, by rw [← howes]; rfl⟩
    | @win i reason next hprog howed hflag =>
      simp only [World.owe_owed, Function.update_self, Option.some_inj] at howes
      exact ⟨_, next, by rw [← hprog]; exact program_congr ht' rfl, by rw [← howes]; rfl⟩
    | settle =>
      rw [World.goto_owed, emit_owed_self] at howes
      cases howes
  · rw [h.owed_of_ne htt] at howes
    rw [program_congr ht' (h.pc_of_ne htt)]
    exact hw signal howes

theorem owesOwn_of_reachable (h : (machine env).Reachable w) (ht : t.IsCall) :
    OwesOwn env w t := by
  refine invariant_of_steps (I := fun w ↦ OwesOwn env w t) nofun ?_ ?_ (fun w hw ↦ ?_) h
  · exact fun w t' reply w' _ _ hw hstep ↦ hstep.owesOwn ht hw
  · intro w i b _ hw signal howes
    have hne : t ≠ .background i b := by
      rintro rfl
      exact ht
    simp only [World.goto_owed, World.owe_owed, Function.update_of_ne hne] at howes
    rw [program_congr (w := w) ht (by simp [hne])]
    exact hw signal howes
  · intro signal howes
    rw [program_congr ht rfl]
    exact hw signal howes

/-! ## One step -/

/-- A call that has not replied takes a step, with any reply. -/
theorem exists_step (hexited : w.exited = false) (ht : t.IsCall) (howes : OwesOwn env w t)
    (hreplied : ¬w.Replied t) (hlock : Pc.waits t (w.pc t) = true → w.lock = none)
    (reply : Option Path) : ∃ op next w', program env w t = some (op, next) ∧
      (machine env).step w (.run t (op.replyOf reply)) = some w' := by
  rw [replied_iff ht] at hreplied
  obtain ⟨op, next, hprog, hgoes⟩ : ∃ op next, program env w t = some (op, next) ∧
      Goes t w op next := exists_goes ht hreplied hlock
  refine ⟨op, next, ?_⟩
  cases howed : w.owed t with
  | some signal =>
    obtain ⟨op', next', hprog', hsignal⟩ := howes signal howed
    obtain ⟨rfl, rfl⟩ := Prod.mk.inj (Option.some_inj.mp (hprog'.symm.trans hprog))
    obtain ⟨pc, hpc⟩ := Option.isSome_iff_exists.mp (hgoes.settle (by rw [hsignal]; rfl))
    exact ⟨_, hprog, step_settle hexited howed hprog hsignal hpc⟩
  | none =>
    obtain ⟨a, w', hexec, hnext⟩ := hgoes.exec reply
    by_cases howed' : w'.owed t = none
    · obtain ⟨pc, hpc⟩ := Option.isSome_iff_exists.mp (hnext howed')
      exact ⟨_, hprog, step_complete hexited howed hprog hexec howed' hpc⟩
    · refine ⟨w', hprog, ?_⟩
      simp [machine, step, runTask, hexited, howed, hprog, hexec,
        Option.isSome_iff_ne_none.mpr howed']

/-- The work that is left of a call. An operation that owes a signal is done by half. -/
def World.workLeft (w : World) (t : TaskId) : ℕ :=
  2 * Pc.stepsLeft t (w.pc t) - (w.owed t).toList.length

theorem TaskStep.workLeft_lt (h : TaskStep env w t reply w') (ht : t.IsCall) :
    w'.workLeft t < w.workLeft t := by
  have hpos : 0 < Pc.stepsLeft t (w.pc t) := by
    obtain ⟨op, next, hprog⟩ := h.exists_program
    rw [Nat.pos_iff_ne_zero]
    intro hzero
    match t, ht with
    | .connect i, ht =>
      obtain ⟨r, hr⟩ := (replied_iff ht).mpr hzero
      simp only [program, hr] at hprog
      cases hprog
    | .disconnect j, ht =>
      have hr := (replied_iff (w := w) ht).mpr hzero
      simp only [program, show w.pc (.disconnect j) = _ from hr] at hprog
      cases hprog
  rw [World.workLeft, World.workLeft]
  cases h with
  | complete hprog howed hexec howed' hnext =>
    have hlt := stepsLeft_lt ht hprog hnext
    simp only [World.goto_pc, Function.update_self, World.goto_owed, howed, howed',
      Option.toList_none, List.length_nil]
    omega
  | update hprog howed | win hprog howed =>
    simp only [World.owe_pc, World.note_pc, World.setFlags_pc, World.owe_owed, Function.update_self,
      howed, Option.toList_some, Option.toList_none, List.length_nil, List.length_singleton]
    omega
  | settle hprog howed hsignal hnext =>
    have hlt := stepsLeft_lt ht hprog hnext
    simp only [World.goto_pc, Function.update_self, World.goto_owed, emit_owed_self, howed,
      Option.toList_none, Option.toList_some, List.length_nil, List.length_singleton]
    omega

/-- A step leaves the work of other tasks as it is. -/
theorem TaskStep.workLeft_of_ne (h : TaskStep env w t reply w') (hne : t' ≠ t) :
    w'.workLeft t' = w.workLeft t' := by
  rw [World.workLeft, World.workLeft, h.pc_of_ne hne, h.owed_of_ne hne]

theorem TaskStep.lock (h : TaskStep env w t reply w') :
    w'.lock = some t ∨ w'.lock = none ∨ w'.lock = w.lock := by
  cases h with
  | complete hprog howed hexec howed' hnext => exact (exec_lock hexec).imp_left And.right
  | update | win => exact .inr (.inr rfl)
  | settle => cases reply <;> exact .inr (.inr rfl)

/-! ## Driving a call -/

/-- Whose turn it is when a call is driven: its own, or that of the holder of the lock that it waits
for. -/
def World.turn (w : World) (t : TaskId) : TaskId :=
  if Pc.waits t (w.pc t) then w.lock.getD t else t

/-- The next action when a call is driven with a reply of the backend. -/
def drive (env : Env) (t : TaskId) (reply : Option Path) (w : World) : Action :=
  .run (w.turn t) (match program env w (w.turn t) with
    | some (op, _) => op.replyOf reply
    | none => .ok)

/-- The work of the lock's holder that a call may have to wait for. -/
def World.workAhead (w : World) (t : TaskId) : ℕ :=
  match w.lock with
  | some h => if h = t then 0 else w.workLeft h
  | none => 0

theorem ConnectPc.of_locked {pc : ConnectPc} (h : pc.holding.locked = true) :
    pc ≠ .dispatched ∧ pc.stepsLeft ≠ 0 ∧ pc.stepsLeft ≤ 23 := by
  cases pc <;> simp [holding, Holding.free] at h <;> simp [stepsLeft]

theorem DisconnectPc.of_locked {pc : DisconnectPc} (h : pc.holding.locked = true) :
    pc ≠ .acquire ∧ pc.stepsLeft ≠ 0 ∧ pc.stepsLeft ≤ 23 := by
  cases pc <;> simp [holding, Holding.free] at h <;> simp [stepsLeft]

/-- The holder of the lock is a call that does not wait and has not replied. -/
theorem of_lock (hw : Accounted w (holdings w)) (hl : w.lock = some t) :
    t.IsCall ∧ Pc.waits t (w.pc t) = false ∧ ¬w.Replied t ∧ w.workLeft t ≤ 46 := by
  have hlocked : (Pc.holding t (w.pc t)).locked = true := (hw.lock t).mp hl
  match t with
  | .connect i =>
    obtain ⟨hne, hpos, hle⟩ := ConnectPc.of_locked hlocked
    refine ⟨trivial, ?_, (replied_iff (t := .connect i) trivial).not.mpr hpos, ?_⟩
    · rw [Pc.waits.eq_def]
      split <;> simp_all
    · rw [World.workLeft, Pc.stepsLeft]
      omega
  | .disconnect j =>
    obtain ⟨hne, hpos, hle⟩ := DisconnectPc.of_locked hlocked
    refine ⟨trivial, ?_, (replied_iff (t := .disconnect j) trivial).not.mpr hpos, ?_⟩
    · rw [Pc.waits.eq_def]
      split <;> simp_all
    · rw [World.workLeft, Pc.stepsLeft]
      omega
  | .newSecrets j | .background i b => simp [Pc.holding, Holding.free] at hlocked

theorem turn_cases (w : World) (t : TaskId) :
    w.turn t = t ∧ (Pc.waits t (w.pc t) = true → w.lock = none) ∨ w.lock = some (w.turn t) := by
  rw [World.turn]
  split_ifs with hwait
  · cases hl : w.lock with
    | none => exact .inl ⟨rfl, fun _ ↦ rfl⟩
    | some u => exact .inr rfl
  · exact .inl ⟨rfl, fun hyes ↦ absurd hyes hwait⟩

/-- Whoever's turn it is takes a step, and that brings down the work of both. -/
theorem exists_drive (h : (machine env).Reachable w) (hexited : w.exited = false) (ht : t.IsCall)
    (hreplied : ¬w.Replied t) (reply : Option Path) :
    ∃ w', (machine env).step w (drive env t reply w) = some w' ∧ w'.exited = false ∧
      w'.workLeft t + w'.workAhead t < w.workLeft t + w.workAhead t := by
  have hw := accounted_of_reachable h
  -- The task whose turn it is does not wait for the lock.
  have hturn : (w.turn t).IsCall ∧ ¬w.Replied (w.turn t) ∧
      (Pc.waits (w.turn t) (w.pc (w.turn t)) = true → w.lock = none) := by
    obtain ⟨he, hfree⟩ | hl := turn_cases w t
    · rw [he]
      exact ⟨ht, hreplied, hfree⟩
    · obtain ⟨hcall, hnot, hrep, -⟩ := of_lock hw hl
      exact ⟨hcall, hrep, fun hyes ↦ absurd hyes (by simp [hnot])⟩
  obtain ⟨hcall, hrep, hfree⟩ := hturn
  obtain ⟨op, next, w', hprog, hstep⟩ := exists_step hexited hcall
    (owesOwn_of_reachable h hcall) hrep hfree reply
  refine ⟨w', by rw [drive, hprog]; exact hstep, ?_⟩
  obtain ⟨-, ⟨u, reply', he, htask⟩ | ⟨i, b, he, -⟩ | ⟨he, -⟩⟩ := step_cases hstep <;> cases he
  refine ⟨htask.exited.trans hexited, ?_⟩
  have hlt := htask.workLeft_lt hcall
  by_cases hu : w.turn t = t
  · -- The call's own step adds no work ahead of it.
    rw [hu] at htask hlt
    have hahead : w'.workAhead t ≤ w.workAhead t := by
      rw [World.workAhead, World.workAhead]
      obtain hl | hl | hl := htask.lock
      · simp [hl]
      · simp [hl]
      · rw [hl]
        cases w.lock with
        | none => exact le_rfl
        | some u =>
          by_cases hut : u = t
          · simp [hut]
          · simp [hut, htask.workLeft_of_ne hut]
    omega
  · -- The holder's step leaves less work ahead.
    have hl := (turn_cases w t).resolve_left fun he ↦ hu he.1
    have hahead : w'.workAhead t ≤ w'.workLeft (w.turn t) := by
      rw [World.workAhead]
      obtain hl' | hl' | hl' := htask.lock
      · simp [hl', hu]
      · simp [hl']
      · simp [hl', hl, hu]
    have hbefore : w.workAhead t = w.workLeft (w.turn t) := by simp [World.workAhead, hl, hu]
    rw [htask.workLeft_of_ne (Ne.symm hu)]
    omega

/-- **A call always comes to its reply**: driven with any replies of the backend, a call of
`Connect` or `Disconnect` replies after at most 94 steps, its own and those of the holder of the
lock that it waits for. -/
theorem call_replies (env : Env) {w : World} (h : (machine env).Reachable w)
    (hexited : w.exited = false) {t : TaskId} (ht : t.IsCall) {replies : List (Option Path)}
    (hlen : 94 ≤ replies.length) : ∃ used, used <+: replies ∧ ∃ w',
      (machine env).follow (drive env t) used w = some w' ∧ w'.Replied t := by
  have hsteps : Pc.stepsLeft t (w.pc t) ≤ 24 := by
    match t, ht with
    | .connect i, _ =>
      change ConnectPc.stepsLeft (w.pc (.connect i)) ≤ 24
      cases w.pc (.connect i) <;> simp [ConnectPc.stepsLeft]
    | .disconnect j, _ =>
      change DisconnectPc.stepsLeft (w.pc (.disconnect j)) ≤ 24
      cases w.pc (.disconnect j) <;> simp [DisconnectPc.stepsLeft]
  have hahead : w.workAhead t ≤ 46 := by
    rw [World.workAhead]
    cases hl : w.lock with
    | none => exact Nat.zero_le _
    | some u =>
      obtain ⟨-, -, -, hle⟩ := of_lock (accounted_of_reachable h) hl
      simp only
      split_ifs
      · exact Nat.zero_le _
      · exact hle
  have hleft : w.workLeft t ≤ 48 := by
    rw [World.workLeft]
    omega
  refine Machine.exists_follow_of_measure
    (fun w ↦ (machine env).Reachable w ∧ w.exited = false) (fun w ↦ w.Replied t)
    (fun w ↦ w.workLeft t + w.workAhead t) ?_ ?_ ⟨h, hexited⟩ (by omega)
  · rintro w reply ⟨hreach, hex⟩ hrep
    obtain ⟨w', hstep, hex', hlt⟩ := exists_drive hreach hex ht hrep reply
    exact ⟨w', hstep, ⟨hreach.step hstep, hex'⟩, hlt⟩
  · rintro w - hzero
    rw [replied_iff ht]
    simp only [World.workLeft] at hzero
    have howed : (w.owed t).toList.length ≤ 1 := by cases w.owed t <;> simp
    omega

/-- A `Connect` call holds the lock, and a `Disconnect` call has asked for a teardown. -/
private def contended : World :=
  ((machine sampleEnv).run .init (connectRun.take 12 ++ [.run (.disconnect 0) .ok])).getD .init

theorem call_replies_contended : contended.lock = some (.connect 0) ∧ ∃ used,
    used <+: List.replicate 94 (some "/path") ∧ ∃ w', (machine sampleEnv).follow
      (drive sampleEnv (.disconnect 0)) used contended = some w' ∧ w'.Replied (.disconnect 0) :=
  ⟨rfl, call_replies sampleEnv (t := .disconnect 0)
    (Machine.reachable_getD_run (Machine.reachable_of_init rfl) _) rfl trivial (by simp)⟩

end Plugin

end NmOpenvpn3
