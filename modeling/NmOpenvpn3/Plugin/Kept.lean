import NmOpenvpn3.Plugin.Prompts
import Mathlib.Data.List.Perm.Subperm

/-!
# What becomes of pending slots

A `NewSecrets` call takes the queue of pending slots out of the session state before it provides
anything, and never puts a slot back. So a slot without a value, a slot whose `ProvideInput` fails
and every slot that is taken without a session is gone: `pending_kept_iff` says that nothing is lost
only where there is nothing to put back. The proof follows the slots that the call is still going to
try (`NewSecretsPc.ahead`) through its run.
-/

namespace NmOpenvpn3

namespace Plugin

open Rust Ovpn Service Concurrent

variable {env : Env} {w w' : World} {j : ℕ} {reply : Answer}

/-! ## The attempts of a call -/

/-- The slot whose `ProvideInput` is carried out, and whether it succeeds. -/
def NewSecretsPc.attempt : NewSecretsPc → Answer → Option (InputSlot × Bool)
  | .provide _ slot _ _ _, .ok => some (slot, true)
  | .provide _ slot _ _ _, _ => some (slot, false)
  | _, _ => none

/-- What an action attempts for a call. -/
def Action.attempt (j : ℕ) (w : World) : Action → Option (InputSlot × Bool)
  | .run (.newSecrets i) reply =>
    if i = j then NewSecretsPc.attempt (w.pc (.newSecrets i)) reply else none
  | _ => none

/-- The attempts of a call along a list of actions. -/
def attempts (env : Env) (j : ℕ) : World → List Action → List (InputSlot × Bool)
  | _, [] => []
  | w, act :: acts =>
    (act.attempt j w).toList ++ attempts env j (((machine env).step w act).getD w) acts

/-- The slots that are provided successfully. -/
def provided (l : List (InputSlot × Bool)) : List InputSlot := (l.filter Prod.snd).map Prod.fst

/-- No teardown is requested, and other tasks leave the queue alone. -/
structure Undisturbed (env : Env) (j : ℕ) (w : World) (act : Action) : Prop where
  teardown : w.teardown = false
  queue : ∀ w', (∀ reply, act ≠ .run (.newSecrets j) reply) → (machine env).step w act = some w' →
    w'.session.pendingSlots = w.session.pendingSlots

/-! ## The slots ahead -/

/-- The slots that a call is going to try: those with a value. -/
def NewSecretsPc.ahead (settings : VpnData × SecretsMap) : NewSecretsPc → List InputSlot
  | .check _ slot rest _ =>
    (slot :: rest).filter fun s ↦ (slotValue settings.1 settings.2 s).isSome
  | .provide _ slot _ rest _ =>
    slot :: rest.filter fun s ↦ (slotValue settings.1 settings.2 s).isSome
  | .provideFailed _ rest _ => rest.filter fun s ↦ (slotValue settings.1 settings.2 s).isSome
  | .dispatched | .replied _ => []

theorem NewSecretsPc.ahead_loop {settings : VpnData × SecretsMap} {p : Path}
    {slots : List InputSlot} {missing : ℕ} : (loop p slots missing).ahead settings =
      slots.filter fun s ↦ (slotValue settings.1 settings.2 s).isSome := by
  cases slots <;> rfl

/-- A call that has taken the queue is past its first program point for good. -/
theorem NewSecretsPc.loop_ne_dispatched {p : Path} {slots : List InputSlot} {missing : ℕ} :
    loop p slots missing ≠ .dispatched := by
  cases slots <;> rintro ⟨⟩

/-- **A step tries the next slot ahead**, as long as no teardown is requested, and leaves the queue
alone. -/
theorem NewSecretsPc.ahead_step (h : TaskStep env w (.newSecrets j) reply w')
    (hteardown : w.teardown = false) (hpc : w.pc (.newSecrets j) ≠ NewSecretsPc.dispatched) :
    NewSecretsPc.ahead (env.newSettings j) (w.pc (.newSecrets j)) =
        ((NewSecretsPc.attempt (w.pc (.newSecrets j)) reply).map Prod.fst).toList ++
          NewSecretsPc.ahead (env.newSettings j) (w'.pc (.newSecrets j)) ∧
      w'.pc (.newSecrets j) ≠ NewSecretsPc.dispatched ∧
      w'.session.pendingSlots = w.session.pendingSlots := by
  obtain ⟨op, next, a, w₁, pc, hprog, hexec, hnext, rfl⟩ := h.of_newSecrets
  simp only [program] at hprog
  rw [World.goto_pc, Function.update_self, World.goto_session]
  generalize hq : w.pc (.newSecrets j) = q at hprog hpc
  cases q with
  | dispatched => exact absurd rfl hpc
  | check p slot rest missing =>
    cases hprog
    cases hexec
    rw [hteardown] at hnext
    obtain ⟨hno, -⟩ | ⟨-, rfl⟩ := onFlag_eq_some.mp hnext
    · cases hno
    · cases hv : slotValue (env.newSettings j).1 (env.newSettings j).2 slot with
      | some value => exact ⟨by simp [ahead, attempt, hv], by rintro ⟨⟩, rfl⟩
      | none =>
        refine ⟨?_, loop_ne_dispatched, rfl⟩
        rw [ahead_loop]
        simp [ahead, attempt, hv]
  | provide p slot value rest missing =>
    cases hprog
    cases hexec
    obtain ⟨rfl, rfl⟩ | ⟨rfl, rfl⟩ := onReply_eq_some.mp hnext
    · refine ⟨?_, loop_ne_dispatched, rfl⟩
      rw [ahead_loop]
      rfl
    · exact ⟨rfl, by rintro ⟨⟩, rfl⟩
  | provideFailed p rest missing =>
    cases hprog
    cases hexec
    rw [hteardown] at hnext
    obtain ⟨hno, -⟩ | ⟨-, rfl⟩ := onFlag_eq_some.mp hnext
    · cases hno
    · refine ⟨?_, loop_ne_dispatched, rfl⟩
      rw [ahead_loop]
      rfl
  | replied missing => cases hprog

/-- A step of another task leaves the call where it is. -/
theorem pc_of_other_step {act : Action} (hact : ∀ reply, act ≠ .run (.newSecrets j) reply)
    (h : (machine env).step w act = some w') : w'.pc (.newSecrets j) = w.pc (.newSecrets j) := by
  obtain ⟨-, ⟨t, reply, rfl, htask⟩ | ⟨i, b, -, -, rfl⟩ | ⟨-, -, rfl⟩⟩ := step_cases h
  · refine htask.pc_of_ne ?_
    rintro rfl
    exact hact reply rfl
  · simp
  · rfl

/-- A call that replies has tried what was ahead, slot by slot. -/
theorem attempts_eq_ahead {acts : List Action} {missing : ℕ}
    (hpc : w.pc (.newSecrets j) ≠ NewSecretsPc.dispatched)
    (hrun : (machine env).run w acts = some w')
    (hquiet : (machine env).Allows (Undisturbed env j) w acts)
    (hreplied : w'.pc (.newSecrets j) = NewSecretsPc.replied missing) :
    (attempts env j w acts).map Prod.fst =
        NewSecretsPc.ahead (env.newSettings j) (w.pc (.newSecrets j)) ∧
      w'.session.pendingSlots = w.session.pendingSlots := by
  induction acts generalizing w with
  | nil =>
    obtain rfl := Option.some_inj.mp hrun
    rw [hreplied]
    exact ⟨rfl, rfl⟩
  | cons act acts ih =>
    obtain ⟨w₁, hstep, hrest⟩ := Option.bind_eq_some_iff.mp hrun
    obtain ⟨hact, hacts⟩ := hquiet
    rw [hstep, Option.getD_some] at hacts
    rw [attempts, hstep, Option.getD_some, List.map_append]
    by_cases hown : ∃ reply, act = .run (.newSecrets j) reply
    · obtain ⟨reply, rfl⟩ := hown
      obtain ⟨-, ⟨t, reply', he, htask⟩ | ⟨i, b, he, -⟩ | ⟨he, -⟩⟩ := step_cases hstep <;> cases he
      obtain ⟨hahead, hpc', hqueue⟩ := NewSecretsPc.ahead_step htask hact.teardown hpc
      obtain ⟨hmap, hqueue'⟩ := ih hpc' hrest hacts
      refine ⟨?_, hqueue'.trans hqueue⟩
      rw [hahead, hmap]
      simp [Action.attempt, Option.toList_map]
    · rw [not_exists] at hown
      have hsame := pc_of_other_step hown hstep
      obtain ⟨hmap, hqueue⟩ := ih (hsame ▸ hpc) hrest hacts
      refine ⟨?_, hqueue.trans (hact.queue w₁ hown hstep)⟩
      have hnone : act.attempt j w = none := by
        cases act with
        | run t reply =>
          cases t with
          | newSecrets i =>
            refine if_neg ?_
            rintro rfl
            exact hown reply rfl
          | _ => rfl
        | _ => rfl
      rw [hnone, hmap, hsame]
      rfl

/-- The first step of a call takes the queue. What is ahead then is what has a value, if there is a
session. -/
theorem NewSecretsPc.ahead_take (h : TaskStep env w (.newSecrets j) reply w')
    (hpc : w.pc (.newSecrets j) = NewSecretsPc.dispatched) :
    NewSecretsPc.ahead (env.newSettings j) (w'.pc (.newSecrets j)) =
        (if w.session.sessionPath.isSome then w.session.pendingSlots.filter fun s ↦
            (slotValue (env.newSettings j).1 (env.newSettings j).2 s).isSome
          else []) ∧
      w'.pc (.newSecrets j) ≠ NewSecretsPc.dispatched ∧ w'.session.pendingSlots = [] := by
  obtain ⟨op, next, a, w₁, pc, hprog, hexec, hnext, rfl⟩ := h.of_newSecrets
  simp only [program, hpc] at hprog
  cases hprog
  rw [World.goto_pc, Function.update_self, World.goto_session]
  cases hp : w.session.sessionPath with
  | none =>
    simp only [exec, hp] at hexec
    cases hexec
    obtain rfl := Option.some_inj.mp hnext
    exact ⟨rfl, by rintro ⟨⟩, rfl⟩
  | some p =>
    simp only [exec, hp] at hexec
    cases hexec
    obtain rfl := Option.some_inj.mp hnext
    exact ⟨ahead_loop, loop_ne_dispatched, rfl⟩

/-! ## What is kept -/

/-- When those of a list with a property are tried, all of the list is provided only if all have the
property and no attempt fails. -/
theorem subperm_provided_iff {p : InputSlot → Bool} {l : List InputSlot}
    {tried : List (InputSlot × Bool)} (h : tried.map Prod.fst = l.filter p) :
    l.Subperm (provided tried) ↔ (∀ slot ∈ l, p slot = true) ∧ ∀ x ∈ tried, x.2 = true := by
  have htried : tried.length = (l.filter p).length := by rw [← h, List.length_map]
  constructor
  · intro hsub
    have hlen := hsub.length_le
    rw [provided, List.length_map] at hlen
    have hp := List.length_filter_le p l
    have hsucc := List.length_filter_le Prod.snd tried
    exact ⟨List.length_filter_eq_length_iff.mp (by omega),
      List.length_filter_eq_length_iff.mp (by omega)⟩
  · rintro ⟨hp, hsucc⟩
    rw [provided, List.filter_eq_self.mpr hsucc, h, List.filter_eq_self.mpr hp]

/-- **What becomes of pending slots**: after a call that no teardown has disturbed, every slot that
was pending has been provided or is still queued exactly when none was pending, or there was a
session, every slot had a value, and every `ProvideInput` has succeeded. -/
theorem pending_kept_iff {acts : List Action} {missing : ℕ}
    (hpc : w.pc (.newSecrets j) = NewSecretsPc.dispatched)
    (hrun : (machine env).run w (.run (.newSecrets j) reply :: acts) = some w')
    (hquiet : (machine env).Allows (Undisturbed env j) w (.run (.newSecrets j) reply :: acts))
    (hreplied : w'.pc (.newSecrets j) = NewSecretsPc.replied missing) :
    w.session.pendingSlots.Subperm
        (provided (attempts env j w (.run (.newSecrets j) reply :: acts)) ++
          w'.session.pendingSlots) ↔
      w.session.pendingSlots = [] ∨ w.session.sessionPath.isSome = true ∧
        (∀ slot ∈ w.session.pendingSlots,
          (slotValue (env.newSettings j).1 (env.newSettings j).2 slot).isSome = true) ∧
        ∀ x ∈ attempts env j w (.run (.newSecrets j) reply :: acts), x.2 = true := by
  obtain ⟨w₁, hstep, hrest⟩ := Option.bind_eq_some_iff.mp hrun
  obtain ⟨-, hacts⟩ := hquiet
  rw [hstep, Option.getD_some] at hacts
  obtain ⟨-, ⟨t, reply', he, htask⟩ | ⟨i, b, he, -⟩ | ⟨he, -⟩⟩ := step_cases hstep <;> cases he
  obtain ⟨hahead, hpc', hqueue⟩ := NewSecretsPc.ahead_take htask hpc
  obtain ⟨hmap, hqueue'⟩ := attempts_eq_ahead hpc' hrest hacts hreplied
  have hfirst : Action.attempt j w (.run (.newSecrets j) reply) = none := by
    simp [Action.attempt, NewSecretsPc.attempt, hpc]
  rw [attempts, hfirst, hstep, Option.getD_some, Option.toList_none, List.nil_append, hqueue',
    hqueue, List.append_nil]
  rw [hahead] at hmap
  cases hp : w.session.sessionPath with
  | none =>
    rw [hp] at hmap
    have hnil : attempts env j w₁ acts = [] := List.map_eq_nil_iff.mp hmap
    simp [hnil, provided]
  | some p =>
    rw [hp] at hmap
    rw [subperm_provided_iff hmap]
    refine ⟨fun h ↦ .inr ⟨rfl, h⟩, ?_⟩
    rintro (hnil | ⟨-, h⟩)
    · -- Where nothing is pending, nothing is tried.
      rw [hnil] at hmap ⊢
      have hnone : attempts env j w₁ acts = [] := List.map_eq_nil_iff.mp hmap
      exact ⟨nofun, by simp [hnone]⟩
    · exact h

/-- The session is up, and the password is asked for. -/
private def awaiting : World :=
  ((machine answeringEnv).run .init (connectRun ++ promptRun)).getD .init

/-- Only the call itself runs. -/
private theorem undisturbed_own {w : World} {reply : Answer} (h : w.teardown = false) :
    Undisturbed answeringEnv 0 w (.run (.newSecrets 0) reply) :=
  ⟨h, fun _ hother _ ↦ absurd rfl (hother reply)⟩

/-- The answer for the only pending slot is provided. -/
theorem pending_kept_answered : awaiting.session.pendingSlots = [passwordSlot] ∧
    awaiting.session.pendingSlots.Subperm (provided (attempts answeringEnv 0 awaiting answerRun) ++
      (((machine answeringEnv).run awaiting answerRun).getD awaiting).session.pendingSlots) := by
  refine ⟨rfl, (pending_kept_iff (w := awaiting) (j := 0) rfl
    (show _ = some (((machine answeringEnv).run awaiting answerRun).getD awaiting) from rfl)
    ?_ rfl).mpr (.inr ⟨rfl, ?_, ?_⟩)⟩
  · exact ⟨undisturbed_own rfl, undisturbed_own rfl, undisturbed_own rfl, trivial⟩
  · rintro slot hslot
    obtain rfl : slot = passwordSlot := List.mem_singleton.mp hslot
    rfl
  · rintro x hx
    obtain rfl : x = (passwordSlot, true) := List.mem_singleton.mp hx
    rfl

/-- The backend refuses the answer. -/
private def refusedRun : List Action :=
  ([.ok, .ok, .err, .ok] : List Answer).map (.run (.newSecrets 0))

/-- A slot whose `ProvideInput` fails is neither provided nor queued, although the session is live.
The next `NewSecrets` call, which brings the value again, replies that all is well and provides
nothing. -/
theorem pending_lost_refused : (machine answeringEnv).Reachable awaiting ∧
    awaiting.session.pendingSlots = [passwordSlot] ∧
    awaiting.session.sessionPath = some "/session" ∧
    provided (attempts answeringEnv 0 awaiting refusedRun) = [] ∧
    ∃ w, (machine answeringEnv).run awaiting refusedRun = some w ∧
      (machine answeringEnv).Allows (Undisturbed answeringEnv 0) awaiting refusedRun ∧
      w.pc (.newSecrets 0) = NewSecretsPc.replied 1 ∧ w.session.pendingSlots = [] ∧
      w.session.sessionPath = some "/session" ∧
      ∃ w', (machine answeringEnv).step w (.run (.newSecrets 1) .ok) = some w' ∧
        w'.pc (.newSecrets 1) = NewSecretsPc.replied 0 :=
  ⟨Machine.reachable_getD_run (Machine.reachable_of_init rfl) _, rfl, rfl, rfl, _, rfl,
    ⟨undisturbed_own rfl, undisturbed_own rfl, undisturbed_own rfl, undisturbed_own rfl, trivial⟩,
    rfl, rfl, rfl, _, rfl, rfl⟩

end Plugin

end NmOpenvpn3
