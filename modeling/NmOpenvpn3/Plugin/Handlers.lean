import NmOpenvpn3.Plugin.Prompts

/-!
# Handlers, one reply after the other

`newSecrets` and `handleAttention` say what the two handlers of credential prompts compute, where
the replies of the backend come from an oracle. The machine has the same handlers as program points
between which other tasks take steps. Whatever these do, a call that has come to its end has done
what the function says for some oracle: `newSecrets_of_replied` for a call of `NewSecrets`, and
`handleAttention_of_follows` for one firing of `AttentionRequired`.
-/

namespace NmOpenvpn3

namespace Plugin

open Rust Ovpn Service Concurrent

/-! ## Tasks on their own -/

section Follows

variable {π : Type} {code : π → Option (Code π)} {pc pc' pc'' : π} {ops : List Op}
  {answers : List Answer} {op : Op} {next : Answer → Option π} {a : Answer}

/-- A task carries out its operations, which are answered one after the other. -/
inductive Follows (code : π → Option (Code π)) : π → List Op → List Answer → π → Prop where
  | refl (pc : π) : Follows code pc [] [] pc
  | head {pc pc' pc'' : π} {op : Op} {next : Answer → Option π} {a : Answer} {ops : List Op}
      {answers : List Answer} (hcode : code pc = some (op, next)) (hnext : next a = some pc')
      (hrest : Follows code pc' ops answers pc'') :
      Follows code pc (op :: ops) (a :: answers) pc''

theorem Follows.step (h : Follows code pc ops answers pc') (hcode : code pc' = some (op, next))
    (hnext : next a = some pc'') : Follows code pc (ops ++ [op]) (answers ++ [a]) pc'' := by
  induction h with
  | refl pc => exact .head hcode hnext (.refl _)
  | head hcode₀ hnext₀ _ ih => exact .head hcode₀ hnext₀ (ih hcode)

/-- Where a task goes on, it does so from the operation at its program point. -/
theorem Follows.cases_of_code (h : Follows code pc ops answers pc')
    (hcode : code pc = some (op, next)) (hne : pc' ≠ pc) : ∃ a pc₁ ops' answers',
      ops = op :: ops' ∧ next a = some pc₁ ∧ Follows code pc₁ ops' answers' pc' := by
  cases h with
  | refl => exact absurd rfl hne
  | head hcode₀ hnext₀ hrest =>
    rw [hcode] at hcode₀
    cases hcode₀
    exact ⟨_, _, _, _, rfl, hnext₀, hrest⟩

/-- A task that has ended goes nowhere. -/
theorem Follows.eq_of_code (h : Follows code pc ops answers pc') (hcode : code pc = none) :
    pc' = pc ∧ ops = [] := by
  cases h with
  | refl => exact ⟨rfl, rfl⟩
  | head hcode₀ => rw [hcode] at hcode₀; cases hcode₀

end Follows

/-- What an operation provides. -/
def Op.provides? : Op → Option (InputSlot × String)
  | .provideInput _ slot value => some (slot, value)
  | _ => none

/-! ## `new_secrets` -/

section NewSecrets

variable {data : VpnData} {secrets : SecretsMap} {slots : List InputSlot} {p : Path}
  {i missing n : ℕ} {ops : List Op} {answers : List Answer}

/-- The loop looks no further back than the slot that it is at. -/
theorem provideSecrets_update (step : ℕ → ProvideStep) (s : ProvideStep) {k : ℕ} (hik : i < k) :
    provideSecrets (Function.update step i s) data secrets k slots =
      provideSecrets step data secrets k slots := by
  induction slots generalizing k with
  | nil => rfl
  | cons slot slots ih =>
    rw [provideSecrets, provideSecrets, Function.update_of_ne (by omega), ih (by omega)]

theorem elim_add_one (missing : ℕ) (o : Option ℕ) :
    o.elim 0 (missing + 1 + ·) = (o.map (· + 1)).elim 0 (missing + ·) := by
  cases o with
  | none => rfl
  | some m => exact Nat.add_right_comm missing 1 m

/-- The reply of `new_secrets`, where `missing` slots could not be served. -/
def newSecretsReply (missing : ℕ) : Except String Unit :=
  if missing = 0 then .ok ()
  else .error ("could not provide " ++ toString missing ++ " authentication slot(s)")

/-- The loop of the machine, as far as its end, is the loop of the function. -/
theorem provideSecrets_of_follows (h : Follows (NewSecretsPc.code data secrets)
      (.loop p slots missing) ops answers (.replied n)) (i : ℕ) :
    ∃ step, (provideSecrets step data secrets i slots).1 = ops.filterMap Op.provides? ∧
      n = (provideSecrets step data secrets i slots).2.elim 0 (missing + ·) := by
  induction slots generalizing missing ops answers i with
  | nil =>
    obtain ⟨hn, rfl⟩ := h.eq_of_code rfl
    cases hn
    exact ⟨fun _ ↦ ⟨false, false, true⟩, rfl, rfl⟩
  | cons slot slots ih =>
    obtain ⟨a, pc₁, ops, answers, rfl, hnext, h⟩ := h.cases_of_code rfl (by rintro ⟨⟩)
    obtain ⟨-, rfl⟩ | ⟨-, rfl⟩ := onFlag_eq_some.mp hnext
    · -- A teardown ends the call.
      obtain ⟨hn, rfl⟩ := h.eq_of_code rfl
      cases hn
      exact ⟨fun _ ↦ ⟨true, false, true⟩, rfl, rfl⟩
    cases hv : slotValue data secrets slot with
    | none =>
      rw [hv] at h
      obtain ⟨step, hcalls, hn⟩ := ih h (i + 1)
      refine ⟨Function.update step i ⟨false, false, true⟩, ?_⟩
      rw [provideSecrets, Function.update_self, provideSecrets_update _ _ (Nat.lt_succ_self i), hv]
      exact ⟨hcalls, hn.trans (elim_add_one _ _)⟩
    | some value =>
      rw [hv] at h
      obtain ⟨a, pc₁, ops, answers, rfl, hnext, h⟩ := h.cases_of_code rfl (by rintro ⟨⟩)
      obtain ⟨-, rfl⟩ | ⟨-, rfl⟩ := onReply_eq_some.mp hnext
      · obtain ⟨step, hcalls, hn⟩ := ih h (i + 1)
        refine ⟨Function.update step i ⟨false, false, true⟩, ?_⟩
        rw [provideSecrets, Function.update_self, provideSecrets_update _ _ (Nat.lt_succ_self i),
          hv]
        exact ⟨congrArg ((slot, value) :: ·) hcalls, hn⟩
      · obtain ⟨a, pc₁, ops, answers, rfl, hnext, h⟩ := h.cases_of_code rfl (by rintro ⟨⟩)
        obtain ⟨-, rfl⟩ | ⟨-, rfl⟩ := onFlag_eq_some.mp hnext
        · obtain ⟨hn, rfl⟩ := h.eq_of_code rfl
          cases hn
          refine ⟨fun _ ↦ ⟨false, true, false⟩, ?_⟩
          rw [provideSecrets, hv]
          exact ⟨rfl, rfl⟩
        · obtain ⟨step, hcalls, hn⟩ := ih h (i + 1)
          refine ⟨Function.update step i ⟨false, false, false⟩, ?_⟩
          rw [provideSecrets, Function.update_self, provideSecrets_update _ _ (Nat.lt_succ_self i),
            hv]
          exact ⟨congrArg ((slot, value) :: ·) hcalls, hn.trans (elim_add_one _ _)⟩

/-- A call that has replied has done what `newSecrets` says. -/
theorem newSecrets_of_follows (h : Follows (NewSecretsPc.code data secrets) .dispatched ops answers
      (.replied n)) : ∃ step session slots,
    newSecrets step session data secrets slots =
      (ops.filterMap Op.provides?, newSecretsReply n) := by
  obtain ⟨a, pc₁, ops, answers, rfl, hnext, h⟩ := h.cases_of_code rfl (by rintro ⟨⟩)
  cases a with
  | pending session slots =>
    cases session with
    | none =>
      cases hnext
      obtain ⟨hn, rfl⟩ := h.eq_of_code rfl
      cases hn
      exact ⟨fun _ ↦ ⟨false, false, true⟩, false, [], rfl⟩
    | some p =>
      cases hnext
      obtain ⟨step, hcalls, hn⟩ := provideSecrets_of_follows h 0
      refine ⟨step, true, slots, ?_⟩
      cases slots with
      | nil =>
        obtain ⟨hend, rfl⟩ := h.eq_of_code rfl
        cases hend
        rfl
      | cons slot slots =>
        rw [newSecrets, if_neg (by simp), hn]
        refine Prod.ext hcalls ?_
        simp only
        rcases (provideSecrets step data secrets 0 (slot :: slots)).2 with _ | _ | m <;>
          simp [newSecretsReply]
  | _ => cases hnext

end NewSecrets

section Machine

variable {env : Env} {w w' : World} {j n : ℕ} {t : TaskId} {reply : Answer}

def Event.provides? : Event → Option (InputSlot × String)
  | .provided _ slot value => some (slot, value)
  | _ => none

/-- What a call has provided, in its order. -/
def World.provisions (w : World) (j : ℕ) : List (InputSlot × String) :=
  (w.history.filterMap fun e ↦ if e.1 = .newSecrets j then e.2.provides? else none).reverse

theorem provisions_of_history (hh : w'.history = w.history) : w'.provisions j = w.provisions j := by
  rw [World.provisions, World.provisions, hh]

theorem provisions_of_cons {e : Event} (hh : w'.history = (t, e) :: w.history) :
    w'.provisions j =
      w.provisions j ++ (if t = .newSecrets j then e.provides? else none).toList := by
  rw [World.provisions, World.provisions, hh, List.filterMap_cons]
  split <;> rename_i heq <;> simp only at heq <;> simp [heq]

/-- A call is where its code has led it, and has provided what its code said. -/
def Followed (env : Env) (j : ℕ) (w : World) : Prop :=
  ∃ ops answers, Follows (NewSecretsPc.code (env.newSettings j).1 (env.newSettings j).2)
    .dispatched ops answers (w.pc (.newSecrets j)) ∧ ops.filterMap Op.provides? = w.provisions j

theorem Followed.of_eq (h : Followed env j w) (hpc : w'.pc (.newSecrets j) = w.pc (.newSecrets j))
    (hprovisions : w'.provisions j = w.provisions j) : Followed env j w' := by
  rw [Followed, hpc, hprovisions]
  exact h

theorem TaskStep.followed (hw : Followed env j w) (h : TaskStep env w t reply w') :
    Followed env j w' := by
  by_cases ht : .newSecrets j = t
  · subst ht
    obtain ⟨op, next, a, w₁, pc, hprog, hexec, hnext, rfl⟩ := h.of_newSecrets
    obtain ⟨ops, answers, hfollows, hprovides⟩ := hw
    refine ⟨ops ++ [op], answers ++ [a], ?_, ?_⟩
    · rw [World.goto_pc, Function.update_self]
      exact hfollows.step hprog hnext
    · rw [List.filterMap_append, hprovides]
      simp only [program] at hprog
      cases hpc : w.pc (.newSecrets j) <;> rw [hpc] at hprog <;> cases hprog <;> cases hexec <;>
        simp [World.provisions, Op.provides?, Event.provides?]
  · refine hw.of_eq (h.pc_of_ne ht) ?_
    obtain hh | ⟨op, next, e, -, hh, -⟩ := h.history
    · exact provisions_of_history hh
    · rw [provisions_of_cons hh, if_neg (Ne.symm ht)]
      exact List.append_nil _

theorem followed_of_reachable (h : (machine env).Reachable w) : Followed env j w := by
  refine invariant_of_steps (I := Followed env j) ⟨[], [], .refl _, rfl⟩ ?_ ?_ ?_ h
  · exact fun w t reply w' _ _ hw htask ↦ htask.followed hw
  · exact fun w i b _ hw ↦ hw.of_eq (by simp) rfl
  · exact fun w hw ↦ hw.of_eq rfl rfl

/-- Whatever other tasks do meanwhile, a `NewSecrets` call that has replied has provided and replied
what `newSecrets` says, for some replies of the backend and some requests for a teardown. -/
theorem newSecrets_of_replied (h : (machine env).Reachable w)
    (hreplied : w.pc (.newSecrets j) = NewSecretsPc.replied n) : ∃ step session slots,
    newSecrets step session (env.newSettings j).1 (env.newSettings j).2 slots =
      (w.provisions j, newSecretsReply n) := by
  obtain ⟨ops, answers, hfollows, hprovides⟩ := followed_of_reachable (j := j) h
  rw [hreplied] at hfollows
  rw [← hprovides]
  exact newSecrets_of_follows hfollows

end Machine

/-! ## `handle_attention` -/

section Attention

variable {data : VpnData} {secrets : SecretsMap} {slots needed : List InputSlot} {p : Path} {i : ℕ}
  {msg : String} {owned : Bool} {ops : List Op} {answers : List Answer} {pc pc' : AttentionPc}

theorem provideKnown_update (reply : ℕ → Option String) (r : Option String) {n k : ℕ}
    (hnk : n < k) :
    provideKnown (Function.update reply n r) data secrets k slots =
      provideKnown reply data secrets k slots := by
  induction slots generalizing k with
  | nil => rfl
  | cons slot slots ih =>
    rw [provideKnown, provideKnown, Function.update_of_ne (by omega), ih (by omega), ih hnk]

/-- A task that only provides inputs stays where it does something else. -/
theorem Follows.eq_of_provides (h : Follows (AttentionPc.code i p) pc ops answers pc')
    (hops : ∀ op ∈ ops, op.provides?.isSome = true)
    (hpc : ∀ op next, pc.code i p = some (op, next) → op.provides? = none) : pc' = pc := by
  cases h with
  | refl => rfl
  | head hcode =>
    have := hops _ List.mem_cons_self
    rw [hpc _ _ hcode] at this
    cases this

/-- The loop of the machine, as far as its end, is the loop of the function. -/
theorem provideKnown_of_follows
    (h : Follows (AttentionPc.code i p) (.loop msg data secrets slots needed) ops answers pc)
    (hops : ∀ op ∈ ops, op.provides?.isSome = true)
    (hend : ∀ op next, pc.code i p = some (op, next) → op.provides? = none) (n : ℕ) : ∃ reply,
    (∃ e, provideKnown reply data secrets n slots = .error e) ∧ pc = .failed ∨
      ∃ pending, provideKnown reply data secrets n slots = .ok pending ∧
        pc = .loop msg data secrets [] (needed ++ pending) := by
  induction slots generalizing needed ops answers n with
  | nil =>
    refine ⟨fun _ ↦ none, .inr ⟨[], rfl, ?_⟩⟩
    rw [List.append_nil]
    refine h.eq_of_provides hops fun op next hcode ↦ ?_
    rw [AttentionPc.loop] at hcode
    split_ifs at hcode <;> cases hcode <;> rfl
  | cons slot slots ih =>
    rw [AttentionPc.loop] at h
    cases hv : slotValue data secrets slot with
    | none =>
      -- The slot is needed, ahead of those that are still to come.
      rw [hv] at h
      obtain ⟨reply, ⟨⟨e, he⟩, hpc⟩ | ⟨pending, hpending, hpc⟩⟩ := ih h hops n
      · exact ⟨reply, .inl ⟨⟨e, by simp [provideKnown, hv, he]⟩, hpc⟩⟩
      · refine ⟨reply, .inr ⟨slot :: pending, by simp [provideKnown, hv, hpending], ?_⟩⟩
        rw [hpc, List.append_assoc, List.singleton_append]
    | some value =>
      rw [hv] at h
      cases h with
      | refl => exact absurd (hend _ _ rfl) (by rintro ⟨⟩)
      | head hcode hnext hrest =>
        cases hcode
        have hops' := fun op hop ↦ hops op (List.mem_cons_of_mem _ hop)
        obtain ⟨-, rfl⟩ | ⟨-, rfl⟩ := onReply_eq_some.mp hnext
        · obtain ⟨reply, hreply⟩ := ih hrest hops' (n + 1)
          refine ⟨Function.update reply n none, ?_⟩
          have hfirst : provideKnown (Function.update reply n none) data secrets n (slot :: slots) =
              provideKnown reply data secrets (n + 1) slots := by
            rw [provideKnown, hv, Function.update_self]
            exact provideKnown_update _ _ (Nat.lt_succ_self n)
          rw [hfirst]
          exact hreply
        · refine ⟨fun _ ↦ some "", .inl ⟨⟨_, by rw [provideKnown, hv]⟩, ?_⟩⟩
          exact hrest.eq_of_provides hops' fun op next hcode ↦ by cases hcode; rfl

/-- One firing of `AttentionRequired`, from the snapshot of the session until the listener does
something else than provide inputs, comes to what `handleAttention` says, for some replies of the
backend. -/
theorem handleAttention_of_follows
    (h : Follows (AttentionPc.code i p) (.owned msg slots) (.snapshot p :: ops)
      (.snapshot data secrets owned :: answers) pc)
    (hops : ∀ op ∈ ops, op.provides?.isSome = true)
    (hend : ∀ op next, pc.code i p = some (op, next) → op.provides? = none) : ∃ reply,
    handleAttention reply owned slots data secrets msg = .idle ∧ pc = .wait ∨
    (∃ e, handleAttention reply owned slots data secrets msg = .failed e) ∧ pc = .failed ∨
    ∃ pending prompt hints next,
      handleAttention reply owned slots data secrets msg = .secretsRequired pending prompt hints ∧
        pc = .stash msg pending ∧ AttentionPc.code i p (.request msg pending) =
          some (.send (.secretsRequired prompt hints), next) := by
  cases h with
  | head hcode hnext hrest =>
    cases hcode
    cases owned with
    | false =>
      cases hnext
      refine ⟨fun _ ↦ none, .inl ⟨?_, ?_⟩⟩
      · rw [handleAttention, if_pos (by simp)]
      · exact hrest.eq_of_provides hops fun op next hcode ↦ by cases hcode; rfl
    | true =>
      cases hnext
      obtain ⟨reply, hreply⟩ := provideKnown_of_follows hrest hops hend 0
      refine ⟨reply, ?_⟩
      obtain ⟨⟨e, he⟩, hpc⟩ | ⟨pending, hpending, hpc⟩ := hreply
      · cases slots with
        | nil => cases he
        | cons slot slots =>
          exact .inr (.inl ⟨⟨e, by rw [handleAttention, if_neg (by simp), he]⟩, hpc⟩)
      · cases slots with
        | nil =>
          obtain rfl : [] = pending := Except.ok.inj hpending
          exact .inl ⟨rfl, hpc⟩
        | cons slot slots =>
          cases pending with
          | nil => exact .inl ⟨by rw [handleAttention, if_neg (by simp), hpending], hpc⟩
          | cons slot' pending =>
            refine .inr (.inr ⟨slot' :: pending, requestPrompt msg, _, _, ?_, hpc, rfl⟩)
            rw [handleAttention, if_neg (by simp), hpending]

end Attention

end Plugin

end NmOpenvpn3
