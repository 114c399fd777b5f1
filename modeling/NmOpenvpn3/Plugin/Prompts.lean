import NmOpenvpn3.Plugin.Accounts

/-!
# Prompts

The attention listener fetches the slots that its session asks to have filled, fills what it can and
queues the rest, for which `new_secrets` brings the values. The queue is part of the session state,
but not every path that gives up the session clears it, and the listener queues its slots whatever
the session is by then. `queued_for_session` is about the runs where neither happens.
-/

namespace NmOpenvpn3

namespace Plugin

open Rust Ovpn Service Concurrent

variable {env : Env} {w w' : World} {t : TaskId} {op : Op} {reply a : Answer} {i : ℕ} {p : Path}

/-! ## The attention listener's session -/

/-- The call is past the point where it spawns the listeners. -/
def ConnectPc.Past : ConnectPc → Prop
  | .dispatched | .checkActive | .clearTeardown | .profile | .starting | .preImport | .importConfig
  | .overrides _ | .newTunnel _ | .removeConfig _ | .stash _ _ | .stashed _ | .waitReady _
  | .spawnListeners _ => False
  | _ => True

section Connect

variable {pc pc' : ConnectPc} {data : VpnData} {secrets : SecretsMap}
  {next : Answer → Option ConnectPc}

theorem ConnectPc.past_next (hcode : pc.code i data secrets = some (op, next))
    (hnext : next a = some pc') (hpast : pc.Past) : pc'.Past := by
  cases pc <;> cases hcode
  case sessionDisconnect p c | retryDisconnect p c =>
    cases c <;> simp only [afterDisconnect, onReply_eq_some] at hnext <;>
      obtain ⟨-, rfl⟩ | ⟨-, rfl⟩ := hnext <;> trivial
  case importConfig | newTunnel | cleanup =>
    cases a <;> simp at hnext <;> simp_all [← hnext, Past]
  all_goals simp only [always_eq_some, onReply_eq_some, onFlag_eq_some] at hnext
  all_goals first
    | obtain rfl := hnext
    | obtain ⟨-, rfl⟩ | ⟨-, rfl⟩ := hnext
  all_goals simp_all [Past]

theorem ConnectPc.past_of_spawn {j : ℕ} {tasks : List Background}
    (hcode : pc.code i data secrets = some (.spawn j p tasks, next)) (hnext : next a = some pc')
    (htasks : .attention ∈ tasks) : ¬pc.Past ∧ pc'.Past := by
  cases pc <;> cases hcode
  · obtain rfl := always_eq_some.mp hnext
    exact ⟨id, trivial⟩
  · simp at htasks

end Connect

/-- A task gets a session by being spawned. -/
theorem exec_spawned {b : Background} (h : exec t w op reply = some (a, w')) :
    w'.spawned i b = w.spawned i b ∨ ∃ p tasks, op = .spawn i p tasks ∧ b ∈ tasks := by
  by_cases hop : ∃ j p tasks, op = .spawn j p tasks
  · obtain ⟨j, p, tasks, rfl⟩ := hop
    cases h
    by_cases hij : i = j ∧ b ∈ tasks
    · obtain ⟨rfl, hb⟩ := hij
      exact .inr ⟨p, tasks, rfl, hb⟩
    · exact .inl (if_neg hij)
  · left
    unfold exec at h
    split at h <;> (try split_ifs at h) <;> cases h <;>
      first | exact absurd ⟨_, _, _, rfl⟩ hop | rfl

/-- The attention listener is spawned at one point of its `Connect` call. -/
theorem TaskStep.spawned_attention (h : TaskStep env w t reply w') :
    w'.spawned i .attention = w.spawned i .attention ∨
      ¬ConnectPc.Past (w.pc (.connect i)) ∧ ConnectPc.Past (w'.pc (.connect i)) := by
  cases h with
  | complete hprog howed hexec howed' hnext =>
    obtain heq | ⟨p, tasks, rfl, htasks⟩ := exec_spawned (i := i) (b := .attention) hexec
    · exact .inl heq
    · obtain rfl := program_of hprog
      rw [World.goto_pc, Function.update_self]
      exact .inr (ConnectPc.past_of_spawn hprog hnext htasks)
  | update | win => exact .inl rfl
  | settle => cases reply <;> exact .inl rfl

theorem TaskStep.past (h : TaskStep env w t reply w') (hpast : ConnectPc.Past (w.pc (.connect i))) :
    ConnectPc.Past (w'.pc (.connect i)) := by
  by_cases ht : .connect i = t
  · subst ht
    cases h with
    | complete hprog howed hexec howed' hnext =>
      rw [World.goto_pc, Function.update_self]
      exact ConnectPc.past_next hprog hnext hpast
    | update | win => exact hpast
    | settle hprog howed hsignal hnext =>
      rw [World.goto_pc, Function.update_self]
      exact ConnectPc.past_next hprog hnext hpast
  · rwa [h.pc_of_ne ht]

/-- Only a call that has spawned its attention listener is past that point. -/
def SpawnedOnce (w : World) : Prop :=
  ∀ i, w.spawned i .attention ≠ none → ConnectPc.Past (w.pc (.connect i))

theorem spawnedOnce_of_reachable (h : (machine env).Reachable w) : SpawnedOnce w := by
  refine invariant_of_steps (I := SpawnedOnce) (fun i hs ↦ absurd rfl hs) ?_ ?_ (fun _ ↦ id) h
  · intro w t reply w' _ _ hw htask i hs
    obtain heq | ⟨-, hpast⟩ := htask.spawned_attention (i := i)
    · exact htask.past (hw i (heq ▸ hs))
    · exact hpast
  · intro w j b _ hw i hs
    simpa using hw i hs

/-- A fact about the program point of an attention listener, its session and the history that the
listener's own steps keep. -/
structure AttentionFact (env : Env) (Q : Path → AttentionPc → List (TaskId × Event) → Prop) :
    Prop where
  attach : ∀ p h, Q p .attach h
  exited : ∀ p h, Q p .exited h
  mono : ∀ p pc h h', Q p pc h → h <:+ h' → Q p pc h'
  next : ∀ {w w' : World} {i : ℕ} {p : Path} {op : Op} {reply a : Answer}
    {next : Answer → Option AttentionPc} {pc : AttentionPc}, (machine env).Reachable w →
    AttentionPc.code i p (w.pc (.background i .attention)) = some (op, next) →
    exec (.background i .attention) w op reply = some (a, w') → next a = some pc →
    Q p (w.pc (.background i .attention)) w.history → Q p pc w'.history

theorem AttentionPc.of_signal {pc : AttentionPc} {next : Answer → Option AttentionPc}
    {signal : Signal} (hcode : pc.code i p = some (op, next)) (hsignal : op.signal = some signal) :
    next = always .exited := by
  cases pc <;> cases hcode <;> cases hsignal
  rfl

section Fact

variable {Q : Path → AttentionPc → List (TaskId × Event) → Prop}

/-- The listener's own step keeps the fact. -/
theorem AttentionFact.self (hQ : AttentionFact env Q) (hreach : (machine env).Reachable w)
    (hp : w.spawned i .attention = some p)
    (hw : Q p (w.pc (.background i .attention)) w.history)
    (h : TaskStep env w (.background i .attention) reply w') :
    Q p (w'.pc (.background i .attention)) w'.history := by
  cases h with
  | complete hprog howed hexec howed' hnext =>
    rw [program, hp, Option.bind_some] at hprog
    rw [World.goto_pc, Function.update_self, World.goto_history]
    exact hQ.next hreach hprog hexec hnext hw
  | update hprog => simpa [Op.Of] using program_of hprog
  | win => exact hw
  | settle hprog howed hsignal hnext =>
    rw [program, hp, Option.bind_some] at hprog
    obtain rfl := AttentionPc.of_signal hprog hsignal
    obtain rfl := always_eq_some.mp hnext
    rw [World.goto_pc, Function.update_self]
    exact hQ.exited p _

/-- The fact holds of every attention listener in every run. Before it is spawned, a listener is at
its start, or has been cancelled there. -/
theorem AttentionFact.of_reachable (hQ : AttentionFact env Q) (h : (machine env).Reachable w)
    (hp : w.spawned i .attention = some p) :
    Q p (w.pc (.background i .attention)) w.history := by
  suffices hall : ∀ i, (∀ p, w.spawned i .attention = some p →
      Q p (w.pc (.background i .attention)) w.history) ∧ (w.spawned i .attention = none →
        w.pc (.background i .attention) = AttentionPc.attach ∨
          w.pc (.background i .attention) = AttentionPc.exited) from (hall i).1 p hp
  refine invariant_of_steps (I := fun w ↦ ∀ i, (∀ p, w.spawned i .attention = some p →
      Q p (w.pc (.background i .attention)) w.history) ∧ (w.spawned i .attention = none →
        w.pc (.background i .attention) = AttentionPc.attach ∨
          w.pc (.background i .attention) = AttentionPc.exited))
    (fun i ↦ ⟨nofun, fun _ ↦ .inl rfl⟩) ?_ ?_ (fun _ ↦ id) h
  · intro w t reply w' hreach _ hw htask i
    have honce : w.spawned i .attention ≠ none →
        w'.spawned i .attention = w.spawned i .attention := fun hs ↦
      htask.spawned_attention.resolve_right fun hnew ↦
        hnew.1 (spawnedOnce_of_reachable hreach i hs)
    by_cases ht : .background i .attention = t
    · subst ht
      obtain ⟨op, next, hprog⟩ := htask.exists_program
      obtain ⟨p, hp, -⟩ := Option.bind_eq_some_iff.mp hprog
      have hp' : w'.spawned i .attention = some p := by rw [honce (by simp [hp]), hp]
      rw [hp']
      refine ⟨?_, nofun⟩
      rintro _ ⟨⟩
      exact hQ.self hreach hp ((hw i).1 p hp) htask
    · rw [htask.pc_of_ne ht]
      cases hs : w.spawned i .attention with
      | none =>
        -- The listener is spawned by this step, if at all.
        refine ⟨fun p _ ↦ ?_, fun _ ↦ (hw i).2 hs⟩
        obtain hpc | hpc := (hw i).2 hs <;> rw [hpc]
        · exact hQ.attach p _
        · exact hQ.exited p _
      | some q =>
        rw [honce (by simp [hs]), hs]
        refine ⟨?_, nofun⟩
        rintro _ ⟨⟩
        exact hQ.mono _ _ _ _ ((hw i).1 q hs) htask.history_suffix
  · intro w j b _ hw i
    by_cases ht : TaskId.background i .attention = .background j b
    · cases ht
      simp only [World.goto_pc, Function.update_self]
      exact ⟨fun p _ ↦ hQ.exited p _, fun _ ↦ .inr rfl⟩
    · rw [World.goto_pc, Function.update_of_ne ht]
      exact hw i

end Fact

/-! ## Slots in hand -/

/-- A session has been asked for its slots, and a slot was among them. -/
def Fetched (p : Path) (slot : InputSlot) (h : List (TaskId × Event)) : Prop :=
  ∃ t slots, (t, .fetched p slots) ∈ h ∧ slot ∈ slots

theorem Fetched.mono {slot : InputSlot} {h h' : List (TaskId × Event)} (hh : h <:+ h') :
    Fetched p slot h → Fetched p slot h' :=
  fun ⟨t, slots, hmem, hslot⟩ ↦ ⟨t, slots, hh.subset hmem, hslot⟩

/-- The slots that the attention listener is dealing with. -/
def AttentionPc.slots : AttentionPc → List InputSlot
  | .owned _ slots => slots
  | .provide _ _ _ slot _ rest needed => slot :: (rest ++ needed)
  | .stash _ needed | .emitter _ needed | .request _ needed => needed
  | _ => []

theorem AttentionPc.slots_loop {msg : String} {data : VpnData} {secrets : SecretsMap}
    {slots needed : List InputSlot} :
    (loop msg data secrets slots needed).slots ⊆ slots ++ needed := by
  induction slots generalizing needed with
  | nil =>
    unfold loop
    split <;> simp [AttentionPc.slots]
  | cons slot rest ih =>
    unfold loop
    split
    · simp [AttentionPc.slots]
    · refine fun x hx ↦ ?_
      have := ih hx
      simp only [List.mem_append, List.mem_cons, List.not_mem_nil] at this ⊢
      tauto

/-- New slots are fetched. -/
theorem AttentionPc.slots_next {pc pc' : AttentionPc} {next : Answer → Option AttentionPc}
    (hcode : pc.code i p = some (op, next)) (hnext : next a = some pc')
    (hop : op ≠ .fetchSlots p) : pc'.slots ⊆ pc.slots := by
  cases pc <;> cases hcode
  case wait => cases a <;> simp at hnext <;> simp [← hnext, slots]
  case fetch => exact absurd rfl hop
  -- From here on the slots are gone through; those that need an input are kept for the queue.
  case owned msg slots =>
    simp only at hnext
    split at hnext
    · obtain rfl := Option.some_inj.mp hnext
      exact List.Subset.trans slots_loop (by simp [AttentionPc.slots])
    · obtain rfl := Option.some_inj.mp hnext
      exact List.nil_subset _
    · cases hnext
  case provide msg data secrets slot value rest needed =>
    obtain ⟨-, rfl⟩ | ⟨-, rfl⟩ := onReply_eq_some.mp hnext
    · exact List.Subset.trans slots_loop (List.subset_cons_self _ _)
    · exact List.nil_subset _
  all_goals simp only [always_eq_some, onReply_eq_some, onFlag_eq_some] at hnext
  all_goals first
    | obtain rfl := hnext
    | obtain ⟨-, rfl⟩ | ⟨-, rfl⟩ := hnext
  all_goals simp [slots]

theorem AttentionPc.slots_fetched {pc pc' : AttentionPc} {next : Answer → Option AttentionPc}
    {q : Path} {slot : InputSlot} (hcode : pc.code i p = some (.fetchSlots q, next))
    (hnext : next a = some pc') (hslot : slot ∈ pc'.slots) :
    q = p ∧ ∃ slots, a = .slots slots ∧ slot ∈ slots := by
  cases pc <;> cases hcode
  cases a with
  | slots slots =>
    simp only [Option.some_inj] at hnext
    subst hnext
    split_ifs at hslot
    · cases hslot
    · exact ⟨rfl, slots, rfl, hslot⟩
  | err =>
    obtain rfl := Option.some_inj.mp hnext
    cases hslot
  | _ => cases hnext

/-- What the attention listener deals with was fetched from its session. -/
theorem attentionFetched (env : Env) :
    AttentionFact env fun p pc h ↦ ∀ slot ∈ pc.slots, Fetched p slot h where
  attach p h := nofun
  exited p h := nofun
  mono p pc h h' hQ hh slot hslot := (hQ slot hslot).mono hh
  next {w w' i p op reply a next pc} _ hcode hexec hnext hQ slot hslot := by
    by_cases hop : op = .fetchSlots p
    · subst hop
      obtain ⟨-, slots, rfl, hmem⟩ := AttentionPc.slots_fetched hcode hnext hslot
      cases reply <;> cases hexec
      exact ⟨_, slots, List.mem_cons_self, hmem⟩
    · exact (hQ slot (AttentionPc.slots_next hcode hnext hop hslot)).mono
        (exec_history_suffix hexec)

/-- The sessions and slots that a `NewSecrets` call still has to serve. -/
def NewSecretsPc.slots : NewSecretsPc → List (Path × InputSlot)
  | .check p slot rest _ | .provide p slot _ rest _ => (slot :: rest).map (p, ·)
  | .provideFailed p rest _ => rest.map (p, ·)
  | _ => []

theorem NewSecretsPc.slots_loop {slots : List InputSlot} {missing : ℕ} :
    (loop p slots missing).slots = slots.map (p, ·) := by
  cases slots <;> rfl

section NewSecrets

variable {pc pc' : NewSecretsPc} {data : VpnData} {secrets : SecretsMap}
  {next : Answer → Option NewSecretsPc}

/-- A call serves what it has found in the queue, for the session that it has found. -/
theorem NewSecretsPc.slots_next (hcode : pc.code data secrets = some (op, next))
    (hnext : next a = some pc') : pc'.slots ⊆ pc.slots ∨ op = .takePending data secrets ∧
      ∃ p slots, a = .pending (some p) slots ∧ pc'.slots = slots.map (p, ·) := by
  cases pc <;> cases hcode
  -- The queue is taken together with the session that is live at that moment.
  case dispatched =>
    cases a with
    | pending session slots =>
      cases session with
      | none =>
        obtain rfl := Option.some_inj.mp hnext
        exact .inl (List.nil_subset _)
      | some p =>
        obtain rfl := Option.some_inj.mp hnext
        exact .inr ⟨rfl, p, slots, rfl, slots_loop⟩
    | _ => cases hnext
  case check p slot rest missing =>
    left
    obtain ⟨-, rfl⟩ | ⟨-, rfl⟩ := onFlag_eq_some.mp hnext
    · exact List.nil_subset _
    · cases slotValue data secrets slot with
      | some value => exact List.Subset.refl _
      | none => exact slots_loop ▸ List.subset_cons_self _ _
  case provide p slot value rest missing =>
    left
    obtain ⟨-, rfl⟩ | ⟨-, rfl⟩ := onReply_eq_some.mp hnext
    · exact slots_loop ▸ List.subset_cons_self _ _
    · exact List.subset_cons_self _ _
  -- A slot whose input was refused is not tried again.
  case provideFailed p rest missing =>
    left
    obtain ⟨-, rfl⟩ | ⟨-, rfl⟩ := onFlag_eq_some.mp hnext
    · exact List.nil_subset _
    · exact slots_loop ▸ List.Subset.refl _

theorem NewSecretsPc.slots_provide {q : Path} {slot : InputSlot} {value : String}
    (hcode : pc.code data secrets = some (.provideInput q slot value, next)) :
    (q, slot) ∈ pc.slots := by
  cases pc <;> cases hcode
  exact List.mem_cons_self

end NewSecrets

/-- A `NewSecrets` call has no signals to send: each of its steps takes it on. -/
theorem TaskStep.of_newSecrets {j : ℕ} (h : TaskStep env w (.newSecrets j) reply w') :
    ∃ (op : Op) (next : Answer → Option (Pc (.newSecrets j))) (a : Answer) (w₁ : World)
      (pc : Pc (.newSecrets j)), program env w (.newSecrets j) = some (op, next) ∧
        exec (.newSecrets j) w op reply = some (a, w₁) ∧ next a = some pc ∧
          w' = w₁.goto (.newSecrets j) pc := by
  cases h with
  | complete hprog howed hexec howed' hnext => exact ⟨_, _, _, _, _, hprog, hexec, hnext, rfl⟩
  | update hprog | win hprog => exact absurd (program_of hprog) (by simp [Op.Of])
  | settle hprog howed hsignal hnext =>
    obtain ⟨new, rfl, -⟩ | ⟨i, reason, rfl, -⟩ := Op.of_signal hsignal <;>
      exact absurd (program_of hprog) (by simp [Op.Of])

/-- A step of a `NewSecrets` call serves on, or takes the queue of the live session. -/
theorem TaskStep.newSecrets_slots {j : ℕ} (h : TaskStep env w (.newSecrets j) reply w') :
    NewSecretsPc.slots (w'.pc (.newSecrets j)) ⊆ NewSecretsPc.slots (w.pc (.newSecrets j)) ∨
      ∃ p, w.session.sessionPath = some p ∧ (.newSecrets j, .took (some p)) ∈ w'.history ∧
        NewSecretsPc.slots (w'.pc (.newSecrets j)) = w.session.pendingSlots.map (p, ·) := by
  obtain ⟨op, next, a, w₁, pc, hprog, hexec, hnext, rfl⟩ := h.of_newSecrets
  rw [World.goto_pc, Function.update_self]
  obtain hsub | ⟨rfl, p, slots, rfl, hslots⟩ := NewSecretsPc.slots_next hprog hnext
  · exact .inl hsub
  · cases hp : w.session.sessionPath <;> simp only [exec, hp] at hexec <;> cases hexec
    refine .inr ⟨p, rfl, ?_, hslots⟩
    rw [World.goto_history]
    exact List.mem_cons_self

/-! ## Queued prompts -/

/-- Only the slots of the live session are queued. -/
def Queued (w : World) : Prop :=
  w.session.pendingSlots ≠ [] → ∃ p, w.session.sessionPath = some p ∧
    ∀ slot ∈ w.session.pendingSlots, Fetched p slot w.history

theorem Queued.mono (hw : Queued w) (hpending : w'.session.pendingSlots = w.session.pendingSlots)
    (hpath : w'.session.sessionPath = w.session.sessionPath) (hh : w.history <:+ w'.history) :
    Queued w' := by
  intro hne
  rw [hpending] at hne ⊢
  rw [hpath]
  obtain ⟨p, hp, hslots⟩ := hw hne
  exact ⟨p, hp, fun slot hslot ↦ (hslots slot hslot).mono hh⟩

theorem Queued.of_nil (hpending : w.session.pendingSlots = []) : Queued w :=
  fun hne ↦ absurd hpending hne

theorem Queued.eq_nil (hw : Queued w) (hnone : w.session.sessionPath = none) :
    w.session.pendingSlots = [] := by
  by_contra hne
  obtain ⟨p, hp, -⟩ := hw hne
  rw [hnone] at hp
  cases hp

/-- `cleanup_session` is entered with an empty queue, and the attention listener queues slots only
while its session is the live one. -/
structure Tidy (w : World) (act : Action) : Prop where
  cleanup : ∀ i p reply, act = .run (.connect i) reply → w.pc (.connect i) = ConnectPc.cleanup p →
    w.session.pendingSlots = []
  stash : ∀ i p msg needed reply, act = .run (.background i .attention) reply →
    w.spawned i .attention = some p →
    w.pc (.background i .attention) = AttentionPc.stash msg needed → w.session.sessionPath = some p

theorem exec_queued (hw : Queued w) (hexec : exec t w op reply = some (a, w'))
    (hstash : ∀ i c p data secrets, op = .stash i c p data secrets → w.session.sessionPath = none)
    (hcleanup : op = .cleanup → w.session.pendingSlots = [])
    (hpending : ∀ slots, op = .stashPending slots → ∃ p, w.session.sessionPath = some p ∧
      ∀ slot ∈ slots, Fetched p slot w.history) : Queued w' := by
  have hh := exec_history_suffix hexec
  unfold exec at hexec
  split at hexec <;> (try split_ifs at hexec) <;> cases hexec
  all_goals first
    | exact hw.mono rfl rfl hh
    -- The queue is empty afterwards: it was already, or it has just been taken.
    | exact .of_nil (hw.eq_nil (hstash _ _ _ _ _ rfl))
    | exact .of_nil (hcleanup rfl)
    | exact .of_nil rfl
    | exact fun _ ↦ hpending _ rfl

theorem ConnectPc.of_stash {pc : ConnectPc} {data data' : VpnData} {secrets secrets' : SecretsMap}
    {next : Answer → Option ConnectPc} {j : ℕ} {c : Path}
    (hcode : pc.code i data secrets = some (.stash j c p data' secrets', next)) :
    pc = .stash c p ∧ data' = data ∧ secrets' = secrets := by
  cases pc <;> cases hcode
  exact ⟨rfl, rfl, rfl⟩

theorem ConnectPc.of_cleanup {pc : ConnectPc} {data : VpnData} {secrets : SecretsMap}
    {next : Answer → Option ConnectPc} (hcode : pc.code i data secrets = some (.cleanup, next)) :
    ∃ p, pc = .cleanup p := by
  cases pc <;> cases hcode
  exact ⟨_, rfl⟩

theorem AttentionPc.of_stashPending {pc : AttentionPc} {next : Answer → Option AttentionPc}
    {slots : List InputSlot} (hcode : pc.code i p = some (.stashPending slots, next)) :
    ∃ msg, pc = .stash msg slots := by
  cases pc <;> cases hcode
  exact ⟨_, rfl⟩

/-- A session is put where there was none. -/
theorem sessionPath_of_stash {c : Path} (hreach : (machine env).Reachable w)
    (hpc : w.pc (.connect i) = ConnectPc.stash c p) : w.session.sessionPath = none := by
  have hacc := accounted_of_reachable hreach
  have hhold : holdings w (.connect i) = ⟨true, some p, some c, some none⟩ := by
    rw [holdings, hpc]
    rfl
  exact hacc.slot (.connect i) none (hacc.holder (by rw [hhold])) (by rw [hhold])

theorem TaskStep.queued (hreach : (machine env).Reachable w) (hw : Queued w)
    (htidy : Tidy w (.run t reply)) (h : TaskStep env w t reply w') : Queued w' := by
  cases h with
  | @complete op next a w₁ pc hprog howed hexec howed' hnext =>
    -- Only the stash of a session, the cleanup and the stash of slots could break the invariant.
    suffices Queued w₁ from this
    refine exec_queued hw hexec ?_ ?_ ?_
    · rintro i c p data secrets rfl
      obtain rfl := program_of hprog
      exact sessionPath_of_stash hreach (ConnectPc.of_stash hprog).1
    · rintro rfl
      obtain ⟨i, rfl⟩ := program_of hprog
      obtain ⟨p, hpc⟩ := ConnectPc.of_cleanup hprog
      exact htidy.cleanup i p reply rfl hpc
    · rintro slots rfl
      obtain ⟨i, rfl⟩ := program_of hprog
      obtain ⟨p, hp, hcode⟩ := Option.bind_eq_some_iff.mp hprog
      obtain ⟨msg, hpc⟩ := AttentionPc.of_stashPending hcode
      have hfetched := (attentionFetched env).of_reachable hreach hp
      rw [hpc] at hfetched
      exact ⟨p, htidy.stash i p msg slots reply rfl hp hpc, hfetched⟩
  | update => exact hw.mono rfl rfl (List.suffix_cons _ _)
  | win => exact hw
  | settle =>
    cases reply with
    | ok => exact hw.mono rfl rfl (List.suffix_cons _ _)
    | _ => exact hw

/-- What a `NewSecrets` call still has to serve was fetched from the session that it serves. -/
def ServesFetched (w : World) : Prop :=
  ∀ j, ∀ s ∈ NewSecretsPc.slots (w.pc (.newSecrets j)), Fetched s.1 s.2 w.history

theorem TaskStep.servesFetched (hqueued : Queued w) (hw : ServesFetched w)
    (h : TaskStep env w t reply w') : ServesFetched w' := by
  intro j s hs
  refine Fetched.mono h.history_suffix ?_
  by_cases ht : .newSecrets j = t
  · subst ht
    obtain hsub | ⟨p, hp, -, hslots⟩ := h.newSecrets_slots
    · exact hw j s (hsub hs)
    · rw [hslots] at hs
      obtain ⟨slot, hslot, rfl⟩ := List.mem_map.mp hs
      obtain ⟨q, hq, hfetched⟩ := hqueued (List.ne_nil_of_mem hslot)
      obtain rfl : p = q := Option.some_inj.mp (hp.symm.trans hq)
      exact hfetched slot hslot
  · rw [h.pc_of_ne ht] at hs
    exact hw j s hs

theorem queued_of_reachableBy (h : (machine env).ReachableBy Tidy w) :
    Queued w ∧ ServesFetched w := by
  refine invariant_of_steps (I := fun w ↦ Queued w ∧ ServesFetched w)
    ⟨.of_nil rfl, fun j ↦ nofun⟩ ?_ ?_ (fun _ ↦ id) h
  · rintro w t reply w' hreach htidy ⟨hqueued, hserves⟩ htask
    exact ⟨htask.queued hreach hqueued htidy, htask.servesFetched hqueued hserves⟩
  · rintro w j b - ⟨hqueued, hserves⟩
    exact ⟨hqueued, fun i s hs ↦ hserves i s (by simpa using hs)⟩

/-- `new_secrets` fills a slot of a session only if it was fetched from that session. -/
def OwnPrompts (e : TaskId × Event) (earlier : List (TaskId × Event)) : Prop :=
  ∀ j p slot value, e = (.newSecrets j, .provided p slot value) → Fetched p slot earlier

/-- In runs that leave no queue behind and queue for no session of the past, the queue is the live
session's, and no slot is filled for a session that did not ask for it. -/
theorem queued_for_session (env : Env) {w : World} (h : (machine env).ReachableBy Tidy w) :
    Queued w ∧ Keeps OwnPrompts w.history := by
  refine ⟨(queued_of_reachableBy h).1, ?_⟩
  refine h.invariant_of_reachableBy (I := fun w ↦ Keeps OwnPrompts w.history)
    (by rintro _ rfl; trivial) fun w act w' hreach hkeeps _ hstep ↦ step_keeps hkeeps ?_ hstep
  rintro t reply op next e - hprog he j p slot value ⟨⟩
  obtain hrec | ⟨signal, -, -, hsent⟩ := he
  · obtain rfl := Op.records_provided.mp hrec
    exact (queued_of_reachableBy hreach).2 j _ (NewSecretsPc.slots_provide hprog)
  · cases hsent

/-- A slot for the password. -/
def passwordSlot : InputSlot := ⟨1, 1, 0, "password", "Password", true⟩

/-- A process that stays, and a user who answers with a password. -/
def answeringEnv : Env where
  persist := true
  connectSettings _ := (Dict.empty, Dict.empty)
  newSettings _ := (Dict.empty, Dict.empty.insert "password" "secret")

/-- The attention listener is asked for the password, queues the slot and asks for it in turn. -/
def promptRun : List Action :=
  ([.ok, .message "Log in", .slots [passwordSlot], .ok, .ok, .ok, .ok] : List Answer).map
    (.run (.background 0 .attention))

/-- The answer is provided. -/
def answerRun : List Action := (List.replicate 3 .ok).map (.run (.newSecrets 0))

def answered : World :=
  ((machine answeringEnv).run .init (connectRun ++ promptRun ++ answerRun)).getD .init

theorem queued_for_session_answered :
    answered.history.head? = some (.newSecrets 0, .provided "/session" passwordSlot "secret") ∧
      Queued answered ∧ Keeps OwnPrompts answered.history := by
  refine ⟨rfl, queued_for_session answeringEnv
    (Machine.ReachableBy.getD_run ⟨_, rfl, .refl⟩ _ ?_)⟩
  simp only [connectRun, promptRun, answerRun, List.map, List.replicate, List.cons_append,
    List.nil_append, Machine.Allows, and_true]
  and_intros <;>
    exact ⟨by rintro i p reply ⟨⟩ ⟨⟩, by rintro i p msg needed reply ⟨⟩ ⟨⟩ - <;> rfl⟩

/-- The slot is queued, and then `session.Connect` fails. -/
private def failsWithQueue : List Action :=
  connectRun.take 16 ++ promptRun.take 5 ++
    ([.err, .ok, .ok, .ok, .ok, .ok, .ok, .ok, .ok] : List Answer).map (.run (.connect 0))

/-- The next `Connect` call gets as far as a session of its own. -/
private def connectAgain : List Action :=
  ([.ok, .ok, .ok, .ok, .ok, .ok, .ok, .path "/config", .ok, .path "/second", .ok] :
    List Answer).map (.run (.connect 1))

/-- The queue of a failed activation is left behind, and filled for the next session. -/
theorem queue_left_behind :
    (∃ w, (machine answeringEnv).Reachable w ∧ ¬Queued w) ∧
      ∃ w, (machine answeringEnv).Reachable w ∧ ¬Keeps OwnPrompts w.history := by
  constructor
  · refine ⟨_, Machine.reachable_getD_run (Machine.reachable_of_init rfl) failsWithQueue,
      fun h ↦ ?_⟩
    obtain ⟨p, hp, -⟩ := h nofun
    cases hp
  · refine ⟨_, Machine.reachable_getD_run (Machine.reachable_of_init rfl)
      (failsWithQueue ++ connectAgain ++ answerRun), fun h ↦ ?_⟩
    obtain ⟨t, slots, hmem, -⟩ := h.1 0 "/second" passwordSlot "secret" rfl
    -- The slots were only ever fetched from the first session.
    exact List.countP_eq_zero
      (p := fun e ↦ match e.2 with | .fetched q _ => q == "/second" | _ => false).mp rfl _ hmem rfl

end Plugin

end NmOpenvpn3
