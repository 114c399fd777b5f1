import NmOpenvpn3.Plugin.Prompts

/-!
# Where provided values come from

A handler may use settings long after it has taken them from the session state, when another session
is live. What ties them together is the history, which only grows: settings that were given for a
session stay so. The settings in the session state are tied to the session path (`OwnSettings`), and
what a task carries is tied to the session that it provides it to.
-/

namespace NmOpenvpn3

namespace Plugin

open Rust Ovpn Service Concurrent

variable {env : Env} {w w' : World} {t : TaskId} {op : Op} {reply a : Answer} {i : ℕ} {p : Path}

/-- Settings that were given for a session: by the call that created it, or by a `NewSecrets` call
that found it live. -/
def Given (env : Env) (p : Path) (settings : VpnData × SecretsMap) (h : List (TaskId × Event)) :
    Prop :=
  (∃ i, (.connect i, .created p) ∈ h ∧ settings = env.connectSettings i) ∨
    ∃ j, (.newSecrets j, .took (some p)) ∈ h ∧ settings = env.newSettings j

theorem Given.mono {settings : VpnData × SecretsMap} {h h' : List (TaskId × Event)}
    (hh : h <:+ h') : Given env p settings h → Given env p settings h' :=
  Or.imp (fun ⟨i, hmem, heq⟩ ↦ ⟨i, hh.subset hmem, heq⟩)
    fun ⟨j, hmem, heq⟩ ↦ ⟨j, hh.subset hmem, heq⟩

/-! ## The settings in the session state -/

/-- The settings kept are those of the live session. -/
def OwnSettings (env : Env) (w : World) : Prop :=
  ∀ p, w.session.sessionPath = some p →
    Given env p (w.session.currentData, w.session.currentSecrets) w.history

theorem OwnSettings.mono (hw : OwnSettings env w)
    (hpath : w'.session.sessionPath = w.session.sessionPath)
    (hdata : w'.session.currentData = w.session.currentData)
    (hsecrets : w'.session.currentSecrets = w.session.currentSecrets)
    (hh : w.history <:+ w'.history) : OwnSettings env w' := by
  intro p hp
  rw [hdata, hsecrets]
  exact (hw p (hpath ▸ hp)).mono hh

theorem OwnSettings.of_none (hnone : w.session.sessionPath = none) : OwnSettings env w :=
  fun p hp ↦ by simp [hnone] at hp

/-- `new_secrets` replaces the settings of the session that it finds. -/
theorem OwnSettings.taken {j : ℕ} {data : VpnData} {secrets : SecretsMap}
    (hdata : (data, secrets) = env.newSettings j)
    (hexec : exec (.newSecrets j) w (.takePending data secrets) reply = some (a, w')) :
    OwnSettings env w' := by
  cases hp : w.session.sessionPath with
  | none =>
    cases hexec
    exact .of_none hp
  | some q =>
    cases hexec
    rintro p hp'
    obtain rfl : q = p := Option.some_inj.mp (hp.symm.trans hp')
    refine .inr ⟨j, ?_, ?_⟩
    · rw [World.note_history, hp]
      exact List.mem_cons_self
    · simp [hp, hdata]

theorem exec_ownSettings (hw : OwnSettings env w) (hexec : exec t w op reply = some (a, w'))
    (hstash : ∀ i c p data secrets, op = .stash i c p data secrets →
      Given env p (data, secrets) w.history)
    (htake : ∀ data secrets, op = .takePending data secrets →
      ∃ j, t = .newSecrets j ∧ (data, secrets) = env.newSettings j) : OwnSettings env w' := by
  by_cases htaking : ∃ data secrets, op = .takePending data secrets
  · obtain ⟨data, secrets, rfl⟩ := htaking
    obtain ⟨j, rfl, hdata⟩ := htake data secrets rfl
    exact .taken hdata hexec
  have hh := exec_history_suffix hexec
  unfold exec at hexec
  split at hexec <;> (try split_ifs at hexec) <;> cases hexec
  all_goals first
    | exact hw.mono rfl rfl rfl hh
    | exact .of_none rfl
    | exact absurd ⟨_, _, rfl⟩ htaking
    | (rintro p ⟨⟩; exact hstash _ _ _ _ _ rfl)

/-- A `Connect` call that is about to put its session has created it. -/
def StashesOwn (w : World) : Prop :=
  ∀ i c p, w.pc (.connect i) = ConnectPc.stash c p → (.connect i, .created p) ∈ w.history

theorem ConnectPc.of_next_stash {pc : ConnectPc} {data : VpnData} {secrets : SecretsMap}
    {next : Answer → Option ConnectPc} {c : Path} (hcode : pc.code i data secrets = some (op, next))
    (hnext : next a = some (.stash c p)) : op = .newTunnel ∧ a = .path p := by
  cases pc <;> cases hcode
  case sessionDisconnect q d | retryDisconnect q d => cases d <;> simp [afterDisconnect] at hnext
  case importConfig | newTunnel | cleanup =>
    cases a <;> simp at hnext
    try exact ⟨rfl, by rw [hnext.2]⟩
  all_goals simp at hnext

theorem TaskStep.stashesOwn (hw : StashesOwn w) (h : TaskStep env w t reply w') :
    StashesOwn w' := by
  intro i c p hpc
  by_cases ht : .connect i = t
  · subst ht
    cases h with
    | complete hprog howed hexec howed' hnext =>
      rw [World.goto_pc, Function.update_self] at hpc
      obtain rfl := hpc
      obtain ⟨rfl, rfl⟩ := ConnectPc.of_next_stash hprog hnext
      cases reply <;> cases hexec
      exact List.mem_cons_self
    | update => exact List.mem_cons_of_mem _ (hw i c p hpc)
    | win => exact hw i c p hpc
    | settle hprog howed hsignal hnext =>
      rw [World.goto_pc, Function.update_self] at hpc
      obtain rfl := hpc
      obtain ⟨rfl, -⟩ := ConnectPc.of_next_stash hprog hnext
      cases hsignal
  · rw [h.pc_of_ne ht] at hpc
    exact h.history_suffix.subset (hw i c p hpc)

theorem NewSecretsPc.of_takePending {pc : NewSecretsPc} {data data' : VpnData}
    {secrets secrets' : SecretsMap} {next : Answer → Option NewSecretsPc}
    (hcode : pc.code data secrets = some (.takePending data' secrets', next)) :
    data' = data ∧ secrets' = secrets := by
  cases pc <;> cases hcode
  exact ⟨rfl, rfl⟩

theorem TaskStep.ownSettings (hstashes : StashesOwn w) (hw : OwnSettings env w)
    (h : TaskStep env w t reply w') : OwnSettings env w' := by
  cases h with
  | @complete op next a w₁ pc hprog howed hexec howed' hnext =>
    suffices OwnSettings env w₁ from this
    refine exec_ownSettings hw hexec ?_ ?_
    · rintro i c p data secrets rfl
      obtain rfl := program_of hprog
      obtain ⟨hpc, rfl, rfl⟩ := ConnectPc.of_stash hprog
      exact .inl ⟨i, hstashes i c p hpc, rfl⟩
    · rintro data secrets rfl
      obtain ⟨j, rfl⟩ := program_of hprog
      obtain ⟨rfl, rfl⟩ := NewSecretsPc.of_takePending hprog
      exact ⟨j, rfl, rfl⟩
  | update => exact hw.mono rfl rfl rfl (List.suffix_cons _ _)
  | win => exact hw
  | settle =>
    cases reply with
    | ok => exact hw.mono rfl rfl rfl (List.suffix_cons _ _)
    | _ => exact hw

theorem ownSettings_of_reachable (h : (machine env).Reachable w) : OwnSettings env w := by
  have hboth : StashesOwn w ∧ OwnSettings env w := by
    refine invariant_of_steps (I := fun w ↦ StashesOwn w ∧ OwnSettings env w)
      ⟨nofun, .of_none rfl⟩ ?_ ?_ (fun _ ↦ id) h
    · rintro w t reply w' - - ⟨hstashes, hown⟩ htask
      exact ⟨htask.stashesOwn hstashes, htask.ownSettings hstashes hown⟩
    · rintro w j b - ⟨hstashes, hown⟩
      exact ⟨fun i c p hpc ↦ hstashes i c p (by simpa using hpc), hown⟩
  exact hboth.2

/-! ## The values in hand -/

/-- A value that the attention listener is about to provide is found in settings of a kind. -/
def AttentionPc.Sourced (G : VpnData × SecretsMap → Prop) : AttentionPc → Prop
  | .provide _ data secrets slot value _ _ =>
    G (data, secrets) ∧ slotValue data secrets slot = some value
  | _ => True

theorem AttentionPc.sourced_loop {G : VpnData × SecretsMap → Prop} {msg : String} {data : VpnData}
    {secrets : SecretsMap} {slots needed : List InputSlot} (hG : G (data, secrets)) :
    (loop msg data secrets slots needed).Sourced G := by
  induction slots generalizing needed with
  | nil =>
    unfold loop
    split <;> trivial
  | cons slot rest ih =>
    unfold loop
    split
    · exact ⟨hG, ‹_›⟩
    · exact ih

/-- Only settings that were read while the session was the live one are used. -/
theorem AttentionPc.sourced_next {G : VpnData × SecretsMap → Prop} {pc pc' : AttentionPc}
    {next : Answer → Option AttentionPc} (hcode : pc.code i p = some (op, next))
    (hnext : next a = some pc') (hsnapshot : ∀ data secrets, op = .snapshot p →
      a = .snapshot data secrets true → G (data, secrets))
    (hpc : pc.Sourced G) : pc'.Sourced G := by
  cases pc <;> cases hcode
  case wait => cases a <;> simp at hnext <;> simp [← hnext, Sourced]
  case fetch msg =>
    cases a <;> simp only [Option.some_inj, reduceCtorEq] at hnext <;> subst hnext
    · trivial
    · split_ifs <;> trivial
  -- The settings are those of the snapshot, which is only used for an owned session.
  case owned msg slots =>
    simp only at hnext
    split at hnext
    · obtain rfl := Option.some_inj.mp hnext
      exact sourced_loop (hsnapshot _ _ rfl rfl)
    · obtain rfl := Option.some_inj.mp hnext
      trivial
    · cases hnext
  -- The settings stay the same from one slot to the next.
  case provide msg data secrets slot value rest needed =>
    obtain ⟨-, rfl⟩ | ⟨-, rfl⟩ := onReply_eq_some.mp hnext
    · exact sourced_loop hpc.1
    · trivial
  all_goals simp only [always_eq_some, onReply_eq_some, onFlag_eq_some] at hnext
  all_goals first
    | obtain rfl := hnext
    | obtain ⟨-, rfl⟩ | ⟨-, rfl⟩ := hnext
  all_goals trivial

theorem AttentionPc.Sourced.imp {G G' : VpnData × SecretsMap → Prop} {pc : AttentionPc}
    (hG : ∀ settings, G settings → G' settings) (h : pc.Sourced G) : pc.Sourced G' := by
  cases pc with
  | provide msg data secrets slot value rest needed => exact h.imp_left (hG _)
  | _ => trivial

/-- What the attention listener provides to its session was given for that session. -/
theorem attentionSourced (env : Env) :
    AttentionFact env fun p pc h ↦ pc.Sourced fun settings ↦ Given env p settings h where
  attach p h := trivial
  exited p h := trivial
  mono p pc h h' hQ hh := hQ.imp fun _ ↦ .mono hh
  next {w w' i p op reply a next pc} hreach hcode hexec hnext hQ := by
    have hh := exec_history_suffix hexec
    refine AttentionPc.sourced_next hcode hnext ?_ (hQ.imp fun _ ↦ .mono hh)
    rintro data secrets rfl rfl
    simp only [exec, Option.some_inj, Prod.mk.injEq, Answer.snapshot.injEq,
      decide_eq_true_eq] at hexec
    obtain ⟨⟨rfl, rfl, howned⟩, rfl⟩ := hexec
    exact ownSettings_of_reachable hreach p howned

/-- A value that a `NewSecrets` call is about to provide is found in its settings. -/
def NewSecretsPc.Sourced (settings : VpnData × SecretsMap) : NewSecretsPc → Prop
  | .provide _ slot value _ _ => slotValue settings.1 settings.2 slot = some value
  | _ => True

theorem NewSecretsPc.sourced_loop {settings : VpnData × SecretsMap} {slots : List InputSlot}
    {missing : ℕ} : (loop p slots missing).Sourced settings := by
  cases slots <;> trivial

theorem NewSecretsPc.sourced_next {settings : VpnData × SecretsMap} {pc pc' : NewSecretsPc}
    {next : Answer → Option NewSecretsPc}
    (hcode : pc.code settings.1 settings.2 = some (op, next)) (hnext : next a = some pc') :
    pc'.Sourced settings := by
  cases pc <;> cases hcode
  case dispatched =>
    simp only at hnext
    split at hnext
    · obtain rfl := Option.some_inj.mp hnext
      exact sourced_loop
    · obtain rfl := Option.some_inj.mp hnext
      trivial
    · cases hnext
  case check p slot rest missing =>
    obtain ⟨-, rfl⟩ | ⟨-, rfl⟩ := onFlag_eq_some.mp hnext
    · trivial
    · split
      · assumption
      · exact sourced_loop
  case provide =>
    obtain ⟨-, rfl⟩ | ⟨-, rfl⟩ := onReply_eq_some.mp hnext
    · exact sourced_loop
    · trivial
  case provideFailed =>
    obtain ⟨-, rfl⟩ | ⟨-, rfl⟩ := onFlag_eq_some.mp hnext
    · trivial
    · exact sourced_loop

/-- What a `NewSecrets` call provides is in its settings, and it provides it to the session that it
has found live. -/
structure ServesOwn (env : Env) (w : World) : Prop where
  took : ∀ j, ∀ s ∈ NewSecretsPc.slots (w.pc (.newSecrets j)),
    (.newSecrets j, .took (some s.1)) ∈ w.history
  sourced : ∀ j, NewSecretsPc.Sourced (env.newSettings j) (w.pc (.newSecrets j))

theorem TaskStep.servesOwn (hw : ServesOwn env w) (h : TaskStep env w t reply w') :
    ServesOwn env w' := by
  refine ⟨fun j s hs ↦ ?_, fun j ↦ ?_⟩ <;> by_cases ht : .newSecrets j = t
  · subst ht
    obtain hsub | ⟨p, -, htook, hslots⟩ := h.newSecrets_slots
    · exact h.history_suffix.subset (hw.took j s (hsub hs))
    · rw [hslots] at hs
      obtain ⟨slot, -, rfl⟩ := List.mem_map.mp hs
      exact htook
  · rw [h.pc_of_ne ht] at hs
    exact h.history_suffix.subset (hw.took j s hs)
  · subst ht
    cases h with
    | complete hprog howed hexec howed' hnext | settle hprog howed hsignal hnext =>
      rw [World.goto_pc, Function.update_self]
      exact NewSecretsPc.sourced_next hprog hnext
    | update | win => exact hw.sourced j
  · rw [h.pc_of_ne ht]
    exact hw.sourced j

theorem servesOwn_of_reachable (h : (machine env).Reachable w) : ServesOwn env w := by
  refine invariant_of_steps (I := ServesOwn env) ⟨fun j ↦ nofun, fun j ↦ trivial⟩ ?_ ?_
    (fun _ hw ↦ ⟨hw.took, hw.sourced⟩) h
  · exact fun w t reply w' _ _ hw htask ↦ htask.servesOwn hw
  · intro w j b _ hw
    exact ⟨fun i s hs ↦ hw.took i s (by simpa using hs), fun i ↦ by simpa using hw.sourced i⟩

/-! ## The values provided -/

/-- A value is provided to a session only from settings that were given for it. -/
def OwnValues (env : Env) (e : TaskId × Event) (earlier : List (TaskId × Event)) : Prop :=
  ∀ p slot value, e.2 = .provided p slot value → ∃ settings, Given env p settings earlier ∧
    slotValue settings.1 settings.2 slot = some value

theorem AttentionPc.of_provideInput {pc : AttentionPc} {next : Answer → Option AttentionPc}
    {q : Path} {slot : InputSlot} {value : String} {G : VpnData × SecretsMap → Prop}
    (hcode : pc.code i p = some (.provideInput q slot value, next)) (hpc : pc.Sourced G) :
    q = p ∧ ∃ settings, G settings ∧ slotValue settings.1 settings.2 slot = some value := by
  cases pc <;> cases hcode
  exact ⟨rfl, _, hpc⟩

theorem NewSecretsPc.of_provideInput {settings : VpnData × SecretsMap} {pc : NewSecretsPc}
    {next : Answer → Option NewSecretsPc} {q : Path} {slot : InputSlot} {value : String}
    (hcode : pc.code settings.1 settings.2 = some (.provideInput q slot value, next))
    (hpc : pc.Sourced settings) : slotValue settings.1 settings.2 slot = some value := by
  cases pc <;> cases hcode
  exact hpc

/-- Credentials never cross sessions: in every run, what is provided to a session was given for it,
by the `Connect` call that created it or by a `NewSecrets` call processed while it was live. -/
theorem values_from_own_settings (env : Env) {w : World} (h : (machine env).Reachable w) :
    Keeps (OwnValues env) w.history := by
  refine h.invariant_of_reachable (I := fun w ↦ Keeps (OwnValues env) w.history)
    (by rintro _ rfl; trivial) ?_
  intro w act w' hreach hkeeps _ hstep
  refine step_keeps hkeeps ?_ hstep
  rintro t reply op next e - hprog he p slot value rfl
  obtain hrec | ⟨signal, -, -, hsent⟩ := he
  · obtain rfl := Op.records_provided.mp hrec
    obtain ⟨i, rfl⟩ | ⟨j, rfl⟩ := program_of hprog
    · obtain ⟨q, hq, hcode⟩ := Option.bind_eq_some_iff.mp hprog
      obtain ⟨rfl, hsource⟩ :=
        AttentionPc.of_provideInput hcode ((attentionSourced env).of_reachable hreach hq)
      exact hsource
    · have hown := servesOwn_of_reachable hreach
      exact ⟨env.newSettings j,
        .inr ⟨j, hown.took j _ (NewSecretsPc.slots_provide hprog), rfl⟩,
        NewSecretsPc.of_provideInput hprog (hown.sourced j)⟩
  · cases hsent

theorem values_from_own_settings_answered :
    answered.history.head? = some (.newSecrets 0, .provided "/session" passwordSlot "secret") ∧
      Keeps (OwnValues answeringEnv) answered.history :=
  ⟨rfl, values_from_own_settings answeringEnv
    (Machine.reachable_getD_run (Machine.reachable_of_init rfl) _)⟩

end Plugin

end NmOpenvpn3
