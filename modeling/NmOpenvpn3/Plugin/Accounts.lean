import NmOpenvpn3.Plugin.Steps
import NmOpenvpn3.Concurrent.Custody

/-!
# Accounting for backend objects

Sessions and configs of the backend are created, kept in the session state and disposed of under the
connect lock. Each program point is annotated with what a task holds there: the lock, a session or a
config of its own, and what it knows about the session state. The annotations are checked against
the programs (`ConnectPc.rule`, `DisconnectPc.rule`) and against the operations (`exec_accounted`).
-/

namespace NmOpenvpn3

namespace Plugin

open Rust Ovpn Service Concurrent

/-! ## Annotations -/

/-- What a task holds: the lock, the objects it alone accounts for, and what it knows about the
session path. -/
structure Holding where
  locked : Bool
  session : Option Path
  config : Option Path
  slot : Option (Option Path)

/-- A task outside the lock holds nothing. -/
def Holding.free : Holding := ⟨false, none, none, none⟩

/-- Knowledge may be given up. -/
@[mk_iff]
structure Holding.Implies (h h' : Holding) : Prop where
  locked : h'.locked = h.locked
  session : h'.session = h.session
  config : h'.config = h.config
  slot : h'.slot = none ∨ h'.slot = h.slot

def ConnectPc.holding : ConnectPc → Holding
  | .dispatched | .replied _ => .free
  | .checkActive | .failed | .stopped | .failure | .replying _ => ⟨true, none, none, none⟩
  | .clearTeardown | .profile | .starting | .preImport | .importConfig =>
    ⟨true, none, none, some none⟩
  | .overrides c | .newTunnel c | .removeConfig c | .removeTaken c =>
    ⟨true, none, some c, some none⟩
  | .stash c p => ⟨true, some p, some c, some none⟩
  | .stashed p | .waitReady p | .spawnListeners p | .grantAccess p | .beforeConnect p
  | .sessionConnect p | .armPoller p | .cleanup p => ⟨true, none, none, some (some p)⟩
  | .sessionDisconnect p c => ⟨true, some p, c, some none⟩
  | .retryDisconnect _ c => ⟨true, none, c, some none⟩

def DisconnectPc.holding : DisconnectPc → Holding
  | .dispatched | .acquire | .replied => .free
  | .take => ⟨true, none, none, none⟩
  | .sessionDisconnect p c => ⟨true, some p, c, some none⟩
  | .retryDisconnect _ c => ⟨true, none, c, some none⟩
  | .removeConfig c => ⟨true, none, some c, some none⟩
  | .stopped | .quit | .releasing => ⟨true, none, none, some none⟩

/-- What a task holds at a program point. Only `connect` and `disconnect` take the lock. -/
def Pc.holding : (t : TaskId) → Pc t → Holding
  | .connect _, pc => ConnectPc.holding pc
  | .disconnect _, pc => DisconnectPc.holding pc
  | .newSecrets _, _ | .background _ _, _ => .free

/-- What an operation requires, and what is held after it. -/
def Op.Rule : Op → Answer → Holding → Holding → Prop
  | .acquire, _, h, h' => h = .free ∧ h' = ⟨true, none, none, none⟩
  | .release, _, h, h' => h.locked = true ∧ h.session = none ∧ h.config = none ∧ h' = .free
  | .setTeardown b, _, h, h' => (b = false → h.locked = true ∧ h.slot = some none) ∧ h' = h
  | .sessionActive, .flag b, h, h' =>
    h.locked = true ∧ h' = { h with slot := if b then none else some none }
  | .importConfig, .path c, h, h' =>
    h.locked = true ∧ h.config = none ∧ h.slot = some none ∧ h' = { h with config := some c }
  | .newTunnel, .path p, h, h' =>
    h.locked = true ∧ h.session = none ∧ h.slot = some none ∧ h' = { h with session := some p }
  | .configRemove c, _, h, h' =>
    h.locked = true ∧ h.config = some c ∧ h' = { h with config := none }
  | .sessionDisconnect p, _, h, h' =>
    h.locked = true ∧ h.slot = some none ∧ (h.session = some p ∨ h.session = none) ∧
      h' = { h with session := none }
  | .stash _ c p _ _, _, h, h' =>
    h = ⟨true, some p, some c, some none⟩ ∧ h' = ⟨true, none, none, some (some p)⟩
  | .spawn _ p _, _, h, h' => h.locked = true ∧ h.slot = some (some p) ∧ h' = h
  | .cleanup, .taken _ c, h, h' =>
    h.locked = true ∧ h.session = none ∧ h.config = none ∧
      ∃ p, h.slot = some (some p) ∧ h' = ⟨true, some p, c, some none⟩
  | .takeSession, .taken p c, h, h' =>
    h.locked = true ∧ h.session = none ∧ h.config = none ∧ h' = ⟨true, p, c, some none⟩
  | .quit, _, h, h' =>
    h.locked = true ∧ h.session = none ∧ h.config = none ∧ h.slot = some none ∧ h' = h
  | _, _, h, h' => h' = h

theorem ConnectPc.holding_afterDisconnect (c : Option Path) :
    Holding.Implies ⟨true, none, c, some none⟩ (ConnectPc.afterDisconnect c).holding := by
  cases c <;> simp [afterDisconnect, holding, Holding.implies_iff]

theorem DisconnectPc.holding_afterDisconnect (c : Option Path) :
    Holding.Implies ⟨true, none, c, some none⟩ (DisconnectPc.afterDisconnect c).holding := by
  cases c <;> simp [afterDisconnect, holding, Holding.implies_iff]

/-- The annotations of `connect` follow the rules. -/
theorem ConnectPc.rule {i : ℕ} {data : VpnData} {secrets : SecretsMap} {pc pc' : ConnectPc}
    {op : Op} {next : Answer → Option ConnectPc} {a : Answer}
    (hcode : pc.code i data secrets = some (op, next)) (hnext : next a = some pc') :
    ∃ h, op.Rule a pc.holding h ∧ h.Implies pc'.holding := by
  cases pc <;> cases hcode
  case importConfig | newTunnel | cleanup =>
    cases a <;> simp at hnext <;>
      simp [← hnext, Op.Rule, ConnectPc.holding, Holding.implies_iff]
  case sessionDisconnect p c =>
    refine ⟨⟨true, none, c, some none⟩, by simp [Op.Rule, ConnectPc.holding], ?_⟩
    simp only [onReply_eq_some] at hnext
    obtain ⟨-, rfl⟩ | ⟨-, rfl⟩ := hnext
    · exact holding_afterDisconnect c
    · simp [ConnectPc.holding, Holding.implies_iff]
  case retryDisconnect p c =>
    -- The session is accounted for by the first attempt, whatever it answered.
    refine ⟨⟨true, none, c, some none⟩, by simp [Op.Rule, ConnectPc.holding], ?_⟩
    simp only [onReply_eq_some] at hnext
    obtain ⟨-, rfl⟩ | ⟨-, rfl⟩ := hnext <;> exact holding_afterDisconnect c
  all_goals
    simp only [always_eq_some, onReply_eq_some, onFlag_eq_some] at hnext
    first
      | obtain rfl := hnext
      | obtain ⟨rfl, rfl⟩ | ⟨rfl, rfl⟩ := hnext
    all_goals simp [Op.Rule, ConnectPc.holding, Holding.implies_iff, Holding.free]

/-- The annotations of `disconnect` follow the rules. -/
theorem DisconnectPc.rule {persist : Bool} {pc pc' : DisconnectPc} {op : Op}
    {next : Answer → Option DisconnectPc} {a : Answer}
    (hcode : pc.code persist = some (op, next)) (hnext : next a = some pc') :
    ∃ h, op.Rule a pc.holding h ∧ h.Implies pc'.holding := by
  cases pc <;> cases hcode
  case take =>
    cases a with
    | taken p c =>
      -- Without a session there is nothing to disconnect, and the code goes on with the config.
      refine ⟨⟨true, p, c, some none⟩, by simp [Op.Rule, holding], ?_⟩
      cases p <;> simp only [Option.some_inj] at hnext <;> subst hnext
      · exact holding_afterDisconnect c
      · simp [holding, Holding.implies_iff]
    | _ => simp at hnext
  case sessionDisconnect p c =>
    refine ⟨⟨true, none, c, some none⟩, by simp [Op.Rule, holding], ?_⟩
    simp only [onReply_eq_some] at hnext
    obtain ⟨-, rfl⟩ | ⟨-, rfl⟩ := hnext
    · exact holding_afterDisconnect c
    · simp [holding, Holding.implies_iff]
  case retryDisconnect p c =>
    refine ⟨⟨true, none, c, some none⟩, by simp [Op.Rule, holding], ?_⟩
    simp only [onReply_eq_some] at hnext
    obtain ⟨-, rfl⟩ | ⟨-, rfl⟩ := hnext <;> exact holding_afterDisconnect c
  case stopped =>
    simp only [always_eq_some] at hnext
    cases persist <;> simp [hnext, Op.Rule, holding, Holding.implies_iff]
  all_goals
    simp only [always_eq_some, onReply_eq_some] at hnext
    first
      | obtain rfl := hnext
      | obtain ⟨rfl, rfl⟩ | ⟨rfl, rfl⟩ := hnext
    all_goals simp [Op.Rule, holding, Holding.implies_iff, Holding.free]

variable {env : Env} {w w' : World} {t t' : TaskId} {op : Op} {reply a : Answer}

/-- The annotations of all programs follow the rules. -/
theorem program_rule {next : Answer → Option (Pc t)} {pc : Pc t}
    (hprog : program env w t = some (op, next)) (hnext : next a = some pc) :
    ∃ h, op.Rule a (Pc.holding t (w.pc t)) h ∧ h.Implies (Pc.holding t pc) := by
  have hfree : Holding.free.Implies .free := ⟨rfl, rfl, rfl, .inl rfl⟩
  have hof := program_of hprog
  match t with
  | .connect i => exact ConnectPc.rule hprog hnext
  | .disconnect i => exact DisconnectPc.rule hprog hnext
  | .newSecrets i | .background i b =>
    refine ⟨.free, ?_, hfree⟩
    cases op <;> simp_all [Op.Of, Op.Rule, Pc.holding]

/-! ## The accounts -/

/-- A session state without credentials, config and tasks. -/
structure SessionState.Blank (s : SessionState) : Prop where
  configPath : s.configPath = none
  tasks : s.tasks = []
  currentData : s.currentData = Dict.empty
  currentSecrets : s.currentSecrets = Dict.empty

/-- What the holder of the lock holds. -/
def held (w : World) (H : TaskId → Holding) : Holding := w.lock.elim .free H

def sessionCustody (w : World) (H : TaskId → Holding) : Custody TaskId Path :=
  ⟨w.lock, (held w H).session, w.session.sessionPath, w.sessions⟩

def configCustody (w : World) (H : TaskId → Holding) : Custody TaskId Path :=
  ⟨w.lock, (held w H).config, w.session.configPath, w.configs⟩

/-- All objects of the backend are accounted for, given what the tasks hold. -/
structure Accounted (w : World) (H : TaskId → Holding) : Prop where
  lock : ∀ t, w.lock = some t ↔ (H t).locked = true
  sessions : (sessionCustody w H).Sound
  configs : (configCustody w H).Sound
  slot : ∀ t q, w.lock = some t → (H t).slot = some q → w.session.sessionPath = q
  blank : w.session.sessionPath = none → w.session.Blank

/-- What the tasks hold at their program points. -/
def holdings (w : World) (t : TaskId) : Holding := Pc.holding t (w.pc t)

theorem holdings_goto (w : World) (t : TaskId) (pc : Pc t) :
    holdings (w.goto t pc) = Function.update (holdings w) t (Pc.holding t pc) := by
  funext t'
  by_cases h : t' = t
  · subst h
    simp [holdings]
  · simp [holdings, h]

variable {H : TaskId → Holding} {h h' : Holding}

theorem Accounted.holder (hw : Accounted w H) (hlocked : (H t).locked = true) : w.lock = some t :=
  (hw.lock t).mpr hlocked

/-- Knowledge may be given up. -/
theorem Accounted.weaken (hw : Accounted w H) (himp : (H t).Implies h) :
    Accounted w (Function.update H t h) := by
  have hheld : (held w (Function.update H t h)).session = (held w H).session ∧
      (held w (Function.update H t h)).config = (held w H).config := by
    cases hl : w.lock with
    | none => simp [held, hl]
    | some t' =>
      by_cases ht : t' = t
      · subst ht
        simp [held, hl, himp.session, himp.config]
      · simp [held, hl, ht]
  -- The objects in hand are the same; only what the task knows of the slot may be less.
  refine ⟨fun t' ↦ ?_, ?_, ?_, fun t' q hl hq ↦ ?_, hw.blank⟩
  · by_cases ht : t' = t
    · subst ht
      rw [hw.lock, Function.update_self, himp.locked]
    · rw [hw.lock, Function.update_of_ne ht]
  · rw [sessionCustody, hheld.1]
    exact hw.sessions
  · rw [configCustody, hheld.2]
    exact hw.configs
  · by_cases ht : t' = t
    · subst ht
      rw [Function.update_self] at hq
      obtain hnone | hsame := himp.slot
      · rw [hnone] at hq
        cases hq
      · exact hw.slot _ q hl (hsame ▸ hq)
    · rw [Function.update_of_ne ht] at hq
      exact hw.slot t' q hl hq

/-- What the lock does not protect may change. -/
theorem Accounted.congr (hw : Accounted w H) (hlock : w'.lock = w.lock)
    (hsession : w'.session.sessionPath = w.session.sessionPath)
    (hconfig : w'.session.configPath = w.session.configPath) (hsessions : w'.sessions = w.sessions)
    (hconfigs : w'.configs = w.configs)
    (hblank : w'.session.sessionPath = none → w'.session.Blank) : Accounted w' H := by
  have hs : sessionCustody w' H = sessionCustody w H := by
    simp [sessionCustody, held, hlock, hsession, hsessions]
  have hc : configCustody w' H = configCustody w H := by
    simp [configCustody, held, hlock, hconfig, hconfigs]
  exact ⟨hlock ▸ hw.lock, hs ▸ hw.sessions, hc ▸ hw.configs,
    fun t q hl hq ↦ hsession ▸ hw.slot t q (hlock ▸ hl) hq, hblank⟩

/-- The holder of the lock may make moves. -/
theorem Accounted.move (hw : Accounted w H) (hl : w.lock = some t) (hl' : w'.lock = some t)
    (hlocked : h.locked = true)
    (hs : Custody.Move ⟨some t, (H t).session, w.session.sessionPath, w.sessions⟩
      ⟨some t, h.session, w'.session.sessionPath, w'.sessions⟩)
    (hc : Custody.Move ⟨some t, (H t).config, w.session.configPath, w.configs⟩
      ⟨some t, h.config, w'.session.configPath, w'.configs⟩)
    (hslot : ∀ q, h.slot = some q → w'.session.sessionPath = q)
    (hblank : w'.session.sessionPath = none → w'.session.Blank) :
    Accounted w' (Function.update H t h) := by
  have hheld : held w H = H t := by simp [held, hl]
  have hheld' : held w' (Function.update H t h) = h := by simp [held, hl']
  refine ⟨fun t' ↦ ?_, ?_, ?_, fun t' q ht' hq ↦ ?_, hblank⟩
  · by_cases ht : t' = t
    · subst ht
      simp [hl', hlocked]
    · rw [Function.update_of_ne ht, ← hw.lock, hl, hl']
  · have := hw.sessions
    rw [sessionCustody, hheld, hl] at this
    rw [sessionCustody, hheld', hl']
    exact this.move hs
  · have := hw.configs
    rw [configCustody, hheld, hl] at this
    rw [configCustody, hheld', hl']
    exact this.move hc
  · obtain rfl : t = t' := Option.some_inj.mp (hl'.symm.trans ht')
    rw [Function.update_self] at hq
    exact hslot q hq

/-- The lock is taken by a task that holds nothing. -/
theorem Accounted.acquire (hw : Accounted w H) (hfree : w.lock = none) :
    Accounted { w with lock := some t }
      (Function.update H t ⟨true, none, none, none⟩) := by
  have hheld : held w H = .free := by simp [held, hfree]
  have hheld' : held { w with lock := some t } (Function.update H t ⟨true, none, none, none⟩) =
      ⟨true, none, none, none⟩ := by simp [held]
  refine ⟨fun t' ↦ ?_, ?_, ?_, fun t' q ht' hq ↦ ?_, hw.blank⟩
  · by_cases ht : t' = t
    · subst ht
      simp
    · have hnot := (hw.lock t').not.mp (by simp [hfree])
      simp [Function.update_of_ne ht, hnot, Ne.symm ht]
  · have := hw.sessions
    rw [sessionCustody, hheld] at this
    rw [sessionCustody, hheld']
    exact this.move (.acquire t hfree)
  · have := hw.configs
    rw [configCustody, hheld] at this
    rw [configCustody, hheld']
    exact this.move (.acquire t hfree)
  · obtain rfl : t = t' := Option.some_inj.mp ht'
    simp at hq

/-- The lock is given back by a task that holds nothing else. -/
theorem Accounted.release (hw : Accounted w H) (hl : w.lock = some t) (hs : (H t).session = none)
    (hc : (H t).config = none) :
    Accounted { w with lock := none } (Function.update H t .free) := by
  have hheld : held w H = H t := by simp [held, hl]
  refine ⟨fun t' ↦ ?_, ?_, ?_, fun t' q ht' hq ↦ ?_, hw.blank⟩
  · by_cases ht : t' = t
    · subst ht
      simp [Holding.free]
    · have hnot := (hw.lock t').not.mp (by simp [hl, Ne.symm ht])
      simp [Function.update_of_ne ht, hnot]
  · have := hw.sessions
    rw [sessionCustody, hheld, hs] at this
    exact this.move (.release rfl)
  · have := hw.configs
    rw [configCustody, hheld, hc] at this
    exact this.move (.release rfl)
  · cases ht'

/-- An operation that leaves the objects alone. -/
theorem Accounted.neutral (hw : Accounted w H) (hrule : h = H t) (hlock : w'.lock = w.lock)
    (hsession : w'.session.sessionPath = w.session.sessionPath)
    (hconfig : w'.session.configPath = w.session.configPath) (hsessions : w'.sessions = w.sessions)
    (hconfigs : w'.configs = w.configs)
    (hblank : w.session.Blank → w.session.sessionPath = none → w'.session.Blank) :
    Accounted w' (Function.update H t h) := by
  rw [hrule, Function.update_eq_self]
  refine hw.congr hlock hsession hconfig hsessions hconfigs fun hnone ↦ ?_
  rw [hsession] at hnone
  exact hblank (hw.blank hnone) hnone

/-- A session may be disposed of twice: the second attempt finds nothing to erase. -/
theorem Accounted.disconnect_move {p : Path} (hw : Accounted w H) (hl : w.lock = some t)
    (hslot : (H t).slot = some none) (hs : (H t).session = some p ∨ (H t).session = none) :
    Custody.Move ⟨some t, (H t).session, w.session.sessionPath, w.sessions⟩
      ⟨some t, none, w.session.sessionPath, w.sessions.erase p⟩ := by
  obtain hs | hs := hs
  · exact .dispose p hs
  · have hnil : w.sessions = [] :=
      hw.sessions.eq_nil (by simp [sessionCustody, held, hl, hs]) (hw.slot t none hl hslot)
    simp only [hnil, hs, List.erase_nil]
    exact .stay _

/-- The holder of the lock puts its session and its config into the session state. -/
theorem Accounted.stash {c p : Path} (hw : Accounted w H) (hl : w.lock = some t)
    (hl' : w'.lock = some t) (hH : H t = ⟨true, some p, some c, some none⟩)
    (hsession : w'.session.sessionPath = some p) (hconfig : w'.session.configPath = some c)
    (hsessions : w'.sessions = w.sessions) (hconfigs : w'.configs = w.configs) :
    Accounted w' (Function.update H t ⟨true, none, none, some (some p)⟩) := by
  have hnone : w.session.sessionPath = none := hw.slot t none hl (by rw [hH])
  have hput : Custody.Move (⟨some t, some p, none, w.sessions⟩ : Custody TaskId Path)
      ⟨some t, none, some p, w.sessions⟩ := .put rfl
  have hputc : Custody.Move (⟨some t, some c, none, w.configs⟩ : Custody TaskId Path)
      ⟨some t, none, some c, w.configs⟩ := .put rfl
  refine hw.move hl hl' rfl ?_ ?_ ?_ ?_
  · simpa [hH, hnone, hsession, hsessions] using hput
  · simpa [hH, (hw.blank hnone).configPath, hconfig, hconfigs] using hputc
  · rintro q ⟨⟩
    exact hsession
  · simp [hsession]

/-- The holder of the lock takes the session and the config out of the session state. -/
theorem Accounted.empty (hw : Accounted w H) (hl : w.lock = some t) (hl' : w'.lock = some t)
    (hs : (H t).session = none) (hc : (H t).config = none)
    (hsession : w'.session.sessionPath = none) (hblank : w'.session.Blank)
    (hsessions : w'.sessions = w.sessions) (hconfigs : w'.configs = w.configs) :
    Accounted w' (Function.update H t
      ⟨true, w.session.sessionPath, w.session.configPath, some none⟩) := by
  have htake : Custody.Move
      (⟨some t, none, w.session.sessionPath, w.sessions⟩ : Custody TaskId Path)
      ⟨some t, w.session.sessionPath, none, w.sessions⟩ := .take (Option.some_ne_none t) rfl
  have htakec : Custody.Move
      (⟨some t, none, w.session.configPath, w.configs⟩ : Custody TaskId Path)
      ⟨some t, w.session.configPath, none, w.configs⟩ := .take (Option.some_ne_none t) rfl
  refine hw.move hl hl' rfl ?_ ?_ ?_ fun _ ↦ hblank
  · simpa [hs, hsession, hsessions] using htake
  · simpa [hc, hblank.configPath, hconfigs] using htakec
  · rintro q ⟨⟩
    exact hsession

/-- Operations that follow the rules keep the accounts. -/
theorem exec_accounted (hw : Accounted w H) (hrule : op.Rule a (H t) h)
    (hexec : exec t w op reply = some (a, w')) : Accounted w' (Function.update H t h) := by
  cases op
  case acquire =>
    simp only [exec] at hexec
    split_ifs at hexec with hfree
    cases hexec
    obtain ⟨-, rfl⟩ := hrule
    exact hw.acquire hfree
  case release =>
    cases hexec
    obtain ⟨hlocked, hs, hc, rfl⟩ := hrule
    exact hw.release (hw.holder hlocked) hs hc
  case sessionActive =>
    cases hexec
    obtain ⟨hlocked, rfl⟩ := hrule
    have hl := hw.holder hlocked
    refine hw.move hl hl hlocked (.stay _) (.stay _) (fun q hq ↦ ?_) hw.blank
    cases hp : w.session.sessionPath <;> simp_all
  case importConfig =>
    cases reply <;> cases hexec
    case path c =>
      obtain ⟨hlocked, hc, hslot, rfl⟩ := hrule
      have hl := hw.holder hlocked
      have hnone := hw.slot t none hl hslot
      exact hw.move hl hl hlocked (.stay _)
        (.create c (Option.some_ne_none t) hc (hw.blank hnone).configPath)
        (fun q hq ↦ hw.slot t q hl hq) hw.blank
    all_goals exact hw.neutral hrule rfl rfl rfl rfl rfl fun hb _ ↦ hb
  case newTunnel =>
    cases reply <;> cases hexec
    case path p =>
      obtain ⟨hlocked, hs, hslot, rfl⟩ := hrule
      have hl := hw.holder hlocked
      exact hw.move hl hl hlocked
        (.create p (Option.some_ne_none t) hs (hw.slot t none hl hslot)) (.stay _)
        (fun q hq ↦ hw.slot t q hl hq) hw.blank
    all_goals exact hw.neutral hrule rfl rfl rfl rfl rfl fun hb _ ↦ hb
  case configRemove c =>
    cases hexec
    obtain ⟨hlocked, hc, rfl⟩ := hrule
    have hl := hw.holder hlocked
    exact hw.move hl hl hlocked (.stay _) (.dispose c hc) (fun q hq ↦ hw.slot t q hl hq) hw.blank
  case sessionDisconnect p =>
    cases hexec
    obtain ⟨hlocked, hslot, hs, rfl⟩ := hrule
    have hl := hw.holder hlocked
    exact hw.move hl hl hlocked (hw.disconnect_move hl hslot hs) (.stay _)
      (fun q hq ↦ hw.slot t q hl hq) hw.blank
  case stash i c p data secrets =>
    cases hexec
    obtain ⟨hH, rfl⟩ := hrule
    have hl := hw.holder (t := t) (by rw [hH])
    exact hw.stash hl hl hH rfl rfl rfl rfl
  case spawn i p tasks =>
    cases hexec
    obtain ⟨hlocked, hslot, rfl⟩ := hrule
    have hp := hw.slot t (some p) (hw.holder hlocked) hslot
    exact hw.neutral rfl rfl rfl rfl rfl rfl fun _ hnone ↦ by simp [hp] at hnone
  case cleanup =>
    cases hexec
    obtain ⟨hlocked, hs, hc, p, hslot, rfl⟩ := hrule
    have hl := hw.holder hlocked
    rw [← hw.slot t (some p) hl hslot]
    exact hw.empty hl hl hs hc rfl ⟨rfl, rfl, rfl, rfl⟩ rfl rfl
  case takeSession =>
    cases hexec
    obtain ⟨hlocked, hs, hc, rfl⟩ := hrule
    have hl := hw.holder hlocked
    exact hw.empty hl hl hs hc rfl ⟨rfl, rfl, rfl, rfl⟩ rfl rfl
  case setTeardown b =>
    cases hexec
    exact hw.neutral hrule.2 rfl rfl rfl rfl rfl fun hb _ ↦ hb
  case quit =>
    cases hexec
    exact hw.neutral hrule.2.2.2.2 rfl rfl rfl rfl rfl fun hb _ ↦ hb
  case takePending data secrets =>
    cases hexec
    -- `NewSecrets` keeps data and secrets only for a session that is there.
    refine hw.neutral hrule rfl rfl rfl rfl rfl fun hb hnone ↦ ?_
    exact ⟨hb.configPath, hb.tasks, by simp [hnone, hb.currentData],
      by simp [hnone, hb.currentSecrets]⟩
  case stashPending slots =>
    cases hexec
    exact hw.neutral hrule rfl rfl rfl rfl rfl fun hb _ ↦ ⟨hb.1, hb.2, hb.3, hb.4⟩
  case setState new | emitFailureOnce i reason | claimIp4 i =>
    simp only [exec] at hexec
    split_ifs at hexec <;> cases hexec <;>
      exact hw.neutral hrule rfl rfl rfl rfl rfl fun hb _ ↦ hb
  case send signal | fetchSlots p =>
    cases reply <;> cases hexec <;> exact hw.neutral hrule rfl rfl rfl rfl rfl fun hb _ ↦ hb
  all_goals
    cases hexec
    exact hw.neutral hrule rfl rfl rfl rfl rfl fun hb _ ↦ hb

/-! ## Runs -/

theorem TaskStep.accounted (hw : Accounted w (holdings w)) (h : TaskStep env w t reply w') :
    Accounted w' (holdings w') := by
  cases h with
  | @complete op next a w₁ pc hprog howed hexec howed' hnext =>
    obtain ⟨h, hrule, himp⟩ := program_rule hprog hnext
    have hpc : holdings w₁ = holdings w := by
      funext t'
      rw [holdings, holdings, exec_pc hexec]
    have hexec' := exec_accounted hw hrule hexec
    have := hexec'.weaken (t := t) (h := Pc.holding t pc) (by rwa [Function.update_self])
    rw [holdings_goto, hpc]
    rw [Function.update_idem] at this
    exact this.congr rfl rfl rfl rfl rfl this.blank
  | update | win => exact hw.congr rfl rfl rfl rfl rfl hw.blank
  | @settle op next signal pc hprog howed hsignal hnext =>
    obtain ⟨h, hrule, himp⟩ := program_rule hprog hnext
    have hh : h = holdings w t := by cases op <;> simp_all [Op.signal, Op.Rule, holdings]
    have := hw.weaken (t := t) (h := Pc.holding t pc) (by rwa [← hh])
    rw [holdings_goto]
    cases reply <;> exact this.congr rfl rfl rfl rfl rfl this.blank

/-- Every step keeps the accounts. -/
theorem step_accounted {act : Action} (hw : Accounted w (holdings w))
    (h : (machine env).step w act = some w') : Accounted w' (holdings w') := by
  obtain ⟨-, ⟨t, reply, -, hstep⟩ | ⟨i, b, -, -, rfl⟩ | ⟨-, -, rfl⟩⟩ := step_cases h
  · exact hstep.accounted hw
  · have := hw.weaken (t := .background i b) (h := .free) ⟨rfl, rfl, rfl, .inl rfl⟩
    rw [holdings_goto]
    exact this.congr rfl rfl rfl rfl rfl this.blank
  · exact hw.congr rfl rfl rfl rfl rfl hw.blank

theorem accounted_init : Accounted .init (holdings .init) := by
  refine ⟨fun t ↦ ?_, ⟨rfl, .inl rfl, fun _ ↦ rfl⟩, ⟨rfl, .inl rfl, fun _ ↦ rfl⟩, ?_,
    fun _ ↦ ⟨rfl, rfl, rfl, rfl⟩⟩
  · match t with
    | .connect i | .disconnect i | .newSecrets i | .background i b =>
      simp [World.init, holdings, Pc.holding, Pc.start, ConnectPc.holding, DisconnectPc.holding,
        Holding.free]
  · rintro t q ⟨⟩

/-- The accounts are kept along every run. -/
theorem accounted_of_reachable (h : (machine env).Reachable w) : Accounted w (holdings w) :=
  h.invariant (I := fun w ↦ Accounted w (holdings w)) (by rintro _ rfl; exact accounted_init)
    fun _ _ _ hw _ hstep ↦ step_accounted hw hstep

/-! ## After a `Disconnect` -/

theorem exec_sessions (h : exec t w op reply = some (a, w')) (hop : op ≠ .newTunnel) :
    w'.sessions.Sublist w.sessions := by
  unfold exec at h
  split at h <;> (try split_ifs at h) <;> cases h <;>
    first | exact absurd rfl hop | exact List.erase_sublist | exact List.Sublist.refl _

theorem exec_configs (h : exec t w op reply = some (a, w')) (hop : op ≠ .importConfig) :
    w'.configs.Sublist w.configs := by
  unfold exec at h
  split at h <;> (try split_ifs at h) <;> cases h <;>
    first | exact absurd rfl hop | exact List.erase_sublist | exact List.Sublist.refl _

theorem exec_lock (h : exec t w op reply = some (a, w')) :
    op = .acquire ∧ w'.lock = some t ∨ w'.lock = none ∨ w'.lock = w.lock := by
  unfold exec at h
  split at h <;> (try split_ifs at h) <;> cases h <;> simp

end Plugin

end NmOpenvpn3
