import NmOpenvpn3.Plugin.Tasks
import NmOpenvpn3.Concurrent.History
import NmOpenvpn3.Concurrent.Runs
import Mathlib.Logic.Function.Basic
import Mathlib.Tactic.Simps.Basic

/-!
# The running plugin

The state that the tasks share, what the operations do to it, and the machine in which any number of
tasks take steps in any order. The backend and the bus are free to answer as they like.

Background tasks are aborted by handing in their handles. An aborted task stops at one of its next
awaits, so it may or may not take more steps before it is cancelled.
-/

namespace NmOpenvpn3

namespace Plugin

open Rust Ovpn Service Concurrent

/-- The shared flags of one `Connect` call. -/
structure Flags where
  ip4Emitted : Bool
  disconnectRequested : Bool
  failureEmitted : Bool
  deriving DecidableEq

/-- Fresh flags. -/
def Flags.fresh : Flags := ⟨false, false, false⟩

/-- `SessionState`. Its flags are those of a `Connect` call, or nobody else's. -/
structure SessionState where
  configPath : Option Path
  sessionPath : Option Path
  tasks : List (ℕ × Background)
  pendingSlots : List InputSlot
  currentData : VpnData
  currentSecrets : SecretsMap
  flags : Option ℕ

def SessionState.default : SessionState where
  configPath := none
  sessionPath := none
  tasks := []
  pendingSlots := []
  currentData := Dict.empty
  currentSecrets := Dict.empty
  flags := none

/-- The events that the history of a run consists of. They are not part of the plugin's state. -/
inductive Event where
  | teardown (value : Bool)
  | created (session : Path)
  | set (new : NmVpnServiceState) (changed : Bool)
  | sent (signal : Signal)
  | claimedIp4 (call : ℕ)
  | clearedIp4 (call : ℕ)
  | fetched (session : Path) (slots : List InputSlot)
  | took (session : Option Path)
  | provided (session : Path) (slot : InputSlot) (value : String)

/-- The program points of a task. -/
abbrev Pc : TaskId → Type
  | .connect _ => ConnectPc
  | .disconnect _ => DisconnectPc
  | .newSecrets _ => NewSecretsPc
  | .background _ .listener => ListenerPc
  | .background _ .poller => PollerPc
  | .background _ .attention => AttentionPc

/-- Where a task starts. -/
def Pc.start : (t : TaskId) → Pc t
  | .connect _ => ConnectPc.dispatched
  | .disconnect _ => DisconnectPc.dispatched
  | .newSecrets _ => NewSecretsPc.dispatched
  | .background _ .listener => ListenerPc.attach
  | .background _ .poller => PollerPc.attach
  | .background _ .attention => AttentionPc.attach

/-- Where a background task ends. -/
def Pc.exited (i : ℕ) : (b : Background) → Pc (.background i b)
  | .listener => ListenerPc.exited
  | .poller => PollerPc.exited
  | .attention => AttentionPc.exited

/-- The options of the process, and the settings that the calls are made with. -/
structure Env where
  persist : Bool
  connectSettings : ℕ → VpnData × SecretsMap
  newSettings : ℕ → VpnData × SecretsMap

/-- The plugin, its tasks, and what the backend keeps for it. A task may still have a signal to send
for the operation at its program point. -/
structure World where
  lock : Option TaskId
  teardown : Bool
  session : SessionState
  state : NmVpnServiceState
  quits : ℕ
  exited : Bool
  flags : ℕ → Flags
  sessions : List Path
  configs : List Path
  pc : (t : TaskId) → Pc t
  spawned : ℕ → Background → Option Path
  aborted : ℕ → Background → Bool
  owed : TaskId → Option Signal
  history : List (TaskId × Event)

/-- The plugin before any call. -/
def World.init : World where
  lock := none
  teardown := false
  session := .default
  state := .init
  quits := 0
  exited := false
  flags := fun _ ↦ .fresh
  sessions := []
  configs := []
  pc := Pc.start
  spawned := fun _ _ ↦ none
  aborted := fun _ _ ↦ false
  owed := fun _ ↦ none
  history := []

namespace World

variable (w : World)

/-- Record an event. -/
@[simps] def note (t : TaskId) (e : Event) : World := { w with history := (t, e) :: w.history }

@[simps] def goto (t : TaskId) (pc : Pc t) : World := { w with pc := Function.update w.pc t pc }

@[simp] theorem goto_goto (t : TaskId) (pc pc' : Pc t) :
    (w.goto t pc).goto t pc' = w.goto t pc' := by
  simp [goto]

@[simps] def owe (t : TaskId) (signal : Option Signal) : World :=
  { w with owed := Function.update w.owed t signal }

@[simps] def setFlags (i : ℕ) (f : Flags → Flags) : World :=
  { w with flags := Function.update w.flags i (f (w.flags i)) }

/-- The store to `disconnect_requested` through the flags of the session. -/
@[simps] def requestDisconnect : World :=
  { w with flags := fun i ↦ if w.session.flags = some i
      then { w.flags i with disconnectRequested := true } else w.flags i }

/-- Abort the tasks of the session. -/
@[simps] def abortTasks : World :=
  { w with aborted := fun i b ↦ w.aborted i b || decide ((i, b) ∈ w.session.tasks) }

end World

/-- What an operation does, and what the task learns from it. The reply is the one of the backend or
the bus, where there is one. -/
def exec (t : TaskId) (w : World) : Op → Answer → Option (Answer × World)
  | .acquire, _ => if w.lock = none then some (.ok, { w with lock := some t }) else none
  | .release, _ => some (.ok, { w with lock := none })
  | .setTeardown b, _ => some (.ok, { w with teardown := b }.note t (.teardown b))
  | .teardownRequested, _ => some (.flag w.teardown, w)
  | .sessionActive, _ => some (.flag w.session.sessionPath.isSome, w)
  | .importConfig, .path c => some (.path c, { w with configs := c :: w.configs })
  | .importConfig, _ => some (.err, w)
  | .newTunnel, .path p =>
    some (.path p, { w with sessions := p :: w.sessions }.note t (.created p))
  | .newTunnel, _ => some (.err, w)
  | .configRemove c, reply => some (reply, { w with configs := w.configs.erase c })
  | .sessionDisconnect p, reply => some (reply, { w with sessions := w.sessions.erase p })
  | .stash i c p data secrets, _ =>
    some (.ok, { w with session := { w.session with
      configPath := some c
      sessionPath := some p
      currentData := data
      currentSecrets := secrets
      flags := some i } })
  | .spawn i p tasks, _ =>
    some (.ok, { w with
      spawned := fun j b ↦ if j = i ∧ b ∈ tasks then some p else w.spawned j b
      session := { w.session with tasks := w.session.tasks ++ tasks.map (i, ·) } })
  | .cleanup, _ =>
    some (.taken w.session.sessionPath w.session.configPath,
      { w.requestDisconnect.abortTasks with session := { w.session with
        tasks := []
        configPath := none
        sessionPath := none
        currentData := Dict.empty
        currentSecrets := Dict.empty } })
  | .takeSession, _ =>
    some (.taken w.session.sessionPath w.session.configPath,
      { w.requestDisconnect.abortTasks with session := .default })
  | .setState new, _ =>
    if w.state = new then some (.flag false, w.note t (.set new false))
    else some (.flag true,
      ({ w with state := new }.note t (.set new true)).owe t (some (.stateChanged new)))
  | .send signal, .ok => some (.ok, w.note t (.sent signal))
  | .send _, _ => some (.err, w)
  | .emitFailureOnce i reason, _ =>
    if (w.flags i).failureEmitted then some (.flag false, w)
    else some (.flag true,
      (w.setFlags i fun f ↦ { f with failureEmitted := true }).owe t (some (.failure reason)))
  | .claimIp4 i, _ =>
    if (w.flags i).ip4Emitted then some (.flag false, w)
    else some (.flag true,
      (w.setFlags i fun f ↦ { f with ip4Emitted := true }).note t (.claimedIp4 i))
  | .clearIp4 i, _ =>
    some (.ok, (w.setFlags i fun f ↦ { f with ip4Emitted := false }).note t (.clearedIp4 i))
  | .disconnectRequested i, _ => some (.flag (w.flags i).disconnectRequested, w)
  | .fetchSlots p, .slots slots => some (.slots slots, w.note t (.fetched p slots))
  | .fetchSlots _, _ => some (.err, w)
  | .snapshot p, _ =>
    some (.snapshot w.session.currentData w.session.currentSecrets
      (decide (w.session.sessionPath = some p)), w)
  | .stashPending slots, _ =>
    some (.ok, { w with session := { w.session with pendingSlots := slots } })
  | .takePending data secrets, _ =>
    some (.pending w.session.sessionPath w.session.pendingSlots,
      { w with session := { w.session with
        currentData := if w.session.sessionPath.isSome then data else w.session.currentData
        currentSecrets :=
          if w.session.sessionPath.isSome then secrets else w.session.currentSecrets
        pendingSlots := [] } }.note t (.took w.session.sessionPath))
  | .provideInput p slot value, reply => some (reply, w.note t (.provided p slot value))
  | .quit, _ => some (.ok, { w with quits := w.quits + 1 })
  | .call, reply => some (reply, w)

/-- The operation at a task's program point, if the task is there to carry it out. -/
def program (env : Env) (w : World) : (t : TaskId) → Option (Code (Pc t))
  | .connect i =>
    ConnectPc.code i (env.connectSettings i).1 (env.connectSettings i).2 (w.pc (.connect i))
  | .disconnect i => DisconnectPc.code env.persist (w.pc (.disconnect i))
  | .newSecrets i =>
    NewSecretsPc.code (env.newSettings i).1 (env.newSettings i).2 (w.pc (.newSecrets i))
  | .background i .listener =>
    (w.spawned i .listener).bind fun _ ↦ ListenerPc.code i (w.pc (.background i .listener))
  | .background i .poller =>
    (w.spawned i .poller).bind fun _ ↦ PollerPc.code i (w.pc (.background i .poller))
  | .background i .attention =>
    (w.spawned i .attention).bind fun p ↦ AttentionPc.code i p (w.pc (.background i .attention))

/-- What happens next: a task goes on with some reply, an aborted task is cancelled, or `main`
receives a message to quit and returns. -/
inductive Action where
  | run (t : TaskId) (reply : Answer)
  | cancel (call : ℕ) (task : Background)
  | mainReturns

/-- The signal that an operation has to send once it has made its update. -/
def Op.signal : Op → Option Signal
  | .setState new => some (.stateChanged new)
  | .emitFailureOnce _ reason => some (.failure reason)
  | _ => none

/-- The emission of an owed signal, which may fail. -/
def emit (t : TaskId) (w : World) (signal : Signal) : Answer → World
  | .ok => (w.note t (.sent signal)).owe t none
  | _ => w.owe t none

/-- A task carries out its operation, or sends the signal that it owes for it. -/
def runTask (env : Env) (w : World) (t : TaskId) (reply : Answer) : Option World :=
  (program env w t).bind fun (op, next) ↦
    match w.owed t with
    | some signal =>
      if op.signal = some signal then (next (.flag true)).map ((emit t w signal reply).goto t)
      else none
    | none =>
      (exec t w op reply).bind fun (answer, w') ↦
        if (w'.owed t).isSome then some w' else (next answer).map (w'.goto t)

def step (env : Env) (w : World) : Action → Option World
  | .run t reply => if w.exited then none else runTask env w t reply
  | .cancel i b =>
    if w.exited then none
    else if w.aborted i b then
      some ((w.owe (.background i b) none).goto (.background i b) (Pc.exited i b))
    else none
  | .mainReturns => if w.exited ∨ w.quits = 0 then none else some { w with exited := true }

/-- The plugin as a machine. -/
def machine (env : Env) : Machine World Action where
  init := (· = .init)
  step := step env

/-! ## A sample run -/

/-- A process that ends with its connection, called with empty settings. -/
def sampleEnv : Env where
  persist := false
  connectSettings _ := (Dict.empty, Dict.empty)
  newSettings _ := (Dict.empty, Dict.empty)

/-- A `Connect` call that brings a session up. -/
def connectRun : List Action :=
  ([.ok, .ok, .ok, .ok, .ok, .ok, .ok, .path "/config", .ok, .path "/session", .ok, .ok, .ok, .ok,
    .ok, .ok, .ok, .ok, .ok] : List Answer).map (.run (.connect 0))

end Plugin

end NmOpenvpn3
