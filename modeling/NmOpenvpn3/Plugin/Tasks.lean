import NmOpenvpn3.Plugin.Status
import NmOpenvpn3.Service.Secrets

/-!
# The tasks of the plugin

The handlers of `Connect`, `Disconnect` and `NewSecrets` and the background tasks of a session, as
programs over the operations of the plugin. A program point gives the operation that is carried out
there and, for each answer, the point after it. The points are where a task can be interrupted by
another: at its awaits and at its accesses to shared flags.

Reading or building the profile, the overrides, the access grant and the reads of the backend have
no effect on what the tasks share. They are plain calls, of which only success and failure count.
-/

namespace NmOpenvpn3

namespace Plugin

open Ovpn Service

/-- An object path of the backend. -/
abbrev Path := String

/-! ## Operations -/

/-- The background tasks of a session. -/
inductive Background where
  | listener | poller | attention
  deriving DecidableEq

/-- A task: a call of a handler, or a background task of the session of a `Connect` call. -/
inductive TaskId where
  | connect (call : ℕ)
  | disconnect (call : ℕ)
  | newSecrets (call : ℕ)
  | background (call : ℕ) (task : Background)
  deriving DecidableEq

/-- The `Connect` call to which a task belongs. -/
def TaskId.activation : TaskId → Option ℕ
  | .connect i | .background i _ => some i
  | .disconnect _ | .newSecrets _ => none

/-- The signals to NetworkManager. -/
inductive Signal where
  | stateChanged (state : NmVpnServiceState)
  | config
  | ip4Config
  | failure (reason : NmVpnPluginFailure)
  | secretsRequired (message : String) (hints : List String)
  deriving DecidableEq

/-- What a task does at a program point. The flags of a session are those of its `Connect` call. -/
inductive Op where
  | acquire
  | release
  | setTeardown (value : Bool)
  | teardownRequested
  | sessionActive
  | importConfig
  | newTunnel
  | configRemove (config : Path)
  | sessionDisconnect (session : Path)
  | stash (call : ℕ) (config session : Path) (data : VpnData) (secrets : SecretsMap)
  | spawn (call : ℕ) (session : Path) (tasks : List Background)
  | cleanup
  | takeSession
  | setState (new : NmVpnServiceState)
  | send (signal : Signal)
  | emitFailureOnce (call : ℕ) (reason : NmVpnPluginFailure)
  | claimIp4 (call : ℕ)
  | clearIp4 (call : ℕ)
  | disconnectRequested (call : ℕ)
  | fetchSlots (session : Path)
  | snapshot (session : Path)
  | stashPending (slots : List InputSlot)
  | takePending (data : VpnData) (secrets : SecretsMap)
  | provideInput (session : Path) (slot : InputSlot) (value : String)
  | quit
  | call

/-- What a task learns from an operation. -/
inductive Answer where
  | ok
  | err
  | flag (value : Bool)
  | path (path : Path)
  | taken (session config : Option Path)
  | status (major minor : UInt32)
  | closed
  | device (name : String)
  | message (text : String)
  | slots (slots : List InputSlot)
  | snapshot (data : VpnData) (secrets : SecretsMap) (owned : Bool)
  | pending (session : Option Path) (slots : List InputSlot)

/-- A program point's operation, and the program points after it. -/
abbrev Code (β : Type) := Op × (Answer → Option β)

section Answers

variable {β : Type}

/-- Go on in any case. -/
def always (next : β) : Answer → Option β := fun _ ↦ some next

def onReply (ok err : β) : Answer → Option β
  | .ok => some ok
  | .err => some err
  | _ => none

def onFlag (yes no : β) : Answer → Option β
  | .flag true => some yes
  | .flag false => some no
  | _ => none

variable {next ok err yes no b : β} {a : Answer}

@[simp] theorem always_eq_some : always next a = some b ↔ b = next := by
  rw [always, Option.some_inj, eq_comm]

@[simp] theorem onReply_eq_some :
    onReply ok err a = some b ↔ a = .ok ∧ b = ok ∨ a = .err ∧ b = err := by
  cases a <;> simp [onReply, eq_comm]

@[simp] theorem onFlag_eq_some :
    onFlag yes no a = some b ↔ a = .flag true ∧ b = yes ∨ a = .flag false ∧ b = no := by
  cases a with
  | flag value => cases value <;> simp [onFlag, eq_comm]
  | _ => simp [onFlag]

end Answers

/-! ## `connect` -/

/-- How a `Connect` call ends. -/
inductive ConnectReply where
  | ok | aborted | failed
  deriving DecidableEq

/-- The program points of `connect`, with `do_connect` and `cleanup_session`. -/
inductive ConnectPc where
  | dispatched
  | checkActive
  | clearTeardown
  | profile
  | starting
  | preImport
  | importConfig
  | overrides (config : Path)
  | newTunnel (config : Path)
  | removeConfig (config : Path)
  | stash (config session : Path)
  | stashed (session : Path)
  | waitReady (session : Path)
  | spawnListeners (session : Path)
  | grantAccess (session : Path)
  | beforeConnect (session : Path)
  | sessionConnect (session : Path)
  | armPoller (session : Path)
  | cleanup (session : Path)
  | sessionDisconnect (session : Path) (config : Option Path)
  | retryDisconnect (session : Path) (config : Option Path)
  | removeTaken (config : Path)
  | failed
  | stopped
  | failure
  | replying (reply : ConnectReply)
  | replied (reply : ConnectReply)

/-- After the session is disconnected, the config is removed if there is one. -/
def ConnectPc.afterDisconnect : Option Path → ConnectPc
  | some c => .removeTaken c
  | none => .failed

def ConnectPc.code (i : ℕ) (data : VpnData) (secrets : SecretsMap) :
    ConnectPc → Option (Code ConnectPc)
  | .dispatched => some (.acquire, always .checkActive)
  | .checkActive => some (.sessionActive, onFlag .failed .clearTeardown)
  | .clearTeardown => some (.setTeardown false, always .profile)
  | .profile => some (.call, onReply .starting .failed)
  | .starting => some (.setState .starting, always .preImport)
  | .preImport => some (.teardownRequested, onFlag .failed .importConfig)
  | .importConfig => some (.importConfig, fun
    | .path c => some (.overrides c)
    | .err => some .failed
    | _ => none)
  | .overrides c => some (.call, always (.newTunnel c))
  | .newTunnel c => some (.newTunnel, fun
    | .path p => some (.stash c p)
    | .err => some (.removeConfig c)
    | _ => none)
  | .removeConfig c => some (.configRemove c, onReply .failed .failed)
  | .stash c p => some (.stash i c p data secrets, always (.stashed p))
  | .stashed p => some (.teardownRequested, onFlag (.cleanup p) (.waitReady p))
  | .waitReady p => some (.call, onReply (.spawnListeners p) (.cleanup p))
  | .spawnListeners p => some (.spawn i p [.listener, .attention], always (.grantAccess p))
  | .grantAccess p => some (.call, always (.beforeConnect p))
  | .beforeConnect p => some (.teardownRequested, onFlag (.cleanup p) (.sessionConnect p))
  | .sessionConnect p => some (.call, onReply (.armPoller p) (.cleanup p))
  | .armPoller p => some (.spawn i p [.poller], always (.replying .ok))
  | .cleanup p => some (.cleanup, fun
    | .taken _ c => some (.sessionDisconnect p c)
    | _ => none)
  | .sessionDisconnect p c =>
    some (.sessionDisconnect p, onReply (.afterDisconnect c) (.retryDisconnect p c))
  | .retryDisconnect p c =>
    some (.sessionDisconnect p, onReply (.afterDisconnect c) (.afterDisconnect c))
  | .removeTaken c => some (.configRemove c, onReply .failed .failed)
  -- Whether a failure is the doing of a `Disconnect` is found out by its flag.
  | .failed => some (.teardownRequested, onFlag (.replying .aborted) .stopped)
  | .stopped => some (.setState .stopped, always .failure)
  | .failure => some (.send (.failure .connectFailed), onReply (.replying .failed)
      (.replying .failed))
  | .replying r => some (.release, always (.replied r))
  | .replied _ => none

/-! ## `disconnect` -/

/-- The program points of `disconnect`. -/
inductive DisconnectPc where
  | dispatched
  | acquire
  | take
  | sessionDisconnect (session : Path) (config : Option Path)
  | retryDisconnect (session : Path) (config : Option Path)
  | removeConfig (config : Path)
  | stopped
  | quit
  | releasing
  | replied

def DisconnectPc.afterDisconnect : Option Path → DisconnectPc
  | some c => .removeConfig c
  | none => .stopped

def DisconnectPc.code (persist : Bool) : DisconnectPc → Option (Code DisconnectPc)
  | .dispatched => some (.setTeardown true, always .acquire)
  | .acquire => some (.acquire, always .take)
  | .take => some (.takeSession, fun
    | .taken (some p) c => some (.sessionDisconnect p c)
    | .taken none c => some (.afterDisconnect c)
    | _ => none)
  | .sessionDisconnect p c =>
    some (.sessionDisconnect p, onReply (.afterDisconnect c) (.retryDisconnect p c))
  | .retryDisconnect p c =>
    some (.sessionDisconnect p, onReply (.afterDisconnect c) (.afterDisconnect c))
  | .removeConfig c => some (.configRemove c, onReply .stopped .stopped)
  | .stopped => some (.setState .stopped, always (if persist then .releasing else .quit))
  | .quit => some (.quit, always .releasing)
  | .releasing => some (.release, always .replied)
  | .replied => none

/-! ## `new_secrets` -/

/-- The program points of `new_secrets`. The call ends with the number of slots it could not
serve. -/
inductive NewSecretsPc where
  | dispatched
  | check (session : Path) (slot : InputSlot) (rest : List InputSlot) (missing : ℕ)
  | provide (session : Path) (slot : InputSlot) (value : String) (rest : List InputSlot)
      (missing : ℕ)
  | provideFailed (session : Path) (rest : List InputSlot) (missing : ℕ)
  | replied (missing : ℕ)

/-- The head of the loop over the pending slots. -/
def NewSecretsPc.loop (p : Path) : List InputSlot → ℕ → NewSecretsPc
  | [], missing => .replied missing
  | slot :: rest, missing => .check p slot rest missing

def NewSecretsPc.code (data : VpnData) (secrets : SecretsMap) :
    NewSecretsPc → Option (Code NewSecretsPc)
  | .dispatched => some (.takePending data secrets, fun
    | .pending (some p) slots => some (.loop p slots 0)
    | .pending none _ => some (.replied 0)
    | _ => none)
  | .check p slot rest missing => some (.teardownRequested, onFlag (.replied 0)
      (match slotValue data secrets slot with
        | some value => .provide p slot value rest missing
        | none => .loop p rest (missing + 1)))
  | .provide p slot value rest missing =>
    some (.provideInput p slot value, onReply (.loop p rest missing)
      (.provideFailed p rest missing))
  | .provideFailed p rest missing =>
    some (.teardownRequested, onFlag (.replied 0) (.loop p rest (missing + 1)))
  | .replied _ => none

/-! ## `ip4::emit` -/

/-- The program points of `emit`: the reads, then the two signals. -/
inductive Ip4Pc where
  | reads | config | ip4Config
  deriving DecidableEq

def Ip4Pc.op : Ip4Pc → Op
  | .reads => .call
  | .config => .send .config
  | .ip4Config => .send .ip4Config

def Ip4Pc.next : Ip4Pc → Option Ip4Pc
  | .reads => some .config
  | .config => some .ip4Config
  | .ip4Config => none

/-! ## `spawn_status_listener` -/

/-- The program points of the listener. -/
inductive ListenerPc where
  | attach
  | wait
  | emitter (status : Status) (target : NmVpnServiceState)
  | claim
  | skipped
  | ip4 (at' : Ip4Pc)
  | started
  | rollback
  | rolledBack
  | badIpConfig
  | stopped (status : Status)
  | checkTeardown (status : Status)
  | failure (status : Status)
  | other (target : NmVpnServiceState)
  | exited

/-- The branches over the target of a status. -/
def ListenerPc.dispatch (st : Status) : NmVpnServiceState → ListenerPc
  | .started => .claim
  | .stopped => .stopped st
  | target => .other target

def ListenerPc.code (i : ℕ) : ListenerPc → Option (Code ListenerPc)
  | .attach => some (.call, onReply .wait .exited)
  | .wait => some (.call, fun
    | .status major minor =>
      some (match Status.fromWire major minor with
        | some st => match st.toNmState with
          | some target => .emitter st target
          | none => .wait
        | none => .wait)
    | .closed => some .exited
    | .err => some .wait
    | _ => none)
  | .emitter st target => some (.call, onReply (.dispatch st target) .wait)
  -- Whichever of the listener and the poller comes first emits the configuration.
  | .claim => some (.claimIp4 i, onFlag (.ip4 .reads) .skipped)
  | .skipped => some (.setState .started, always .wait)
  | .ip4 e => some (e.op, onReply (e.next.elim .started .ip4) .rollback)
  | .started => some (.setState .started, always .wait)
  | .rollback => some (.clearIp4 i, always .rolledBack)
  | .rolledBack => some (.setState .stopped, always .badIpConfig)
  | .badIpConfig => some (.emitFailureOnce i .badIpConfig, always .exited)
  | .stopped st => some (.setState .stopped, always (.checkTeardown st))
  | .checkTeardown st => some (.disconnectRequested i, onFlag .exited (.failure st))
  | .failure st => some (.emitFailureOnce i st.failureReason, always .exited)
  | .other target => some (.setState target, always .wait)
  | .exited => none

/-! ## `spawn_status_poller` -/

/-- The poller's own variables: its mirror of the shared flag, the polls before the start and the
failed polls after it. -/
structure Polling where
  ip4Emitted : Bool
  ticks : ℕ
  postStartedErrs : ℕ
  deriving DecidableEq

/-- Past the start the poller counts anew. -/
def Polling.started (l : Polling) : Polling := { l with ip4Emitted := true, ticks := 0 }

def maxTicksPreStarted : ℕ := 100

def postStartedErrBudget : ℕ := 6

/-- The program points of the poller. -/
inductive PollerPc where
  | attach
  | tick (l : Polling)
  | timedOut
  | timeoutStopped
  | timeoutFailure
  | status (l : Polling)
  | device (l : Polling) (status : Option Status)
  | emitter (l : Polling) (status : Option Status) (target : NmVpnServiceState)
  | claim (l : Polling)
  | ip4 (l : Polling) (at' : Ip4Pc)
  | started (l : Polling)
  | rollback
  | rolledBack
  | badIpConfig
  | stopped (status : Option Status)
  | checkTeardown (status : Option Status)
  | failure (status : Option Status)
  | other (l : Polling) (target : NmVpnServiceState)
  | lost
  | lostStopped
  | lostFailure
  | exited

/-- The head of the loop, after the sleep. -/
def PollerPc.wake (l : Polling) : PollerPc :=
  let l := { l with ticks := l.ticks + 1 }
  if !l.ip4Emitted ∧ maxTicksPreStarted ≤ l.ticks then .timedOut else .status l

/-- Without a target there is nothing to report. -/
def PollerPc.decide (l : Polling) (st : Option Status) : Option NmVpnServiceState → PollerPc
  | some target => .emitter l st target
  | none => .tick l

/-- The branches over the target of a poll. -/
def PollerPc.dispatch (l : Polling) (st : Option Status) : NmVpnServiceState → PollerPc
  | .stopped => .stopped st
  | .started => if l.ip4Emitted then .tick l else .claim l
  | target => if l.ip4Emitted then .tick l else .other l target

/-- A status that was read. Before the start the device is looked at too, unless the status is
terminal. -/
def PollerPc.read (l : Polling) (st : Option Status) : PollerPc :=
  let target := st.bind Status.toNmState
  if !l.ip4Emitted ∧ target ≠ some .stopped then .device l st else .decide l st target

/-- A status that could not be read. -/
def PollerPc.unread (l : Polling) : PollerPc :=
  if l.ip4Emitted then
    let l := { l with postStartedErrs := l.postStartedErrs + 1 }
    if l.postStartedErrs < postStartedErrBudget then .tick l else .lost
  else .tick l

/-- A device that says that the tunnel is up. -/
def isTun (name : String) : Bool := "tun".toList.isPrefixOf name.toList

def PollerPc.code (i : ℕ) : PollerPc → Option (Code PollerPc)
  | .attach => some (.call, onReply (.tick ⟨false, 0, 0⟩) .exited)
  | .tick l => some (.call, always (.wake l))
  | .timedOut => some (.call, onReply .timeoutStopped .exited)
  | .timeoutStopped => some (.setState .stopped, always .timeoutFailure)
  | .timeoutFailure => some (.emitFailureOnce i .connectFailed, always .exited)
  | .status l => some (.call, fun
    | .status major minor =>
      some (.read { l with postStartedErrs := 0 } (Status.fromWire major minor))
    | .err => some (.unread l)
    | _ => none)
  | .device l st => some (.call, fun
    | .device name =>
      some (.decide l st (if isTun name then some .started else st.bind Status.toNmState))
    | .err => some (.decide l st (st.bind Status.toNmState))
    | _ => none)
  | .emitter l st target => some (.call, onReply (.dispatch l st target) (.tick l))
  | .claim l => some (.claimIp4 i, onFlag (.ip4 l .reads) (.tick l.started))
  | .ip4 l e => some (e.op, onReply (e.next.elim (.started l) (.ip4 l)) .rollback)
  | .started l => some (.setState .started, always (.tick l.started))
  | .rollback => some (.clearIp4 i, always .rolledBack)
  | .rolledBack => some (.setState .stopped, always .badIpConfig)
  | .badIpConfig => some (.emitFailureOnce i .badIpConfig, always .exited)
  | .stopped st => some (.setState .stopped, always (.checkTeardown st))
  | .checkTeardown st => some (.disconnectRequested i, onFlag .exited (.failure st))
  | .failure st =>
    some (.emitFailureOnce i (st.elim .connectFailed Status.failureReason), always .exited)
  | .other l target => some (.setState target, always (.tick l))
  | .lost => some (.call, onReply .lostStopped .exited)
  | .lostStopped => some (.setState .stopped, always .lostFailure)
  | .lostFailure => some (.emitFailureOnce i .connectFailed, always .exited)
  | .exited => none

/-! ## `spawn_attention_listener` -/

/-- The program points of the attention listener, with `handle_attention`. -/
inductive AttentionPc where
  | attach
  | wait
  | fetch (msg : String)
  | owned (msg : String) (slots : List InputSlot)
  | provide (msg : String) (data : VpnData) (secrets : SecretsMap) (slot : InputSlot)
      (value : String) (rest needed : List InputSlot)
  | stash (msg : String) (needed : List InputSlot)
  | emitter (msg : String) (needed : List InputSlot)
  | request (msg : String) (needed : List InputSlot)
  | failed
  | failedEmitter
  | failure
  | exited

/-- The head of the loop over the slots: up to the next slot with a value. -/
def AttentionPc.loop (msg : String) (data : VpnData) (secrets : SecretsMap) :
    List InputSlot → List InputSlot → AttentionPc
  | [], needed => if needed.isEmpty then .wait else .stash msg needed
  | slot :: rest, needed =>
    match slotValue data secrets slot with
    | some value => .provide msg data secrets slot value rest needed
    | none => loop msg data secrets rest (needed ++ [slot])

def AttentionPc.code (i : ℕ) (p : Path) : AttentionPc → Option (Code AttentionPc)
  | .attach => some (.call, onReply .wait .exited)
  | .wait => some (.call, fun
    | .message msg => some (.fetch msg)
    | .closed => some .exited
    | .err => some .wait
    | _ => none)
  | .fetch msg => some (.fetchSlots p, fun
    | .slots slots => some (if slots.isEmpty then .wait else .owned msg slots)
    | .err => some .failed
    | _ => none)
  | .owned msg slots => some (.snapshot p, fun
    | .snapshot data secrets true => some (.loop msg data secrets slots [])
    | .snapshot _ _ false => some .wait
    | _ => none)
  | .provide msg data secrets slot value rest needed =>
    some (.provideInput p slot value, onReply (.loop msg data secrets rest needed) .failed)
  | .stash msg needed => some (.stashPending needed, always (.emitter msg needed))
  | .emitter msg needed => some (.call, onReply (.request msg needed) .failed)
  | .request msg needed =>
    some (.send (.secretsRequired (requestPrompt msg) (requestHints msg needed)),
      onReply .wait .failed)
  | .failed => some (.disconnectRequested i, onFlag .exited .failedEmitter)
  | .failedEmitter => some (.call, onReply .failure .exited)
  | .failure => some (.emitFailureOnce i .loginFailed, always .exited)
  | .exited => none

end Plugin

end NmOpenvpn3
