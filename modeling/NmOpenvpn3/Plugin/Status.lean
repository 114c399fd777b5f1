import Mathlib.Data.Nat.Notation

/-!
# States and statuses

The states and the failures that the plugin reports to NetworkManager, and the statuses of a session
that the backend reports to the plugin.
-/

namespace NmOpenvpn3

namespace Plugin

/-- The states of the service. -/
inductive NmVpnServiceState where
  | unknown | init | shutdown | starting | started | stopping | stopped
  deriving DecidableEq

/-- The reasons of a failure. -/
inductive NmVpnPluginFailure where
  | loginFailed | connectFailed | badIpConfig
  deriving DecidableEq

/-- What a connection can be doing. -/
inductive ConnectionMinor where
  | connecting | connected | disconnecting | disconnected | failed | authFailed | reconnecting
  | done
  deriving DecidableEq

def ConnectionMinor.fromU32 : UInt32 → Option ConnectionMinor
  | 6 => some .connecting
  | 7 => some .connected
  | 8 => some .disconnecting
  | 9 => some .disconnected
  | 10 => some .failed
  | 11 => some .authFailed
  | 12 => some .reconnecting
  | 16 => some .done
  | _ => none

/-- What a session can be doing that is acted on. -/
inductive SessionMinor where
  | authFailed
  deriving DecidableEq

def SessionMinor.fromU32 : UInt32 → Option SessionMinor
  | 11 => some .authFailed
  | _ => none

/-- A status that is acted on. -/
inductive Status where
  | connection (minor : ConnectionMinor)
  | session (minor : SessionMinor)
  deriving DecidableEq

/-- `Status::from_wire`. -/
def Status.fromWire (major minor : UInt32) : Option Status :=
  match major with
  | 2 => (ConnectionMinor.fromU32 minor).map .connection
  | 3 => (SessionMinor.fromU32 minor).map .session
  | _ => none

/-- The transition to report, if any. -/
def Status.toNmState : Status → Option NmVpnServiceState
  | .connection .connecting | .connection .reconnecting => some .starting
  | .connection .connected => some .started
  | .connection .disconnected | .connection .failed | .connection .authFailed
  | .connection .done | .session .authFailed => some .stopped
  | .connection .disconnecting => none

/-- The reason to report along with a stop. -/
def Status.failureReason : Status → NmVpnPluginFailure
  | .connection .authFailed | .session .authFailed => .loginFailed
  | _ => .connectFailed

/-- A status only ever starts or stops the service. -/
theorem Status.toNmState_eq {st : Status} {state : NmVpnServiceState}
    (h : st.toNmState = some state) :
    state = .starting ∨ state = .started ∨ state = .stopped := by
  unfold Status.toNmState at h
  split at h <;> simp_all

end Plugin

end NmOpenvpn3
