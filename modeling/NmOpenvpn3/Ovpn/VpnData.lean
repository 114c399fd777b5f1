import NmOpenvpn3.Ovpn.Values
import NmOpenvpn3.Rust.Dict

/-!
# The settings map

A connection's settings reach the program as the string map `vpn.data`. An empty value counts as
unset. Here are the map, its reader, and the values that the two emitters derive from it in the same
way: the classes of connection types and the compound values.
-/

namespace NmOpenvpn3

namespace Ovpn

open Rust

/-- A `vpn.data` map. -/
abbrev VpnData := Dict String String

/-- A value that is there and not empty. -/
def argIsSet (value : Option String) : Option String := value.filter (· ≠ "")

/-- The value of a key, if it is set. -/
def get (data : VpnData) (k : String) : Option String := argIsSet (data k)

theorem argIsSet_eq_some {value : Option String} {v : String} :
    argIsSet value = some v ↔ value = some v ∧ v ≠ "" := by
  rw [argIsSet, Option.filter_eq_some_iff, decide_eq_true_iff]

theorem get_ne_empty {data : VpnData} {k v : String} (h : get data k = some v) : v ≠ "" := by
  exact (argIsSet_eq_some.mp h).2

theorem get_eq_some {data : VpnData} {k v : String} :
    get data k = some v ↔ data k = some v ∧ v ≠ "" :=
  argIsSet_eq_some

/-! ## Connection types -/

/-- The types with a TLS context. -/
def isTlsLike (connectionType : Option String) : Bool :=
  connectionType == some "tls" || connectionType == some "password" ||
    connectionType == some "password-tls"

/-- The types that log in with a password. -/
def isPasswordLike (connectionType : Option String) : Bool :=
  connectionType == some "password" || connectionType == some "password-tls"

/-- The types with a user certificate. -/
def needsUserCert (connectionType : Option String) : Bool :=
  connectionType == some "tls" || connectionType == some "password-tls"

theorem needsUserCert_iff {ct : Option String} :
    needsUserCert ct = true ↔ ct = some "tls" ∨ ct = some "password-tls" := by
  simp [needsUserCert]

theorem isTlsLike_of_needsUserCert {ct : Option String} (h : needsUserCert ct = true) :
    isTlsLike ct = true := by
  rcases needsUserCert_iff.mp h with rfl | rfl <;> decide

/-! ## Derived values -/

/-- A key that is a switch. -/
def isYes (data : VpnData) (k : String) : Bool := get data k == some "yes"

/-- The certificate authority, for the types with a TLS context. -/
def caValue (data : VpnData) : Option String :=
  if isTlsLike (get data "connection-type") then get data "ca" else none

/-- The certificate or its key, for the types with a user certificate. -/
def userCertValue (data : VpnData) (k : String) : Option String :=
  if needsUserCert (get data "connection-type") then get data k else none

theorem userCertValue_eq_some {data : VpnData} {k p : String} :
    userCertValue data k = some p ↔
      needsUserCert (get data "connection-type") = true ∧ get data k = some p := by
  rw [userCertValue]
  by_cases h : needsUserCert (get data "connection-type") = true <;> simp [h]

/-- The internal value `no-by-default` is `no` on the wire. -/
def compLzoWire (lzo : String) : String := if lzo = "no-by-default" then "no" else lzo

/-- A `type:` prefix is a name type only when it is one of openvpn's keywords. -/
def verifyX509Args (x509 : String) : List String :=
  match splitOnce ':' x509.toList with
  | some (ty, name) =>
    if ["subject", "name", "name-prefix"].contains (String.ofList ty) then
      [String.ofList name, String.ofList ty]
    else [x509]
  | none => [x509]

/-- The device: `dev`, else `dev-type`, else what `tap-dev` says. -/
def chosenDev (data : VpnData) : String :=
  ((get data "dev").or (get data "dev-type")).getD
    (if get data "tap-dev" = some "yes" then "tap" else "tun")

/-- The transport protocol. -/
def protoValue (data : VpnData) : String :=
  if get data "proto-tcp" = some "yes" then "tcp" else "udp"

end Ovpn

end NmOpenvpn3
