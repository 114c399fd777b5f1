import NmOpenvpn3.Rust.Dict
import NmOpenvpn3.Rust.Ip

/-!
# The endpoint of a session

A session names the server that it is connected to in `last_connection`, a map, or in the
`connected_to` of older daemons, a triple or a text. `session_get_connected_to` reads whichever it
finds.
-/

namespace NmOpenvpn3

namespace Client

open Rust

/-- An entry of `last_connection`. -/
inductive Scalar where
  | str (s : String)
  | u32 (n : ℕ)
  | other

/-- What the two properties hold, as far as it is told apart. -/
inductive Property where
  | dict (map : Dict String Scalar)
  | triple (proto host : String) (port : ℕ)
  | str (s : String)
  | other

def Scalar.str? : Scalar → Option String
  | .str s => some s
  | _ => none

def Scalar.u32? : Scalar → Option ℕ
  | .u32 n => some n
  | _ => none

/-- Protocol, host and port of `last_connection`, if it is a map with a host. -/
def ofLastConnection : Property → Option (String × String × ℕ)
  | .dict map =>
    let host := (((map "ip").or (map "host")).bind Scalar.str?).getD ""
    let port := ((map "port").bind Scalar.u32?).getD 0
    let proto := ((map "protocol").bind Scalar.str?).getD ""
    if host ≠ "" then some (proto, host, port) else none
  | _ => none

/-- The text behind the last `@`. -/
def afterUser (l : List Char) : List Char := ((rsplitOnce '@' l).map Prod.snd).getD l

/-- Protocol, host and port of `connected_to`. -/
def ofConnectedTo : Property → Option (String × String × ℕ)
  | .triple proto host port => some (proto, host, port)
  | .str s =>
    let rest := afterUser s.toList
    some (((rsplitOnce ':' rest).map fun p ↦
      ("", String.ofList p.1, (parseU32 (String.ofList p.2)).getD 0)).getD
        ("", String.ofList rest, 0))
  | _ => none

/-- `session_get_connected_to`. A property that could not be read or decoded is not there. -/
def sessionGetConnectedTo (lastConnection connectedTo : Option Property) :
    Option (String × String × ℕ) :=
  (lastConnection.bind ofLastConnection).or (connectedTo.bind ofConnectedTo)

/-! ## The forms of a host -/

/-- The text names the host: alone, with a port behind it, and each of the two with a user in
front. -/
def TextNames (s : String) (host : List Char) : Prop :=
  ∃ user port : List Char, (user = [] ∨ ∃ u, user = u ++ ['@']) ∧
    (port = [] ∨ ∃ p, port = ':' :: p ∧ ':' ∉ p ∧ '@' ∉ p) ∧ s.toList = user ++ (host ++ port)

/-- The two properties name the host. An older one counts where the newer one has none. -/
inductive Names (host : String) : Option Property → Option Property → Prop
  | ip {map : Dict String Scalar} {connectedTo : Option Property}
      (h : map "ip" = some (.str host)) : Names host (some (.dict map)) connectedTo
  | host {map : Dict String Scalar} {connectedTo : Option Property}
      (hip : map "ip" = none) (h : map "host" = some (.str host)) :
      Names host (some (.dict map)) connectedTo
  | triple {lastConnection : Option Property} {proto : String} {port : ℕ}
      (hlast : lastConnection.bind ofLastConnection = none) :
      Names host lastConnection (some (.triple proto host port))
  | str {lastConnection : Option Property} {s : String}
      (hlast : lastConnection.bind ofLastConnection = none) (h : TextNames s host.toList) :
      Names host lastConnection (some (.str s))

variable {host : String}

theorem afterUser_append {user rest : List Char} (huser : user = [] ∨ ∃ u, user = u ++ ['@'])
    (hrest : '@' ∉ rest) : afterUser (user ++ rest) = rest := by
  obtain rfl | ⟨u, rfl⟩ := huser
  · rw [List.nil_append, afterUser, rsplitOnce_of_not_mem hrest]
    rfl
  · rw [List.append_assoc, List.singleton_append, afterUser, rsplitOnce_append u hrest]
    rfl

/-- The host is read from a text, unless a character of it is taken for a separator. -/
theorem ofConnectedTo_str {s : String} (h : TextNames s host.toList) (hat : '@' ∉ host.toList)
    (hcolon : ':' ∉ host.toList) : ∃ port, ofConnectedTo (.str s) = some ("", host, port) := by
  obtain ⟨user, port, huser, hport, hs⟩ := h
  have hrest : '@' ∉ host.toList ++ port := by
    obtain rfl | ⟨p, rfl, -, hp⟩ := hport
    · simpa using hat
    · simp [hat, hp]
  rw [ofConnectedTo, hs, afterUser_append huser hrest]
  obtain rfl | ⟨p, rfl, hp, -⟩ := hport
  · rw [List.append_nil, rsplitOnce_of_not_mem hcolon]
    exact ⟨0, by simp⟩
  · rw [rsplitOnce_append _ hp]
    exact ⟨(parseU32 (String.ofList p)).getD 0, by simp⟩

/-- A host that the properties name is found. -/
theorem Names.found {lastConnection connectedTo : Option Property}
    (h : Names host lastConnection connectedTo) (hne : host ≠ "") (hat : '@' ∉ host.toList)
    (hcolon : ':' ∉ host.toList) :
    ∃ proto port, sessionGetConnectedTo lastConnection connectedTo = some (proto, host, port) := by
  suffices h : ∃ p, sessionGetConnectedTo lastConnection connectedTo = some p ∧ p.2.1 = host by
    obtain ⟨⟨proto, _, port⟩, hp, rfl⟩ := h
    exact ⟨proto, port, hp⟩
  cases h with
  | ip h => simp [sessionGetConnectedTo, ofLastConnection, h, Scalar.str?, hne]
  | host hip h => simp [sessionGetConnectedTo, ofLastConnection, hip, h, Scalar.str?, hne]
  | triple hlast => simp [sessionGetConnectedTo, hlast, ofConnectedTo]
  | str hlast h =>
    obtain ⟨port, hport⟩ := ofConnectedTo_str h hat hcolon
    simp [sessionGetConnectedTo, hlast, hport]

end Client

end NmOpenvpn3
