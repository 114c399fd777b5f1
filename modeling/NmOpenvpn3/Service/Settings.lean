import NmOpenvpn3.ImportExport.Connection
import NmOpenvpn3.Rust.Decimal
import NmOpenvpn3.Service.Secrets
import Mathlib.Order.Bounds.Defs

/-!
# The settings of a connection

NetworkManager hands a connection to the service as a dictionary of dictionaries. Connect reads it
twice: `vpn_data` fails on a data item that is no text, while `split_vpn`, which takes the secrets
too, passes over it. `splitVpn_eq_of_vpnData` says that where the first goes through, the second
finds the same.

The settings also say who may see the session. `access_granted` describes the one user that gets
access, which is the first of the named users that exists, or else a guess.
-/

namespace NmOpenvpn3

namespace Service

open Rust Ovpn
open ImportExport (isCString)

/-- A value of the settings, as far as the service looks into it. A dictionary holds texts, or
values of any kind, of which `none` is one that is no text. -/
inductive SettingsValue where
  | str (s : String)
  | strs (l : List String)
  | stringDict (entries : List (String × String))
  | variantDict (entries : List (String × Option String))
  | other

/-- `Settings`. -/
abbrev Settings := Dict String (Dict String SettingsValue)

/-! ## Data and secrets -/

/-- The loop of `string_string_dict` over a dictionary of values of any kind. -/
def readStrings (out : VpnData) : List (String × Option String) → Except String VpnData
  | [] => .ok out
  | (k, some s) :: rest => readStrings (out.insert k s) rest
  | (k, none) :: _ => .error ("vpn settings value for '" ++ k ++ "' is not a string")

/-- `string_string_dict`. -/
def stringStringDict : SettingsValue → Except String VpnData
  | .stringDict entries => .ok (Dict.ofList entries)
  | .variantDict entries => readStrings Dict.empty entries
  | _ => .error "vpn settings entry is not a string→string dict"

/-- `vpn_data`. -/
def vpnData (settings : Settings) : Except String VpnData :=
  match settings "vpn" with
  | none => .error "missing 'vpn' settings group"
  | some vpn =>
    match vpn "data" with
    | none => .error "missing vpn.data dict"
    | some raw => stringStringDict raw

/-- `flatten_str_map`. -/
def flattenStrMap : SettingsValue → Option VpnData
  | .stringDict entries => some (Dict.ofList entries)
  | .variantDict entries => some (Dict.empty.setAll entries)
  | _ => none

/-- `split_vpn`. -/
def splitVpn (settings : Settings) : VpnData × SecretsMap :=
  match settings "vpn" with
  | none => (Dict.empty, Dict.empty)
  | some vpn =>
    (((vpn "data").bind flattenStrMap).getD Dict.empty,
      ((vpn "secrets").bind flattenStrMap).getD Dict.empty)

/-- What `readStrings` goes through is what `setAll` keeps. -/
theorem readStrings_eq_ok_iff {out d : VpnData} {entries : List (String × Option String)} :
    readStrings out entries = .ok d ↔ (∀ p ∈ entries, p.2 ≠ none) ∧ d = out.setAll entries := by
  induction entries generalizing out with
  | nil => simp [readStrings, eq_comm]
  | cons p entries ih =>
    obtain ⟨k, v⟩ := p
    rw [List.forall_mem_cons, Dict.setAll_cons]
    cases v with
    | none => simp [readStrings]
    | some s =>
      rw [readStrings, ih]
      simp

/-- `setAll` keeps the texts and passes over what is no text. -/
theorem setAll_empty_eq_some_iff {entries : List (String × Option String)}
    (hnd : (entries.map Prod.fst).Nodup) {k v : String} :
    (Dict.empty.setAll entries : VpnData) k = some v ↔ (k, some v) ∈ entries := by
  constructor
  · intro h
    by_cases hk : k ∈ entries.map Prod.fst
    · obtain ⟨⟨k, w⟩, hmem, rfl⟩ := List.mem_map.mp hk
      rw [Dict.setAll_of_mem hnd hmem, Dict.empty_apply, Option.or_none] at h
      exact h ▸ hmem
    · rw [Dict.setAll_of_not_mem hk, Dict.empty_apply] at h
      cases h
  · intro hmem
    rw [Dict.setAll_of_mem hnd hmem, Option.some_or]

theorem flattenStrMap_of_stringStringDict {raw : SettingsValue} {d : VpnData}
    (h : stringStringDict raw = .ok d) : flattenStrMap raw = some d := by
  cases raw with
  | stringDict entries =>
    obtain rfl := Except.ok.inj h
    rfl
  | variantDict entries => rw [flattenStrMap, (readStrings_eq_ok_iff.mp h).2]
  | str _ | strs _ | other => cases h

/-- The second reading agrees with the first. -/
theorem splitVpn_eq_of_vpnData {settings : Settings} {d : VpnData} (h : vpnData settings = .ok d) :
    (splitVpn settings).1 = d := by
  rw [vpnData] at h
  rw [splitVpn]
  cases hvpn : settings "vpn" with
  | none =>
    rw [hvpn] at h
    cases h
  | some vpn =>
    simp only [hvpn] at h ⊢
    cases hdata : vpn "data" with
    | none =>
      rw [hdata] at h
      cases h
    | some raw =>
      simp only [hdata] at h
      rw [Option.bind_some, flattenStrMap_of_stringStringDict h, Option.getD_some]

/-! ## The name -/

/-- `connection_id`. -/
def connectionId (settings : Settings) : Option String :=
  match (settings "connection").bind (· "id") with
  | some (.str s) => if s = "" then none else some s
  | _ => none

/-- The name that `do_connect` imports a profile under. -/
def configName (data : VpnData) (settings : Settings) : String :=
  ((data "connection-name").or (connectionId settings)).getD "nm-openvpn3-rust"

/-! ## The user with access -/

/-- What is in front of the first colon. -/
def firstField (l : List Char) : List Char := ((splitOnce ':' l).map Prod.fst).getD l

/-- The user that an entry of the permissions names. -/
def permissionUser (entry : String) : Option String :=
  (stripPrefix "user:".toList entry.toList).bind fun rest ↦
    if firstField rest = [] then none else some (String.ofList (firstField rest))

/-- The entries of the permissions. A connection without any is of the whole system. -/
def permissions (settings : Settings) : List String :=
  match (settings "connection").bind (· "permissions") with
  | some (.strs entries) => entries
  | _ => []

/-- `permission_users`. -/
def permissionUsers (settings : Settings) : List String :=
  (permissions settings).filterMap permissionUser

/-- What the user database says, when asked with a buffer of some size. -/
inductive PasswdReply where
  | found (uid : ℕ)
  | tooSmall
  | unknown

/-- The loop of `username_to_uid`, which doubles the buffer up to 1 MiB. -/
def lookupUid (reply : ℕ → PasswdReply) (bufsize : ℕ) (h : 0 < bufsize) : Option ℕ :=
  match reply bufsize with
  | .found uid => some uid
  | .unknown => none
  | .tooSmall => if bufsize < 1 <<< 20 then lookupUid reply (bufsize * 2) (by omega) else none
termination_by 1 <<< 20 - bufsize

/-- What the service asks the system about users: the suggested size of a buffer, the user database,
and the names in `/run/user`, which are `none` where they are no text. -/
structure UserEnv where
  suggested : ℤ
  passwd : String → ℕ → PasswdReply
  runUser : Option (List (Option String))

/-- The buffer to begin with. -/
def UserEnv.bufsize (env : UserEnv) : ℕ := if 0 < env.suggested then env.suggested.toNat else 4096

theorem UserEnv.bufsize_pos (env : UserEnv) : 0 < env.bufsize := by
  rw [bufsize]
  split_ifs <;> omega

/-- `username_to_uid`. -/
def usernameToUid (env : UserEnv) (name : String) : Option ℕ :=
  if isCString name then lookupUid (env.passwd name) env.bufsize env.bufsize_pos else none

/-- `lowest_run_user_uid`. -/
def lowestRunUserUid (env : UserEnv) : Option ℕ :=
  env.runUser.bind fun names ↦
    ((names.filterMap (·.bind parseU32)).filter (· ≠ 0)).min?

/-- The user that `do_connect` gives access to. -/
def grantUid (env : UserEnv) (settings : Settings) : Option ℕ :=
  ((permissionUsers settings).findSome? (usernameToUid env)).or (lowestRunUserUid env)

/-- An entry of the permissions for a user, with or without a reserved field behind the name. -/
def Names (entry name : String) : Prop :=
  name ≠ "" ∧ ':' ∉ name.toList ∧
    (entry = "user:" ++ name ∨ ∃ reserved, entry = "user:" ++ name ++ ":" ++ reserved)

theorem firstField_eq_iff {l n : List Char} :
    firstField l = n ↔ ':' ∉ n ∧ (l = n ∨ ∃ r, l = n ++ ':' :: r) := by
  rw [firstField]
  constructor
  · rintro rfl
    by_cases hmem : ':' ∈ l
    · obtain ⟨a, b, rfl, ha⟩ := List.eq_append_cons_of_mem hmem
      rw [splitOnce_append ha]
      exact ⟨ha, .inr ⟨b, rfl⟩⟩
    · rw [splitOnce_of_not_mem hmem]
      exact ⟨hmem, .inl rfl⟩
  · rintro ⟨hn, rfl | ⟨r, rfl⟩⟩
    · rw [splitOnce_of_not_mem hn]
      rfl
    · rw [splitOnce_append hn]
      rfl

theorem permissionUser_eq_some {entry name : String} :
    permissionUser entry = some name ↔ Names entry name := by
  have hname {l : List Char} : ¬firstField l = [] ∧ String.ofList (firstField l) = name ↔
      name ≠ "" ∧ firstField l = name.toList := by
    rw [← String.toList_inj, String.toList_ofList]
    refine and_congr_left fun heq ↦ ?_
    rw [heq, ne_eq, String.toList_eq_nil_iff]
  simp only [permissionUser, Option.bind_eq_some_iff, stripPrefix_eq_some,
    Option.ite_none_left_eq_some, Option.some_inj, hname]
  simp only [firstField_eq_iff, Names]
  constructor
  · rintro ⟨rest, hentry, hne, hcolon, hrest⟩
    refine ⟨hne, hcolon, ?_⟩
    obtain rfl | ⟨r, rfl⟩ := hrest
    · exact .inl (by simp [← String.toList_inj, hentry])
    · exact .inr ⟨String.ofList r, by simp [← String.toList_inj, hentry]⟩
  · rintro ⟨hne, hcolon, rfl | ⟨reserved, rfl⟩⟩
    · exact ⟨name.toList, by simp, hne, hcolon, .inl rfl⟩
    · exact ⟨name.toList ++ ':' :: reserved.toList, by simp, hne, hcolon, .inr ⟨_, rfl⟩⟩

/-- The loop finds a user in its `k`-th round. -/
def FoundAt (reply : ℕ → PasswdReply) (bufsize uid k : ℕ) : Prop :=
  reply (bufsize * 2 ^ k) = .found uid ∧
    ∀ j < k, reply (bufsize * 2 ^ j) = .tooSmall ∧ bufsize * 2 ^ j < 1 <<< 20

theorem foundAt_succ {reply : ℕ → PasswdReply} {bufsize uid k : ℕ} :
    FoundAt reply bufsize uid (k + 1) ↔
      (reply bufsize = .tooSmall ∧ bufsize < 1 <<< 20) ∧ FoundAt reply (bufsize * 2) uid k := by
  have hshift (j : ℕ) : bufsize * 2 ^ (j + 1) = bufsize * 2 * 2 ^ j := by
    rw [Nat.pow_succ', Nat.mul_assoc]
  simp only [FoundAt, Nat.forall_lt_succ_left, hshift, Nat.pow_zero, Nat.mul_one]
  exact and_left_comm

theorem exists_foundAt {reply : ℕ → PasswdReply} {bufsize uid : ℕ} :
    (∃ k, FoundAt reply bufsize uid k) ↔ reply bufsize = .found uid ∨
      (reply bufsize = .tooSmall ∧ bufsize < 1 <<< 20) ∧
        ∃ k, FoundAt reply (bufsize * 2) uid k := by
  have hzero : FoundAt reply bufsize uid 0 ↔ reply bufsize = .found uid := by simp [FoundAt]
  rw [← Nat.or_exists_add_one, hzero]
  simp only [foundAt_succ, exists_and_left]

theorem lookupUid_eq_some {reply : ℕ → PasswdReply} {bufsize uid : ℕ} (h : 0 < bufsize) :
    lookupUid reply bufsize h = some uid ↔ ∃ k, FoundAt reply bufsize uid k := by
  induction bufsize, h using lookupUid.induct reply with
  | case1 bufsize h uid' hreply =>
    rw [lookupUid, exists_foundAt]
    simp [hreply]
  | case2 bufsize h hreply =>
    rw [lookupUid, exists_foundAt]
    simp [hreply]
  | case3 bufsize h hreply hsize ih =>
    rw [lookupUid, exists_foundAt, hreply, ← ih]
    simp only [hsize, if_true]
    simp
  | case4 bufsize h hreply hsize =>
    rw [lookupUid, exists_foundAt, hreply]
    simp only [hsize, if_false]
    simp

/-- The user database has an entry for a name, in a buffer that the loop gets to. -/
def Resolves (env : UserEnv) (name : String) (uid : ℕ) : Prop :=
  isCString name = true ∧ ∃ k, FoundAt (env.passwd name) env.bufsize uid k

theorem usernameToUid_eq_some {env : UserEnv} {name : String} {uid : ℕ} :
    usernameToUid env name = some uid ↔ Resolves env name uid := by
  rw [usernameToUid, Option.ite_none_right_eq_some, lookupUid_eq_some, Resolves]

theorem lowestRunUserUid_eq_some {env : UserEnv} {uid : ℕ} :
    lowestRunUserUid env = some uid ↔ ∃ names, env.runUser = some names ∧
      IsLeast {n | n ≠ 0 ∧ ∃ name, some name ∈ names ∧ parseU32 name = some n} uid := by
  rw [lowestRunUserUid, Option.bind_eq_some_iff]
  refine exists_congr fun names ↦ and_congr_right fun _ ↦ ?_
  have hmem {n : ℕ} : n ∈ (names.filterMap (·.bind parseU32)).filter (· ≠ 0) ↔
      n ≠ 0 ∧ ∃ name, some name ∈ names ∧ parseU32 name = some n := by
    rw [List.mem_filter, List.mem_filterMap, decide_eq_true_eq, and_comm]
    refine and_congr_right fun _ ↦ ⟨?_, ?_⟩
    · rintro ⟨o, ho, hn⟩
      obtain ⟨name, rfl, hname⟩ := Option.bind_eq_some_iff.mp hn
      exact ⟨name, ho, hname⟩
    · rintro ⟨name, ho, hname⟩
      exact ⟨some name, ho, hname⟩
  rw [List.min?_eq_some_iff, IsLeast, hmem]
  exact and_congr_right fun _ ↦ forall_congr' fun n ↦ by rw [hmem]; rfl

theorem bind_permissionUser_eq_some {env : UserEnv} {entry : String} {uid : ℕ} :
    (permissionUser entry).bind (usernameToUid env) = some uid ↔
      ∃ name, Names entry name ∧ Resolves env name uid := by
  simp only [Option.bind_eq_some_iff, permissionUser_eq_some, usernameToUid_eq_some]

/-- **One user gets access.** It is the user of the first entry of the permissions that names an
existing user. Only if there is no such entry, it is the lowest that is logged in, if any, and never
root. -/
theorem access_granted {env : UserEnv} {settings : Settings} {uid : ℕ} :
    grantUid env settings = some uid ↔
      (∃ pre entry post, permissions settings = pre ++ entry :: post ∧
        (∃ name, Names entry name ∧ Resolves env name uid) ∧
        ∀ e ∈ pre, ∀ name u, Names e name → ¬Resolves env name u) ∨
      (∀ e ∈ permissions settings, ∀ name u, Names e name → ¬Resolves env name u) ∧
        ∃ names, env.runUser = some names ∧
          IsLeast {n | n ≠ 0 ∧ ∃ name, some name ∈ names ∧ parseU32 name = some n} uid := by
  have hnone {e : String} : (permissionUser e).bind (usernameToUid env) = none ↔
      ∀ name u, Names e name → ¬Resolves env name u := by
    simp only [Option.eq_none_iff_forall_ne_some, ne_eq, bind_permissionUser_eq_some, not_exists,
      not_and]
    exact forall_comm
  rw [grantUid, permissionUsers, ← List.head?_filterMap, List.filterMap_filterMap,
    List.head?_filterMap, Option.or_eq_some_iff,
    List.findSome?_eq_some_iff, List.findSome?_eq_none_iff, lowestRunUserUid_eq_some]
  simp only [hnone, bind_permissionUser_eq_some]

end Service

end NmOpenvpn3
