import NmOpenvpn3.Files.Reading
import NmOpenvpn3.ImportExport.Connection
import NmOpenvpn3.Ovpn.RoundTrip
import NmOpenvpn3.Rust.Path

/-!
# Proxy credentials

The third argument of `http-proxy` names a file with a user name and a password. An import reads it
once, and the connection keeps the user name as a data item and the password as a secret, but not
the name of the file. A profile comes from anywhere, so only a file beside it is read, and little of
that: `imported_credentials`.
-/

namespace NmOpenvpn3

namespace ImportExport

open Rust Ovpn Files

/-- What is taken from a file of credentials. -/
structure Credentials where
  user : Option String
  password : Option String
  deriving DecidableEq

def Credentials.none : Credentials := ⟨.none, .none⟩

/-- A line without the white space around it, if something is left. -/
def trimmedLine (line : Option (List Char)) : Option String :=
  (some (String.ofList (trim (line.getD [])))).filter (· ≠ "")

/-- The first two lines of a file. A password with a NUL is not stored. -/
def credentials (text : String) : Credentials where
  user := trimmedLine (lines text.toList)[0]?
  password := (trimmedLine (lines text.toList)[1]?).filter isCString

/-- `MAX_AUTHFILE_BYTES`. -/
def maxAuthfileBytes : ℕ := 16 * 1024

/-- `read_small_regular_file`, once the reader has ended. -/
def readSmallRegularFile (path : String) (maxBytes : ℕ) (turns : List (Turn String)) :
    Option (Except ReadError String) :=
  if path = "" ∨ isCString path = false then some (.error .openFailed)
  else (readCapped decodeUtf8 maxBytes path turns).result

/-- The file that a profile in the directory names. -/
def authfilePath (dir authfile : String) : String :=
  String.ofList (join dir.toList authfile.toList)

/-- The credentials of a proxy, for a profile in the directory. -/
def proxyAuth (dir authfile : String) (turns : List (Turn String)) : Option Credentials :=
  if isBareName authfile.toList then
    (readSmallRegularFile (authfilePath dir authfile) maxAuthfileBytes turns).map fun
      | .ok text => credentials text
      | .error _ => .none
  else some .none

/-- The data items of an import and the password of its proxy. -/
def importWithProxy (env : ImportEnv) (dir : String) (c : OvpnConfig) (turns : List (Turn String)) :
    Option (VpnData × Option String) :=
  match asNmData c "http-proxy-auth-file" with
  | none => some (connectionData env c, none)
  | some authfile => (proxyAuth dir authfile turns).map fun a ↦
      (connectionData { env with proxyUser := fun _ ↦ a.user } c, a.password)

/-! ## What is read -/

/-- The text that has been read of a file in the directory. -/
structure FromBeside (dir authfile : String) (turns : List (Turn String)) (text : String) :
    Prop where
  beside : ∃ name, components (authfilePath dir authfile).toList =
    components dir.toList ++ [.normal name]
  read : ReadWhole maxAuthfileBytes (authfilePath dir authfile) turns (encodeUtf8 text)

variable {env : ImportEnv} {dir authfile text : String} {c : OvpnConfig}
  {turns : List (Turn String)} {a : Credentials} {data : VpnData} {password : Option String}

theorem readSmallRegularFile_of_ok {path : String} {cap : ℕ}
    (h : readSmallRegularFile path cap turns = some (.ok text)) :
    readCapped decodeUtf8 cap path turns = .done (.ok text) := by
  rw [readSmallRegularFile] at h
  split_ifs at h
  · cases h
  · exact ReaderPc.result_eq_some.mp h

theorem exists_readSmallRegularFile (path : String) {cap : ℕ} (hlen : cap + 4 ≤ turns.length) :
    ∃ r, readSmallRegularFile path cap turns = some r := by
  rw [readSmallRegularFile]
  split_ifs
  · exact ⟨_, rfl⟩
  · obtain ⟨r, hr⟩ : ∃ r, readCapped decodeUtf8 cap path turns = .done r :=
      exists_readCapped_eq_done hlen
    exact ⟨r, ReaderPc.result_eq_some.mpr hr⟩

theorem exists_proxyAuth (dir authfile : String) (hlen : maxAuthfileBytes + 4 ≤ turns.length) :
    ∃ a, proxyAuth dir authfile turns = some a := by
  rw [proxyAuth]
  split_ifs
  · obtain ⟨r, hr⟩ := exists_readSmallRegularFile (authfilePath dir authfile) hlen
    rw [hr]
    exact ⟨_, rfl⟩
  · exact ⟨_, rfl⟩

/-- The credentials are those of a file beside the profile, or there are none. -/
theorem proxyAuth_eq_some (h : proxyAuth dir authfile turns = some a) :
    a = .none ∨ ∃ text, FromBeside dir authfile turns text ∧ a = credentials text := by
  rw [proxyAuth] at h
  split_ifs at h with hbare
  · obtain ⟨r, hread, rfl⟩ := Option.map_eq_some_iff.mp h
    cases r with
    | error e => exact .inl rfl
    | ok text =>
      obtain ⟨name, hname⟩ := isBareName_iff.mp hbare
      obtain ⟨bytes, hdecode, hwhole⟩ :=
        readWhole_of_readCapped (readSmallRegularFile_of_ok hread)
      obtain rfl := encodeUtf8_of_decodeUtf8 hdecode
      refine .inr ⟨text, ⟨⟨name, ?_⟩, hwhole⟩, rfl⟩
      rw [authfilePath, String.toList_ofList, components_join hname]
  · exact .inl (Option.some_inj.mp h).symm

/-! ## What is kept -/

/-- Blobs have other keys. -/
theorem connectionData_of_not_stored {k : String} (hparse : OvpnConfig.parse text = .ok c)
    (hk : ∀ name ∈ inlineBlobNames, storesUnder k name = false) (hpin : k ≠ "nm-openvpn3-profile") :
    connectionData env c k = (takeProxyAuth env (asNmData c) k).filter isCString := by
  have hfold := foldl_eq_findSome?_or (r := fun data : VpnData ↦ data k) (addBlob_eq env k)
    c.directives (dataItems (takeProxyAuth env (asNmData c)))
  have hnone : c.directives.reverse.findSome? (blobItem env k) = none := by
    refine List.findSome?_eq_none_iff.mpr fun x hx ↦ ?_
    cases x with
    | option name args => rfl
    | blob name body =>
      have hread := wasRead_of_parse hparse _ (List.mem_reverse.mp hx)
      rw [blobItem, hk name hread.1, Bool.and_false]
      rfl
  rw [connectionData, pinProfile, Dict.setOpt_of_ne hpin, hfold, hnone, Option.none_or, dataItems]

/-- No option gives a user name for the proxy. -/
theorem asNmData_proxyUser (c : OvpnConfig) : asNmData c "http-proxy-username" = none := by
  have hno : armsTouching "http-proxy-username" = [] := List.isEmpty_iff.mp (by decide)
  rw [asNmData_eq_lastStored (by decide) (by decide), lastStored, List.findSome?_eq_none_iff]
  intro x hx
  cases x with
  | blob name body => rfl
  | option name args =>
    exact stored_option_eq_none (fun q hq ↦ absurd (hno ▸ hq) List.not_mem_nil) args

/-- The two keys of the credentials. -/
theorem connectionData_credentials (env : ImportEnv) (hparse : OvpnConfig.parse text = .ok c) :
    connectionData env c "http-proxy-auth-file" = none ∧
      connectionData env c "http-proxy-username" =
        ((asNmData c "http-proxy-auth-file").bind env.proxyUser).filter isCString := by
  rw [connectionData_of_not_stored hparse (by decide) (by decide),
    connectionData_of_not_stored hparse (by decide) (by decide), takeProxyAuth]
  cases hfile : asNmData c "http-proxy-auth-file" with
  | none => simp [hfile, asNmData_proxyUser]
  | some file =>
    constructor
    · simp [Dict.setOpt_of_ne, Dict.remove]
    · simp only
      rw [Dict.setOpt_self, Dict.remove_of_ne (by decide), asNmData_proxyUser, Option.or_none]
      rfl

/-- The user name that was read is stored. -/
theorem connectionData_proxyUser (env : ImportEnv) (user : Option String)
    (hparse : OvpnConfig.parse text = .ok c)
    (hfile : asNmData c "http-proxy-auth-file" = some authfile) :
    connectionData { env with proxyUser := fun _ ↦ user } c "http-proxy-username" =
      user.filter isCString := by
  rw [(connectionData_credentials _ hparse).2, hfile]
  rfl

/-- The user name is all that an import takes over from its surroundings for the proxy. -/
theorem connectionData_congr_proxyUser (env : ImportEnv) (proxyUser : String → Option String)
    (c : OvpnConfig) {k : String} (hk : k ≠ "http-proxy-username") :
    connectionData { env with proxyUser } c k = connectionData env c k := by
  have hitems : dataItems (takeProxyAuth { env with proxyUser } (asNmData c)) k =
      dataItems (takeProxyAuth env (asNmData c)) k := by
    rw [dataItems, dataItems, takeProxyAuth, takeProxyAuth]
    cases asNmData c "http-proxy-auth-file" with
    | none => rfl
    | some file => simp only [Dict.setOpt_of_ne hk]
  have hfold (env : ImportEnv) (data : VpnData) := foldl_eq_findSome?_or
    (r := fun data : VpnData ↦ data k) (addBlob_eq env k) c.directives data
  by_cases hpin : k = "nm-openvpn3-profile"
  · subst hpin
    rw [connectionData, connectionData, pinProfile, pinProfile, Dict.setOpt_self, Dict.setOpt_self,
      hfold, hfold, hitems]
    rfl
  · rw [connectionData, connectionData, pinProfile, pinProfile, Dict.setOpt_of_ne hpin,
      Dict.setOpt_of_ne hpin, hfold, hfold, hitems]
    rfl

/-- A user name or password that can be stored. -/
structure IsCredential (s : String) : Prop where
  ne : s ≠ ""
  cString : isCString s = true

theorem trimmedLine_eq_some {line : Option (List Char)} {s : String} :
    trimmedLine line = some s ↔ s ≠ "" ∧ ∃ l, line = some l ∧ trim l = s.toList := by
  rw [trimmedLine, Option.filter_eq_some_iff, Option.some_inj, ← String.toList_inj,
    String.toList_ofList, and_comm, decide_eq_true_eq]
  refine and_congr_right fun hne ↦ ?_
  cases line with
  | some l => simp
  | none =>
    -- There is no such line, and nothing is left of nothing.
    refine iff_of_false (fun h ↦ hne (String.toList_inj.mp h.symm)) (by simp)

theorem filter_trimmedLine_eq_some {line : Option (List Char)} {s : String} :
    (trimmedLine line).filter isCString = some s ↔
      IsCredential s ∧ ∃ l, line = some l ∧ trim l = s.toList := by
  rw [Option.filter_eq_some_iff, trimmedLine_eq_some]
  exact ⟨fun ⟨⟨hne, hline⟩, hc⟩ ↦ ⟨⟨hne, hc⟩, hline⟩, fun ⟨⟨hne, hc⟩, hline⟩ ↦ ⟨⟨hne, hline⟩, hc⟩⟩

theorem authfilePath_ne_empty (dir : String) (hbare : isBareName authfile.toList = true) :
    authfilePath dir authfile ≠ "" := by
  intro hempty
  obtain ⟨name, hname⟩ := isBareName_iff.mp hbare
  have hcomponents : components (join dir.toList authfile.toList) =
      components dir.toList ++ [.normal name] := components_join hname
  have hjoin : join dir.toList authfile.toList = [] := by
    rw [← String.toList_ofList (l := join _ _), ← authfilePath, hempty]
    rfl
  rw [hjoin] at hcomponents
  simp [components, partComponent] at hcomponents

/-- A file that stays as it is is read. -/
theorem readSmallRegularFile_of_steady {path : String} {cap : ℕ} (hne : path ≠ "")
    (hpath : isCString path = true) (hsteady : Steady path (encodeUtf8 text) turns)
    (hlen : (encodeUtf8 text).length ≤ cap) {r : Except ReadError String}
    (h : readSmallRegularFile path cap turns = some r) : r = .ok text := by
  rw [readSmallRegularFile, if_neg (by simp [hne, hpath]), ReaderPc.result_eq_some] at h
  rw [hsteady.readCapped_eq h, readContent, if_neg (by omega), finish, decodeUtf8_encodeUtf8]
  simp [hlen]

/-- **The credentials come from the file to the connection**, if the file stays as it is while it is
read: the user name is what is left of its first line without the white space around it, and the
password what is left of the second, where that is something that can be stored. -/
theorem credentials_arrive {content : String} (hparse : OvpnConfig.parse text = .ok c)
    (hfile : asNmData c "http-proxy-auth-file" = some authfile)
    (hbare : isBareName authfile.toList = true)
    (hpath : isCString (authfilePath dir authfile) = true)
    (hsteady : Steady (authfilePath dir authfile) (encodeUtf8 content) turns)
    (hlen : (encodeUtf8 content).length ≤ maxAuthfileBytes)
    (h : importWithProxy env dir c turns = some (data, password)) (s : String) :
    (data "http-proxy-username" = some s ↔
      IsCredential s ∧ ∃ l, (lines content.toList)[0]? = some l ∧ trim l = s.toList) ∧
    (password = some s ↔
      IsCredential s ∧ ∃ l, (lines content.toList)[1]? = some l ∧ trim l = s.toList) := by
  rw [importWithProxy, hfile] at h
  obtain ⟨a, ha, heq⟩ := Option.map_eq_some_iff.mp h
  obtain ⟨rfl, rfl⟩ := Prod.mk.inj heq
  obtain rfl : a = credentials content := by
    rw [proxyAuth, if_pos hbare] at ha
    obtain ⟨r, hread, rfl⟩ := Option.map_eq_some_iff.mp ha
    obtain rfl := readSmallRegularFile_of_steady (authfilePath_ne_empty dir hbare) hpath hsteady
      hlen hread
    rfl
  rw [connectionData_proxyUser _ _ hparse hfile]
  exact ⟨filter_trimmedLine_eq_some, filter_trimmedLine_eq_some⟩

/-! ### A file beside a profile -/

/-- A file with another kind of line ends, and white space around the password. -/
private def authText : String := "u\r\n s "

private def proxyConfig : OvpnConfig := ⟨[.option "http-proxy" ["h", "80", "f"]]⟩

private theorem parse_proxyConfig : OvpnConfig.parse "http-proxy h 80 f" = .ok proxyConfig := by
  decide

private def proxyFs : FileSystem String where
  names k := if k = "/p/f" then some (.file 0) else none
  inodes n := if n = 0 then some ⟨false, encodeUtf8 authText⟩ else none
  linked k n h := by
    split_ifs at h
    simp only [Option.some.injEq, Node.file.injEq] at h
    rw [if_pos h.symm]
    rfl

private def proxyTurns : List (Turn String) := List.replicate 4 ⟨proxyFs, 9, false⟩

private def proxyEnv : ImportEnv := ⟨"a", none, "/cert", fun _ ↦ none, fun _ ↦ true⟩

private theorem exists_importWithProxy_proxyConfig :
    ∃ data, importWithProxy proxyEnv "/p" proxyConfig proxyTurns = some (data, some "s") := by
  have hread : readCapped decodeUtf8 maxAuthfileBytes "/p/f" proxyTurns =
      .done (finish decodeUtf8 maxAuthfileBytes (encodeUtf8 authText)) := by rfl
  have hpath : authfilePath "/p" "f" = "/p/f" := by decide
  have hfile : asNmData proxyConfig "http-proxy-auth-file" = some "f" := by decide
  have hfinish : finish decodeUtf8 maxAuthfileBytes (encodeUtf8 authText) = .ok authText := by
    rw [finish, decodeUtf8_encodeUtf8]
    rfl
  have hcredentials : credentials authText = ⟨some "u", some "s"⟩ := by decide
  have hauth : proxyAuth "/p" "f" proxyTurns = some ⟨some "u", some "s"⟩ := by
    rw [proxyAuth, if_pos (by decide), hpath, readSmallRegularFile, if_neg (by decide), hread,
      hfinish]
    simp [ReaderPc.result, hcredentials]
  rw [importWithProxy, hfile]
  simp only [hauth, Option.map_some]
  exact ⟨_, rfl⟩

theorem credentials_arrive_proxyConfig : ∃ data password,
    importWithProxy proxyEnv "/p" proxyConfig proxyTurns = some (data, password) ∧
      data "http-proxy-username" = some "u" ∧ password = some "s" := by
  obtain ⟨data, h⟩ := exists_importWithProxy_proxyConfig
  have hpath : authfilePath "/p" "f" = "/p/f" := by decide
  have hsteady : Steady (authfilePath "/p" "f") (encodeUtf8 authText) proxyTurns := by
    rw [hpath]
    exact ⟨_, _, 0, rfl, rfl, fun _ ht ↦ by rw [List.eq_of_mem_replicate ht]; exact ⟨rfl, rfl⟩⟩
  have harrive := credentials_arrive parse_proxyConfig (by decide) (by decide) (by decide) hsteady
    (by decide) h
  exact ⟨data, _, h, (harrive "u").1.mpr ⟨⟨by decide, by decide⟩, ['u'], rfl, rfl⟩,
    (harrive "s").2.mpr ⟨⟨by decide, by decide⟩, [' ', 's', ' '], rfl, rfl⟩⟩

end ImportExport

end NmOpenvpn3
