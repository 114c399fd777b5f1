import NmOpenvpn3.ImportExport.Repeated
import NmOpenvpn3.Ovpn.RoundTrip

/-!
# Import into a connection

An import stores the projection of a config as the data items of a new connection. The body of an
inline blob goes to a file, and the path of the file is a data item under the name of the blob. The
directory of these files is taken to be there, and the files to be written. The secrets of the
connection and its other settings are left out.

`connectionData_eq` says what a key holds: the file of the last blob that is stored under it, else
what the config gives for it.
-/

namespace NmOpenvpn3

namespace ImportExport

open Rust Ovpn

/-! ## The data items -/

/-- What an import finds around it: the id of the connection, which is the name of the file, the
path of the file, the directory for the bodies of inline blobs, what user name can be read from a
file of proxy credentials, and which characters are alphanumeric. -/
structure ImportEnv where
  id : String
  path : Option String
  certDir : String
  proxyUser : String → Option String
  isAlphanumeric : Char → Bool

/-- `CString::new` accepts the text: it has no NUL. -/
def isCString (s : String) : Bool := !s.toList.contains (Char.ofNat 0)

/-- FNV-1a with 32 bits, over the UTF-8 of a text. -/
def fnv1a (s : String) : UInt32 :=
  (s.toList.flatMap String.utf8EncodeChar).foldl
    (fun h b ↦ (h ^^^ b.toUInt32) * 0x01000193) 0x811c9dc5

/-- Eight hexadecimal digits. -/
def hex8 (n : UInt32) : String :=
  String.ofList ((List.range 8).reverse.map fun i ↦ Nat.digitChar (n.toNat / 16 ^ i % 16))

example : hex8 (fnv1a "vpn") = "9850decf" := by decide

namespace ImportEnv

variable (env : ImportEnv)

/-- The id with other characters than letters and digits replaced. -/
def idSafe : String :=
  String.ofList (env.id.toList.map fun c ↦ if env.isAlphanumeric c then c else '_')

/-- What tells apart ids that become the same name. -/
def idDisc : String := hex8 (fnv1a env.id)

/-- The file for the body of an inline blob. -/
def blobPath (name : String) : String :=
  env.certDir ++ "/" ++ env.idSafe ++ "-" ++ env.idDisc ++ "-" ++ name ++ ".pem"

end ImportEnv

section Items

variable (env : ImportEnv) (data : VpnData)

/-- A file of proxy credentials is replaced by the user name in it. -/
def takeProxyAuth : VpnData :=
  match data "http-proxy-auth-file" with
  | some file =>
    (data.remove "http-proxy-auth-file").setOpt "http-proxy-username" (env.proxyUser file)
  | none => data

/-- The values that can be data items. -/
def dataItems : VpnData := fun k ↦ (data k).filter isCString

/-- The data items of one inline blob. A bundle is its own authority, certificate and key. -/
def addBlob : Directive → VpnData
  | .option _ _ => data
  | .blob name _ =>
    let p := env.blobPath name
    if isCString name && isCString p then
      if name = "pkcs12" then (((data.insert name p).insert "ca" p).insert "cert" p).insert "key" p
      else data.insert name p
    else data

/-- The original file is remembered. -/
def pinProfile : VpnData :=
  data.setOpt "nm-openvpn3-profile" (env.path.filter isCString)

end Items

/-- The data items that an import leaves in the new connection. -/
def connectionData (env : ImportEnv) (c : OvpnConfig) : VpnData :=
  pinProfile env (c.directives.foldl (addBlob env) (dataItems (takeProxyAuth env (asNmData c))))

/-- `ovpn_text_to_connection`, up to the data items. -/
def ovpnTextToConnection (env : ImportEnv) (text : String) : Except String VpnData :=
  match OvpnConfig.parse text with
  | .ok c => .ok (connectionData env c)
  | .error e => .error ("parse: " ++ e)

/-! ## The files of inline blobs -/

theorem isCString_append (s t : String) : isCString (s ++ t) = (isCString s && isCString t) := by
  simp [isCString, String.toList_append, Bool.not_or]

section BlobPath

variable (env : ImportEnv)

/-- All files of one connection are in the same place. -/
theorem isCString_blobPath_iff {name name' : String} (h : isCString name = true)
    (h' : isCString name' = true) :
    isCString (env.blobPath name) = isCString (env.blobPath name') := by
  simp only [ImportEnv.blobPath, isCString_append, h, h']

theorem blobPath_inj {name name' : String} :
    env.blobPath name = env.blobPath name' ↔ name = name' := by
  constructor
  · intro h
    rwa [ImportEnv.blobPath, ImportEnv.blobPath, String.append_left_inj,
      String.append_right_inj] at h
  · rintro rfl
    rfl

theorem blobPath_ne_empty (name : String) : env.blobPath name ≠ "" := by
  rw [ImportEnv.blobPath, Ne, String.append_eq_empty_iff]
  exact fun h ↦ absurd h.2 (by decide)

/-- The file of a blob does not look like a bundle, even if it is one. -/
theorem isPkcs12Path_blobPath (name : String) : isPkcs12Path (env.blobPath name) = false := by
  have hlower : (env.blobPath name).toList.map toAsciiLowercase =
      (env.certDir ++ "/" ++ env.idSafe ++ "-" ++ env.idDisc ++ "-" ++ name).toList.map
        toAsciiLowercase ++ ['.', 'p', 'e', 'm'] := by
    rw [ImportEnv.blobPath, String.toList_append, List.map_append]
    rfl
  -- Neither extension ends like the one of the file.
  have hext : ∀ ext : List Char, ext.length = 4 → ext ≠ ['.', 'p', 'e', 'm'] →
      ext.isSuffixOf ((env.blobPath name).toList.map toAsciiLowercase) = false := by
    intro ext hlen hne
    rw [Bool.eq_false_iff, Ne, List.isSuffixOf_iff_suffix, hlower]
    rintro ⟨t, ht⟩
    exact hne (List.append_inj_right' ht hlen)
  rw [isPkcs12Path, hext _ rfl (by decide), hext _ rfl (by decide)]
  rfl

end BlobPath

/-! ## What a key holds -/

/-- Where the blob of a name is stored: under its name, and a bundle also as its parts. -/
def storesUnder (k name : String) : Bool :=
  name == k || name == "pkcs12" && ["ca", "cert", "key"].contains k

/-- The last inline blob that is stored under a key. -/
def lastBlob (k : String) (ds : List Directive) : Option String :=
  ds.reverse.findSome? fun
    | .blob name _ => if storesUnder k name then some name else none
    | .option _ _ => none

/-- What an inline blob stores under a key. -/
def blobItem (env : ImportEnv) (k : String) : Directive → Option String
  | .option _ _ => none
  | .blob name _ =>
    if (isCString name && isCString (env.blobPath name)) && storesUnder k name then
      some (env.blobPath name)
    else none

theorem addBlob_eq (env : ImportEnv) (k : String) (data : VpnData) (x : Directive) :
    addBlob env data x k = (blobItem env k x).or (data k) := by
  cases x with
  | option name args => rfl
  | blob name body =>
    rw [addBlob, blobItem]
    by_cases hc : (isCString name && isCString (env.blobPath name)) = true
    · rw [if_pos hc, hc, Bool.true_and]
      generalize env.blobPath name = p
      by_cases hname : name = "pkcs12"
      · have hs : storesUnder k name = true ↔
            k = "key" ∨ k = "cert" ∨ k = "ca" ∨ k = "pkcs12" := by
          simp only [storesUnder, hname, beq_self_eq_true, Bool.true_and, Bool.or_eq_true,
            beq_iff_eq, List.contains_iff_mem, List.mem_cons, List.not_mem_nil, or_false]
          tauto
        rw [if_pos hname, if_congr hs rfl rfl, hname]
        by_cases hkey : k = "key"
        · simp [hkey]
        by_cases hcert : k = "cert"
        · rw [Dict.insert_of_ne hkey]
          simp [hcert]
        by_cases hca : k = "ca"
        · rw [Dict.insert_of_ne hkey, Dict.insert_of_ne hcert]
          simp [hca]
        · rw [Dict.insert_of_ne hkey, Dict.insert_of_ne hcert, Dict.insert_of_ne hca]
          by_cases hself : k = "pkcs12"
          · rw [hself, Dict.insert_self, if_pos (by decide)]
            rfl
          · rw [Dict.insert_of_ne hself, if_neg (by tauto)]
            rfl
      · have hs : storesUnder k name = true ↔ k = name := by
          rw [storesUnder, beq_eq_false_iff_ne.mpr hname, Bool.false_and, Bool.or_false,
            beq_iff_eq, eq_comm]
        rw [if_neg hname, if_congr hs rfl rfl]
        by_cases hk : k = name
        · rw [if_pos hk, hk, Dict.insert_self]
          rfl
        · rw [if_neg hk, Dict.insert_of_ne hk]
          rfl
    · simp [hc]

/-- The keys that the surroundings of an import decide on. -/
def surroundingKeys : List String :=
  ["http-proxy-auth-file", "http-proxy-username", "nm-openvpn3-profile"]

theorem takeProxyAuth_of_not_mem {env : ImportEnv} {data : VpnData} {k : String}
    (hk : k ∉ surroundingKeys) : takeProxyAuth env data k = data k := by
  simp only [surroundingKeys, List.mem_cons, List.not_mem_nil, or_false, not_or] at hk
  rw [takeProxyAuth]
  cases data "http-proxy-auth-file" with
  | none => rfl
  | some file =>
    simp only
    rw [Dict.setOpt_of_ne hk.2.1, Dict.remove_of_ne hk.1]

/-- The bodies of the blobs can be stored: these have known names, and the paths of their files can
be data items. -/
structure Storable (env : ImportEnv) (ds : List Directive) : Prop where
  known : ∀ name body, .blob name body ∈ ds → name ∈ inlineBlobNames
  paths : ∀ name ∈ inlineBlobNames, isCString (env.blobPath name) = true

/-- One file that can be stored is enough. -/
theorem Storable.of_path {env : ImportEnv} {ds : List Directive} {name : String}
    (hknown : ∀ name body, .blob name body ∈ ds → name ∈ inlineBlobNames)
    (hname : name ∈ inlineBlobNames) (h : isCString (env.blobPath name) = true) :
    Storable env ds := by
  have hnames : ∀ n ∈ inlineBlobNames, isCString n = true := by decide
  refine ⟨hknown, fun n hn ↦ ?_⟩
  rwa [isCString_blobPath_iff env (hnames n hn) (hnames name hname)]

section Stored

variable {env : ImportEnv} {c : OvpnConfig} (h : Storable env c.directives) {k : String}

include h

/-- **What a key holds**: the file of the last blob that is stored under it, else what the config
gives for it. -/
theorem connectionData_eq (hk : k ∉ surroundingKeys) : connectionData env c k =
    ((lastBlob k c.directives).map env.blobPath).or ((asNmData c k).filter isCString) := by
  have hnames : ∀ n ∈ inlineBlobNames, isCString n = true := by decide
  have hfold := foldl_eq_findSome?_or (r := fun data : VpnData ↦ data k) (addBlob_eq env k)
    c.directives (dataItems (takeProxyAuth env (asNmData c)))
  have hitems : c.directives.reverse.findSome? (blobItem env k) =
      (lastBlob k c.directives).map env.blobPath := by
    rw [lastBlob, List.map_findSome?]
    refine findSome?_congr fun x hx ↦ ?_
    cases x with
    | option name args => rfl
    | blob name body =>
      have hname := h.known name body (List.mem_reverse.mp hx)
      rw [blobItem, hnames name hname, h.paths name hname, Bool.true_and, Bool.true_and]
      by_cases hs : storesUnder k name = true <;> simp [hs]
  have hpin : k ≠ "nm-openvpn3-profile" := by
    rintro rfl
    exact hk (by decide)
  rw [connectionData, pinProfile, Dict.setOpt_of_ne hpin, hfold, hitems, dataItems,
    takeProxyAuth_of_not_mem hk]

theorem lastBlob_eq_none (hk : ∀ name ∈ inlineBlobNames, storesUnder k name = false) :
    lastBlob k c.directives = none := by
  rw [lastBlob, List.findSome?_eq_none_iff]
  intro x hx
  cases x with
  | option name args => rfl
  | blob name body => simp [hk name (h.known name body (List.mem_reverse.mp hx))]

/-- The connection type is the one of the import. -/
theorem get_connectionData_connectionType :
    get (connectionData env c) "connection-type" = asNmData c "connection-type" := by
  rw [Ovpn.get, connectionData_eq h (by decide), lastBlob_eq_none h (by decide), Option.map_none,
    Option.none_or, asNmData_connectionType, inferConnectionType]
  split_ifs <;> decide

end Stored

/-- The value that the options of a config give for a key. -/
def pathGiven (k : String) (ds : List Directive) : Option String :=
  (ds.reverse.findSome? (given k)).filter fun v ↦ isCString v && v ≠ ""

/-- **What the emitters read under a key** is the file of the last blob there, else what the options
give. -/
theorem get_connectionData {env : ImportEnv} {c : OvpnConfig} (h : Storable env c.directives)
    {k : String} (hk : k ∉ surroundingKeys ++ lateKeys ++ listKeys) :
    get (connectionData env c) k =
      ((lastBlob k c.directives).map env.blobPath).or (pathGiven k c.directives) := by
  rw [List.mem_append, List.mem_append, not_or, not_or] at hk
  rw [Ovpn.get, connectionData_eq h hk.1.1, asNmData_eq_lastStored hk.1.2 hk.2, lastStored,
    funext (stored_eq_given hk.2), pathGiven]
  cases lastBlob k c.directives with
  | some name => simp [argIsSet, blobPath_ne_empty]
  | none =>
    rw [Option.map_none, Option.none_or, Option.none_or, argIsSet, Option.filter_filter]

/-- A blob that is stored under a key takes its place, but the last one stays. -/
theorem isSome_lastBlob {k name body : String} {ds : List Directive} (h : .blob name body ∈ ds)
    (hk : storesUnder k name = true) : (lastBlob k ds).isSome := by
  rw [lastBlob, List.findSome?_isSome_iff]
  exact ⟨_, List.mem_reverse.mpr h, by simp [hk]⟩

theorem lastBlob_eq_some {k name : String} {ds : List Directive} (h : lastBlob k ds = some name) :
    storesUnder k name = true := by
  obtain ⟨x, -, hx⟩ := List.exists_of_findSome?_eq_some h
  cases x with
  | option name' args => cases hx
  | blob name' body =>
    simp only at hx
    split_ifs at hx with hs
    exact Option.some_inj.mp hx ▸ hs

/-! ## Remotes -/

/-- The remotes of a config are a list that can be a data item, and it is not empty. -/
structure HasRemote (ds : List Directive) : Prop where
  some : ∃ args ∈ argsOf "remote" ds, remoteEntry args ≠ ""
  text : ∀ args ∈ argsOf "remote" ds, isCString (remoteEntry args) = true

section AppendAll

variable (sep : String) (entry : Option String) (items : List String)

theorem getD_appendAll_eq_empty_iff : (appendAll sep entry items).getD "" = "" ↔
    entry.getD "" = "" ∧ ∀ item ∈ items, item = "" := by
  induction items generalizing entry with
  | nil => simp [appendAll]
  | cons item items ih =>
    have hcons : appendEntry sep entry item = "" ↔ entry.getD "" = "" ∧ item = "" := by
      rw [appendEntry, String.append_eq_empty_iff]
      refine and_congr_left fun _ ↦ ?_
      by_cases he : entry.getD "" = ""
      · simp [he]
      · simp [he, String.append_eq_empty_iff]
    rw [appendAll, List.foldl_cons, List.forall_mem_cons, ← and_assoc, ← hcons]
    exact ih (some (appendEntry sep entry item))

theorem isCString_getD_appendAll (hsep : isCString sep = true) :
    isCString ((appendAll sep entry items).getD "") = true ↔
      isCString (entry.getD "") = true ∧ ∀ item ∈ items, isCString item = true := by
  induction items generalizing entry with
  | nil => simp [appendAll]
  | cons item items ih =>
    have hcons : isCString (appendEntry sep entry item) = true ↔
        isCString (entry.getD "") = true ∧ isCString item = true := by
      rw [appendEntry, isCString_append, Bool.and_eq_true]
      refine and_congr_left fun _ ↦ ?_
      by_cases he : entry.getD "" = ""
      · simp [he]
      · simp [he, isCString_append, hsep]
    rw [appendAll, List.foldl_cons, List.forall_mem_cons, ← and_assoc, ← hcons]
    exact ih (some (appendEntry sep entry item))

end AppendAll

/-- The connection has a remote list exactly when the config has remotes. -/
theorem exists_get_connectionData_remote {env : ImportEnv} {c : OvpnConfig}
    (h : Storable env c.directives) :
    (∃ gateways, get (connectionData env c) "remote" = some gateways) ↔
      HasRemote c.directives := by
  have hdata : asNmData c "remote" =
      appendAll "," none ((argsOf "remote" c.directives).map remoteEntry) := by
    rw [asNmData_of_not_mem (by decide), importAll_data_remote]
  have hempty := getD_appendAll_eq_empty_iff "," none
    ((argsOf "remote" c.directives).map remoteEntry)
  have htext := isCString_getD_appendAll "," none
    ((argsOf "remote" c.directives).map remoteEntry) (by decide)
  rw [Option.getD_none, List.forall_mem_map, and_iff_right rfl] at hempty
  rw [Option.getD_none, List.forall_mem_map, and_iff_right (by decide)] at htext
  rw [← Option.isSome_iff_exists, Ovpn.get, connectionData_eq h (by decide),
    lastBlob_eq_none h (by decide), Option.map_none, Option.none_or, hdata]
  cases hlist : appendAll "," none ((argsOf "remote" c.directives).map remoteEntry) with
  | none =>
    -- Without a list there is nothing but empty entries.
    rw [hlist] at hempty
    refine iff_of_false (by simp [argIsSet]) ?_
    rintro ⟨⟨args, hargs, hne⟩, -⟩
    exact hne (hempty.mp rfl args hargs)
  | some v =>
    rw [hlist, Option.getD_some] at hempty htext
    have hset : (argIsSet ((some v).filter isCString)).isSome ↔ isCString v = true ∧ v ≠ "" := by
      cases hv : isCString v <;> simp [argIsSet, hv]
    rw [hset, htext, Ne, hempty]
    simp only [not_forall, exists_prop]
    exact ⟨fun h ↦ ⟨h.2, h.1⟩, fun h ↦ ⟨h.text, h.some⟩⟩

end ImportExport

end NmOpenvpn3
