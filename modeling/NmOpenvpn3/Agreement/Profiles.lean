import NmOpenvpn3.Agreement.Emitters
import NmOpenvpn3.Files.Reading
import NmOpenvpn3.ImportExport.Connection
import NmOpenvpn3.ImportExport.Writers
import NmOpenvpn3.Ovpn.Concat

/-!
# Pinned profiles

An import remembers the file that it read. Connect hands this file to the backend as it is then, and
an export copies it; only a connection without such a file is activated from its data items. The
export falls back to the data items where the file cannot be read, and Connect does not.

The file is read in calls, between which anybody may do anything to the names and the files. So the
functions here take the list of what their calls meet with, and return nothing as long as it is too
short.
-/

namespace NmOpenvpn3

namespace Agreement

open Rust Ovpn ImportExport Service Files

/-! ## The three users of a pinned file -/

/-- `MAX_PROFILE_BYTES`, `MAX_IMPORT_BYTES`. -/
def maxProfileBytes : ℕ := 1 <<< 20

/-- The text of a file, once the reader has ended. Some paths are refused before any call. -/
def readProfile (path : String) (turns : List (Turn String)) : Option (Except ReadError String) :=
  if path = "" ∨ isCString path = false then some (.error .openFailed)
  else (readCapped decodeUtf8 maxProfileBytes path turns).result

/-- Why Connect has no profile. -/
inductive ProfileError where
  | unreadable (e : ReadError)
  | build (e : String)

/-- What `do_connect` hands to the backend: the pinned file, or else what is made of the data
items. -/
def connectProfile (data : VpnData) (turns : List (Turn String)) :
    Option (Except ProfileError String) :=
  match data "nm-openvpn3-profile" with
  | some path => (readProfile path turns).map (·.mapError .unreadable)
  | none => some ((buildProfileString data).mapError .build)

/-- What an export says in front of what is made of the data items. -/
def exportComments : List String :=
  [" Exported by NetworkManager-openvpn3 from vpn.data — modern",
    " openvpn3 options stored only in the original .ovpn (tls-crypt-v2,",
    " peer-fingerprint, inline blobs) cannot be reconstructed and are",
    " NOT included in this file."]

/-- The export of a connection without a readable file. -/
def structuredText (data : VpnData) : String := withComments exportComments (fromNmData data).emit

/-- `connection_to_ovpn_text`. -/
def connectionToOvpnText (data : VpnData) (turns : List (Turn String)) : Option String :=
  match data "nm-openvpn3-profile" with
  | some path =>
    if path = "" then some (structuredText data)
    else (readProfile path turns).map fun
      | .ok text => text
      | .error _ => structuredText data
  | none => some (structuredText data)

/-- Why nothing is imported. -/
inductive ImportError where
  | unreadable (e : ReadError)
  | rejected (e : String)

/-- `iface_import_from_file`, up to the data items of the new connection. -/
def importFromFile (env : ImportEnv) (path : String) (turns : List (Turn String)) :
    Option (Except ImportError VpnData) :=
  (readProfile path turns).map fun
    | .error e => .error (.unreadable e)
    | .ok text => (ovpnTextToConnection { env with path := some path } text).mapError .rejected

/-! ## The header -/

theorem head?_escapeArg (w : List Char) : ∃ ch, (escapeArg w).head? = some ch ∧ ch ≠ bom := by
  rw [escapeArg]
  split_ifs with hempty hbenign hquote
  · exact ⟨_, rfl, by decide⟩
  · cases w with
    | nil => simp at hempty
    | cons ch w =>
      rw [List.all_cons, Bool.and_eq_true] at hbenign
      refine ⟨ch, rfl, ?_⟩
      rintro rfl
      exact absurd hbenign.1 (by decide)
  · exact ⟨_, rfl, by decide⟩
  · exact ⟨_, rfl, by decide⟩

/-- What is emitted does not begin with a byte order mark. -/
theorem head?_emit_ne_bom (c : OvpnConfig) : c.emit.toList.head? ≠ some bom := by
  obtain ⟨ds⟩ := c
  rw [OvpnConfig.emit, String.toList_ofList]
  cases ds with
  | nil => simp
  | cons d ds =>
    cases d with
    | blob name body => simp [Directive.emit, bom]
    | option name args =>
      obtain ⟨ch, hch, hne⟩ := head?_escapeArg name.toList
      obtain ⟨rest, hrest⟩ := List.head?_eq_some_iff.mp hch
      have hline : ∃ rest', wordsLine (name :: args) = ch :: rest' := by
        cases args with
        | nil => exact ⟨rest, by rw [wordsLine_singleton, hrest]⟩
        | cons arg args => exact ⟨_, by rw [wordsLine_cons_cons, hrest, List.cons_append]⟩
      obtain ⟨rest', hrest'⟩ := hline
      rw [List.flatMap_cons, Directive.emit, hrest']
      simpa using hne

/-- The parser does not see the header. -/
theorem parse_structuredText {data : VpnData} {c : OvpnConfig} :
    OvpnConfig.parse (structuredText data) = .ok c ↔
      OvpnConfig.parse (fromNmData data).emit = .ok c :=
  parse_withComments (by decide +kernel) (head?_emit_ne_bom _) c

/-! ## What is read -/

/-- The text that has been read of a profile. -/
def FromFile (path : String) (turns : List (Turn String)) (text : String) : Prop :=
  ReadWhole maxProfileBytes path turns (encodeUtf8 text)

variable {path text : String} {turns turns' : List (Turn String)} {data : VpnData}

theorem readProfile_of_ok (h : readProfile path turns = some (.ok text)) :
    path ≠ "" ∧ isCString path = true ∧
      readCapped decodeUtf8 maxProfileBytes path turns = .done (.ok text) := by
  rw [readProfile] at h
  split_ifs at h with hpath
  · cases h
  · rw [not_or, Bool.not_eq_false] at hpath
    exact ⟨hpath.1, hpath.2, ReaderPc.result_eq_some.mp h⟩

theorem fromFile_of_readProfile (h : readProfile path turns = some (.ok text)) :
    FromFile path turns text := by
  obtain ⟨-, -, hread⟩ := readProfile_of_ok h
  obtain ⟨bytes, hdecode, hwhole⟩ := readWhole_of_readCapped hread
  rwa [FromFile, encodeUtf8_of_decodeUtf8 hdecode]

theorem isSome_readProfile (hlen : maxProfileBytes + 4 ≤ turns.length) :
    (readProfile path turns).isSome := by
  rw [readProfile]
  split_ifs
  · rfl
  · obtain ⟨r, hr⟩ : ∃ r, readCapped decodeUtf8 maxProfileBytes path turns = .done r :=
      exists_readCapped_eq_done hlen
    rw [hr]
    rfl

/-- Connect hands just what it reads of a pinned file to the backend. -/
theorem connectProfile_eq_ok_iff {profile : String}
    (hpin : data "nm-openvpn3-profile" = some path) :
    connectProfile data turns = some (.ok profile) ↔
      readProfile path turns = some (.ok profile) := by
  rw [connectProfile, hpin]
  simp only
  cases readProfile path turns with
  | none => simp
  | some r => cases r <;> simp [Except.mapError]

/-- **No profile takes long to read, and none is large**, whatever anybody does to the files
meanwhile. Connect, an export and an import end after as many calls as the bound says, and the text
that they take of a file is what their calls have read of a regular file, to its end and within the
bound. -/
theorem profiles_bounded (data : VpnData) (turns : List (Turn String)) :
    (maxProfileBytes + 4 ≤ turns.length → (connectProfile data turns).isSome ∧
      (connectionToOvpnText data turns).isSome ∧
        ∀ env path, (importFromFile env path turns).isSome) ∧
    (∀ path, data "nm-openvpn3-profile" = some path →
      (∀ profile, connectProfile data turns = some (.ok profile) → FromFile path turns profile) ∧
      ∀ text, connectionToOvpnText data turns = some text →
        text = structuredText data ∨ FromFile path turns text) ∧
    ∀ env path data', importFromFile env path turns = some (.ok data') → ∃ text,
      FromFile path turns text ∧
        ovpnTextToConnection { env with path := some path } text = .ok data' := by
  refine ⟨fun hlen ↦ ⟨?_, ?_, fun env path ↦ ?_⟩, fun path hpin ↦ ⟨fun profile h ↦ ?_,
    fun text h ↦ ?_⟩, fun env path data' h ↦ ?_⟩
  · rw [connectProfile]
    split
    · rw [Option.isSome_map]
      exact isSome_readProfile hlen
    · rfl
  · rw [connectionToOvpnText]
    split
    · split_ifs
      · rfl
      · rw [Option.isSome_map]
        exact isSome_readProfile hlen
    · rfl
  · rw [importFromFile, Option.isSome_map]
    exact isSome_readProfile hlen
  · exact fromFile_of_readProfile ((connectProfile_eq_ok_iff hpin).mp h)
  · rw [connectionToOvpnText, hpin] at h
    simp only at h
    split_ifs at h with hempty
    · exact .inl (Option.some_inj.mp h).symm
    · obtain ⟨r, hr, htext⟩ := Option.map_eq_some_iff.mp h
      cases r with
      | error e => exact .inl htext.symm
      | ok text' =>
        cases htext
        exact .inr (fromFile_of_readProfile hr)
  · obtain ⟨r, hr, hdata⟩ := Option.map_eq_some_iff.mp h
    cases r with
    | error e => cases hdata
    | ok text =>
      refine ⟨text, fromFile_of_readProfile hr, ?_⟩
      simp only at hdata
      cases hconn : ovpnTextToConnection { env with path := some path } text with
      | error e =>
        rw [hconn] at hdata
        cases hdata
      | ok d =>
        rw [hconn] at hdata
        cases hdata
        rfl

/-! ### A pinned file -/

private def pinnedText : String := "remote a 1194\n"

private def pinnedFs : FileSystem String where
  names k := if k = "/home/a.ovpn" then some (.file 0) else none
  inodes n := if n = 0 then some ⟨false, encodeUtf8 pinnedText⟩ else none
  linked k n h := by
    split_ifs at h
    simp only [Option.some.injEq, Node.file.injEq] at h
    rw [if_pos h.symm]
    rfl

private def pinnedTurns : List (Turn String) := List.replicate 4 ⟨pinnedFs, 99, false⟩

private theorem steady_pinned : Steady "/home/a.ovpn" (encodeUtf8 pinnedText) pinnedTurns :=
  ⟨_, _, 0, rfl, rfl, fun _ ht ↦ by rw [List.eq_of_mem_replicate ht]; exact ⟨rfl, rfl⟩⟩

private theorem readProfile_pinned :
    readProfile "/home/a.ovpn" pinnedTurns = some (.ok pinnedText) := by
  rw [readProfile, if_neg (by decide), ReaderPc.result_eq_some]
  have hread : readCapped decodeUtf8 maxProfileBytes "/home/a.ovpn" pinnedTurns =
      .done (finish decodeUtf8 maxProfileBytes (encodeUtf8 pinnedText)) := by rfl
  rw [hread, finish, decodeUtf8_encodeUtf8]
  rfl

private def pinnedData : VpnData :=
  Dict.ofList [("remote", "b"), ("nm-openvpn3-profile", "/home/a.ovpn")]

private theorem connectProfile_pinned :
    connectProfile pinnedData pinnedTurns = some (.ok pinnedText) :=
  (connectProfile_eq_ok_iff (by decide)).mpr readProfile_pinned

theorem profiles_bounded_pinned : FromFile "/home/a.ovpn" pinnedTurns pinnedText :=
  ((profiles_bounded pinnedData pinnedTurns).2.1 "/home/a.ovpn" (by decide)).1 pinnedText
    connectProfile_pinned

/-! ## Activation and export -/

/-- A file that does not change is read twice as the same. -/
theorem readProfile_steady {bytes : List UInt8} (hsteady : Steady path bytes turns)
    (hsteady' : Steady path bytes turns') {r r' : Except ReadError String}
    (h : readProfile path turns = some r) (h' : readProfile path turns' = some r') : r' = r := by
  rw [readProfile] at h h'
  split_ifs at h h'
  · cases h
    cases h'
    rfl
  · rw [ReaderPc.result_eq_some] at h h'
    exact (hsteady'.readCapped_eq h').trans (hsteady.readCapped_eq h).symm

theorem agree_structuredText {profile : String}
    (h : Agree profile (fromNmData data).emit) : Agree profile (structuredText data) := by
  obtain ⟨hleft, ⟨e, he⟩⟩ | ⟨ds, ds', hds, hds', hperm⟩ := h
  · refine .inl ⟨hleft, ?_⟩
    cases hparse : OvpnConfig.parse (structuredText data) with
    | error e' => exact ⟨e', hparse⟩
    | ok c =>
      rw [parse_structuredText.mp hparse] at he
      cases he
  · exact .inr ⟨ds, ds', hds, parse_structuredText.mpr hds', hperm⟩

/-- **An export describes what is activated.** A pinned file that stays as it is is exported as the
very text that Connect hands to the backend. Without one the parser reads the same directives from
the export and from that text, or rejects both, under the condition that the two emitters have. -/
theorem export_of_activation {profile text : String}
    (hpin : ∀ path, data "nm-openvpn3-profile" = some path →
      ∃ bytes, Steady path bytes turns ∧ Steady path bytes turns')
    (hconnect : connectProfile data turns = some (.ok profile))
    (hexport : connectionToOvpnText data turns' = some text) :
    ((data "nm-openvpn3-profile").isSome → text = profile) ∧
      (data "nm-openvpn3-profile" = none → ¬Pkcs12Edge data → IntsKept data →
        Agree profile text) := by
  rw [connectProfile] at hconnect
  rw [connectionToOvpnText] at hexport
  cases hdata : data "nm-openvpn3-profile" with
  | some path =>
    refine ⟨fun _ ↦ ?_, fun hnone ↦ by cases hnone⟩
    rw [hdata] at hconnect hexport
    obtain ⟨r, hr, hprofile⟩ := Option.map_eq_some_iff.mp hconnect
    cases r with
    | error e => cases hprofile
    | ok profile' =>
      cases hprofile
      simp only [(readProfile_of_ok hr).1, if_false] at hexport
      obtain ⟨r', hr', htext⟩ := Option.map_eq_some_iff.mp hexport
      obtain ⟨bytes, hsteady, hsteady'⟩ := hpin path hdata
      rw [readProfile_steady hsteady hsteady' hr hr'] at htext
      exact htext.symm
  | none =>
    refine ⟨fun hsome ↦ absurd hsome Bool.false_ne_true, fun _ hedge hint ↦ ?_⟩
    rw [hdata] at hconnect hexport
    obtain rfl := Option.some_inj.mp hexport
    simp only [Option.some_inj] at hconnect
    cases hcalls : writerCalls data with
    | error e =>
      rw [buildProfileString, hcalls] at hconnect
      cases hconnect
    | ok calls =>
      rw [buildProfileString, hcalls] at hconnect
      cases hconnect
      exact agree_structuredText (agree_of_perm ((directives_perm_iff hcalls).mpr ⟨hedge, hint⟩)
        (parse_writeAll hcalls) (parse_emit (isOrdinary_fromNmData data)))

/-- A connection without a pinned file. -/
private def unpinnedData : VpnData := Dict.ofList [("remote", "b"), ("ping", "10")]

private theorem intsKept_unpinnedData : IntsKept unpinnedData where
  keys k _ v hv := by
    have hping : k = "ping" := by
      by_contra hne
      by_cases hremote : k = "remote"
      · subst hremote
        simp_all [intKeys]
      · have hnone : unpinnedData k = none := by
          simp [unpinnedData, Dict.ofList, Dict.insert_of_ne, hne, hremote]
        rw [get_eq_some, hnone] at hv
        cases hv.1
    subst hping
    obtain rfl : "10" = v := Option.some_inj.mp hv
    decide
  mssfix v hv := by cases hv

/-- The data items of a pinned connection do not count, and those of another do. -/
theorem export_of_activation_pinned :
    connectionToOvpnText pinnedData pinnedTurns = some pinnedText ∧
      ∃ profile text, connectProfile unpinnedData [] = some (.ok profile) ∧
        connectionToOvpnText unpinnedData [] = some text ∧ Agree profile text := by
  constructor
  · have hpin : pinnedData "nm-openvpn3-profile" = some "/home/a.ovpn" := by decide
    obtain ⟨text, htext⟩ : ∃ text, connectionToOvpnText pinnedData pinnedTurns = some text := by
      rw [connectionToOvpnText, hpin]
      simp only [readProfile_pinned]
      exact ⟨_, rfl⟩
    have hsteady : ∀ path, pinnedData "nm-openvpn3-profile" = some path →
        ∃ bytes, Steady path bytes pinnedTurns ∧ Steady path bytes pinnedTurns := by
      intro path h
      obtain rfl := Option.some_inj.mp (hpin.symm.trans h)
      exact ⟨_, steady_pinned, steady_pinned⟩
    rw [htext, (export_of_activation hsteady connectProfile_pinned htext).1 (by rw [hpin]; rfl)]
  · have hpin : unpinnedData "nm-openvpn3-profile" = none := by decide
    obtain ⟨calls, hcalls, -⟩ := writerCalls_of_remote
      (show get unpinnedData "remote" = some "b" by decide)
    have hconnect : connectProfile unpinnedData [] = some (.ok (writeAll calls)) := by
      rw [connectProfile, hpin]
      simp only [buildProfileString, hcalls]
      rfl
    have hexport : connectionToOvpnText unpinnedData [] = some (structuredText unpinnedData) := by
      rw [connectionToOvpnText, hpin]
    have hsteady : ∀ path, unpinnedData "nm-openvpn3-profile" = some path →
        ∃ bytes, Steady path bytes [] ∧ Steady path bytes [] := by simp [hpin]
    refine ⟨_, _, hconnect, hexport, (export_of_activation hsteady hconnect hexport).2 hpin ?_
      intsKept_unpinnedData⟩
    rintro ⟨-, p, hcert, -⟩
    cases hcert

/-! ## Import, activation and export -/

/-- An import pins the connection to its file. -/
theorem pinned_of_importFromFile {env : ImportEnv}
    (h : importFromFile env path turns = some (.ok data)) :
    data "nm-openvpn3-profile" = some path ∧ ∃ text c, readProfile path turns = some (.ok text) ∧
      OvpnConfig.parse text = .ok c := by
  obtain ⟨r, hr, hdata⟩ := Option.map_eq_some_iff.mp h
  cases r with
  | error e => cases hdata
  | ok text =>
    simp only [ovpnTextToConnection] at hdata
    cases hparse : OvpnConfig.parse text with
    | error e =>
      rw [hparse] at hdata
      cases hdata
    | ok c =>
      rw [hparse] at hdata
      cases hdata
      refine ⟨?_, text, c, hr, hparse⟩
      rw [connectionData, pinProfile]
      simp [Option.filter, (readProfile_of_ok hr).2.1]

/-- **An imported profile is activated and exported verbatim**, as its file is by then. Connect
hands what it reads of the file to the backend, and never the data items in its place: where the
file cannot be read, Connect fails, while the export falls back to them. And if the file is as it
was when it was imported, Connect and the export give the text that was imported. -/
theorem imported_profile {env : ImportEnv} (h : importFromFile env path turns = some (.ok data))
    (turns' : List (Turn String)) :
    (∀ profile, connectProfile data turns' = some (.ok profile) →
      readProfile path turns' = some (.ok profile)) ∧
    (∀ text, readProfile path turns' = some (.ok text) → FromFile path turns' text ∧
      connectProfile data turns' = some (.ok text) ∧
        connectionToOvpnText data turns' = some text) ∧
    (∀ e, readProfile path turns' = some (.error e) →
      connectProfile data turns' = some (.error (.unreadable e)) ∧
        connectionToOvpnText data turns' = some (structuredText data)) ∧
    ∀ bytes, Steady path bytes turns → Steady path bytes turns' → ∃ text,
      encodeUtf8 text = bytes ∧ (∃ c, OvpnConfig.parse text = .ok c) ∧
        (∀ r, connectProfile data turns' = some r → r = .ok text) ∧
          ∀ text', connectionToOvpnText data turns' = some text' → text' = text := by
  obtain ⟨hpin, text, c, hread, hparse⟩ := pinned_of_importFromFile h
  obtain ⟨hpath, -, hcapped⟩ := readProfile_of_ok hread
  refine ⟨fun profile ↦ (connectProfile_eq_ok_iff hpin).mp,
    fun text htext ↦ ⟨fromFile_of_readProfile htext, (connectProfile_eq_ok_iff hpin).mpr htext, ?_⟩,
    fun e he ↦ ?_,
    fun bytes hsteady hsteady' ↦ ⟨text, ?_, ⟨c, hparse⟩, fun r hr ↦ ?_, fun text' htext ↦ ?_⟩⟩
  · rw [connectionToOvpnText, hpin]
    simp only [htext, Option.map_some, if_neg hpath]
  · rw [connectProfile, connectionToOvpnText, hpin]
    simp only [he, Option.map_some, if_neg hpath]
    exact ⟨rfl, trivial⟩
  · have hcontent := hsteady.readCapped_eq hcapped
    rw [readContent] at hcontent
    split_ifs at hcontent
    exact encodeUtf8_of_decodeUtf8 (finish_eq_ok hcontent.symm).1
  · rw [connectProfile, hpin] at hr
    obtain ⟨r', hr', rfl⟩ := Option.map_eq_some_iff.mp hr
    rw [readProfile_steady hsteady hsteady' hread hr']
    rfl
  · rw [connectionToOvpnText, hpin] at htext
    simp only [if_neg hpath] at htext
    obtain ⟨r', hr', rfl⟩ := Option.map_eq_some_iff.mp htext
    rw [readProfile_steady hsteady hsteady' hread hr']

private def pinnedEnv : ImportEnv := ⟨"a", none, "/cert", fun _ ↦ none, fun _ ↦ true⟩

theorem imported_profile_pinned : ∃ data,
    importFromFile pinnedEnv "/home/a.ovpn" pinnedTurns = some (.ok data) ∧
      ∀ r, connectProfile data pinnedTurns = some r → r = .ok pinnedText := by
  obtain ⟨data, hdata⟩ : ∃ data,
      importFromFile pinnedEnv "/home/a.ovpn" pinnedTurns = some (.ok data) := by
    rw [importFromFile, readProfile_pinned]
    exact ⟨_, rfl⟩
  obtain ⟨text, htext, -, hconnect, -⟩ :=
    (imported_profile hdata pinnedTurns).2.2.2 _ steady_pinned steady_pinned
  obtain rfl : text = pinnedText := by
    have := decodeUtf8_encodeUtf8 text
    rw [htext, decodeUtf8_encodeUtf8] at this
    exact (Option.some_inj.mp this).symm
  exact ⟨data, hdata, hconnect⟩

/-! ## Activation during an export -/

section Writing

open Concurrent

variable {ι : Type*} [DecidableEq ι] {jobs : ι → Job String} {fs₀ : FileSystem String}
  {w w' : Writers String ι} {i : ι} {n : ℕ}

/-- A writer that is done stays done. -/
theorem done_of_reaches (h : (writers jobs fs₀).Reaches (Guarded jobs) w w')
    (hdone : w.pc i = .done n) : w'.pc i = .done n := by
  refine Machine.Reaches.invariant (I := fun w ↦ w.pc i = .done n) ?_ h hdone
  intro w act w' hdone _ hstep
  obtain ⟨j, reply, fs', pc', rfl, hcall, rfl⟩ | ⟨fs, rfl, rfl⟩ := writers_step_cases hstep
  · have hne : i ≠ j := by
      rintro rfl
      rw [hdone] at hcall
      cases hcall
    rw [Writers.advance_pc, Function.update_of_ne hne]
    exact hdone
  · exact hdone

/-- What a writer that is done has written is there in every later state. -/
theorem content_of_done (hreach : (writers jobs fs₀).ReachableBy (Guarded jobs) w)
    (hdone : w.pc i = .done n) : w.fs.content n = (jobs i).text := by
  have howns := owns_of_reachableBy
    (hreach.mono fun w act hguard fs hfs ↦ (hguard fs hfs).toInterferes)
  obtain ⟨-, written, hn, htext⟩ := howns.file i n [] (by rw [hdone]; rfl)
  rw [FileSystem.content, hn, htext, List.append_nil]
  rfl

/-- **An activation during an export reads the old profile or the new one**, never a part of it.
Connect reads the pinned file in calls, while any number of writers run, one of which exports to
that file; the others leave the names alone, and nobody changes the old file itself. -/
theorem activation_during_export {ws : List (Writers String ι)} (hdistinct : DistinctNames jobs)
    (htarget : (jobs i).target = some path) (hpin : data "nm-openvpn3-profile" = some path)
    (hpath : path ≠ "" ∧ isCString path = true)
    (hrun : List.IsChain ((writers jobs fs₀).Reaches (Guarded jobs)) (⟨fs₀, fun _ ↦ .remove⟩ :: ws))
    (hturns : turns.map Turn.fs = ws.map Writers.fs) (hok : ∀ t ∈ turns, t.fails = false)
    (hold : ∀ n, fs₀.names path = some (.file n) → ∀ w ∈ ws, w.fs.content n = fs₀.content n)
    {r : Except ProfileError String} (h : connectProfile data turns = some r) :
    r = (fs₀.read decodeUtf8 maxProfileBytes path).mapError .unreadable ∨
      r = (readContent decodeUtf8 maxProfileBytes (jobs i).text).mapError .unreadable := by
  rw [connectProfile, hpin] at h
  obtain ⟨r', hr', rfl⟩ := Option.map_eq_some_iff.mp h
  rw [readProfile, if_neg (by rw [hpath.2]; simpa using hpath.1), ReaderPc.result_eq_some] at hr'
  cases ws with
  | nil =>
    rw [List.map_nil, List.map_eq_nil_iff] at hturns
    subst hturns
    cases hr'
  | cons w ws =>
    obtain ⟨t, rest, rfl⟩ : ∃ t rest, turns = t :: rest := by
      cases turns with
      | nil => cases hturns
      | cons t rest => exact ⟨t, rest, rfl⟩
    have hopen : t.fs = w.fs := (List.cons.inj hturns).1
    have hreach : (writers jobs fs₀).ReachableBy (Guarded jobs) w :=
      ⟨_, rfl, Machine.reaches_of_isChain hrun w (by simp)⟩
    have hlater := Machine.reaches_of_isChain (List.isChain_cons_cons.mp hrun).2
    have hstate : ∀ t' ∈ t :: rest, ∃ w' ∈ w :: ws, t'.fs = w'.fs := by
      intro t' ht'
      obtain ⟨w', hw', hfs⟩ := List.mem_map.mp (hturns ▸ List.mem_map_of_mem (f := Turn.fs) ht')
      exact ⟨w', hw', hfs.symm⟩
    have hplaced := placed_of_reachableBy hdistinct hreach
    by_cases hdone : ∃ n, w.pc i = .done n
    · -- The new file is in place when it is opened.
      obtain ⟨n, hn⟩ := hdone
      right
      have hname := hplaced.named i
      rw [hn, Job.Named, htarget, Option.getD_some] at hname
      have hsteady : Steady path (jobs i).text (t :: rest) := by
        refine ⟨t, rest, n, rfl, by rw [hopen, hname], fun t' ht' ↦ ⟨?_, hok t' ht'⟩⟩
        obtain ⟨w', hw', hfs⟩ := hstate t' ht'
        rw [hfs]
        obtain ⟨s, hs, hrun'⟩ := hreach
        exact content_of_done ⟨s, hs, hrun'.trans (hlater w' hw')⟩
          (done_of_reaches (hlater w' hw') hn)
      rw [hsteady.readCapped_eq hr']
    · left
      have hname := hplaced.target i path htarget fun n hn ↦ hdone ⟨n, hn⟩
      have hread : r' = fs₀.read decodeUtf8 maxProfileBytes path := by
        refine readCapped_eq_read ?_ hok ?_ hr'
        · rintro t' rest' ⟨⟩
          rw [hopen, hname]
        · intro n hn t' ht'
          obtain ⟨w', hw', hfs⟩ := hstate t' ht'
          rw [hfs, hold n hn w' hw']
      rw [hread]

/-! ### An old file that is still open -/

private def exportJobs (_ : Unit) : Job String :=
  ⟨"/home/.a.ovpn.tmp", some "/home/a.ovpn", [65]⟩

private def exportStart : Writers String Unit := ⟨pinnedFs, fun _ ↦ .remove⟩

private def exportSteps : List (WriterAction String Unit) :=
  [.step () .err, .step () (.fresh 1), .step () (.wrote 1), .step () .ok, .step () .ok,
    .step () .ok]

private def exportEnd : Writers String Unit :=
  ((writers exportJobs pinnedFs).run exportStart exportSteps).getD exportStart

private theorem reaches_exportEnd :
    (writers exportJobs pinnedFs).Reaches (Guarded exportJobs) exportStart exportEnd :=
  Machine.Reaches.getD_run Relation.ReflTransGen.refl exportSteps
    (by simp [exportSteps, Machine.Allows, Guarded])

/-- The export is done while Connect reads the file that was there. -/
private def exportTurns : List (Turn String) :=
  [⟨pinnedFs, 4, false⟩, ⟨pinnedFs, 4, false⟩, ⟨exportEnd.fs, 99, false⟩, ⟨exportEnd.fs, 99, false⟩]

theorem activation_during_export_sample : exportEnd.pc () = .done 1 ∧
    ∃ r, connectProfile pinnedData exportTurns = some r ∧
      (r = (pinnedFs.read decodeUtf8 maxProfileBytes "/home/a.ovpn").mapError .unreadable ∨
        r = (readContent decodeUtf8 maxProfileBytes [65]).mapError .unreadable) := by
  obtain ⟨r, hr⟩ : ∃ r, connectProfile pinnedData exportTurns = some r := ⟨_, rfl⟩
  have hdistinct : DistinctNames exportJobs :=
    ⟨fun _ _ _ ↦ rfl, fun _ _ _ _ _ ↦ rfl, fun _ _ ↦ by simp [exportJobs]⟩
  have hrun : List.IsChain ((writers exportJobs pinnedFs).Reaches (Guarded exportJobs))
      [exportStart, exportStart, exportStart, exportEnd, exportEnd] := by
    simp only [List.isChain_cons_cons, List.IsChain.singleton, and_true]
    exact ⟨.refl, .refl, reaches_exportEnd, .refl⟩
  refine ⟨by decide, r, hr, activation_during_export hdistinct (show (exportJobs ()).target = _ from
    rfl) (by decide) (by decide) hrun rfl (by decide) ?_ hr⟩
  intro n hn
  obtain rfl : 0 = n := by
    have h : some (Node.file 0) = some (Node.file n) := hn
    simpa using h
  decide

end Writing

end Agreement

end NmOpenvpn3
