import NmOpenvpn3.AuthDialog.Dialog
import NmOpenvpn3.Files.Reading
import NmOpenvpn3.ImportExport.Connection
import NmOpenvpn3.Service.Secrets

/-!
# The passphrase of a private key

Without hints the dialog looks into the key file of the connection to see if the key is encrypted.
When in doubt it asks: a passphrase too many can be dismissed, one too few leaves the activation
hanging. The file is whatever the connection names, so it is read with the same care as a profile.
-/

namespace NmOpenvpn3

namespace AuthDialog

open Rust Ovpn Files
open ImportExport (isCString)

/-! ## What is asked for -/

section Groups

variable (tr : String → String) {e : Entry} {key : String}

/-- The only group among the lines of an entry is its own. -/
theorem key_of_mem_lines (h : "[" ++ key ++ "]" ∈ e.lines) : key = e.key := by
  simp only [Entry.lines, List.mem_cons, List.not_mem_nil, or_false] at h
  obtain h | h | h | h | h | h | h := h
  · simp [← String.toList_inj] at h
  · simpa [← String.toList_inj] using h
  all_goals simp [← String.toList_inj] at h

theorem not_mem_drop_lines : "[" ++ key ++ "]" ∉ e.lines.drop 2 := by
  simp [Entry.lines, ← String.toList_inj]

theorem shouldAsk_of_mem (h : "ShouldAsk=true" ∈ e.lines.drop 2) : e.shouldAsk = true := by
  simp only [Entry.lines, List.drop_succ_cons, List.drop_zero, List.mem_cons, List.not_mem_nil,
    or_false] at h
  obtain h | h | h | h | h := h
  · simp [← String.toList_inj] at h
  · simp [← String.toList_inj] at h
  · exact absurd h (by decide)
  · cases hask : e.shouldAsk with
    | true => rfl
    | false =>
      rw [hask] at h
      exact absurd h (by decide)
  · simp [← String.toList_inj] at h

/-- What is behind the group of an entry, up to the next group. -/
theorem mem_drop_lines_of_body {t : List Entry} {body post : List String}
    (h : e.lines.drop 2 ++ t.flatMap Entry.lines = body ++ post)
    (hbody : ∀ l ∈ body, l.toList.head? ≠ some '[') {l : String} (hl : l ∈ body) (hne : l ≠ "") :
    l ∈ e.lines.drop 2 := by
  obtain ⟨a, rfl, ht⟩ | ⟨a, ha, -⟩ := List.append_eq_append_iff.mp h
  · obtain hl | hl := List.mem_append.mp hl
    · exact hl
    · cases t with
      | nil =>
        rw [List.flatMap_nil, eq_comm, List.append_eq_nil_iff] at ht
        rw [ht.1] at hl
        cases hl
      | cons e' t =>
        simp only [List.flatMap_cons, Entry.lines, List.cons_append] at ht
        -- Only the empty line comes before the next group.
        cases a with
        | nil => cases hl
        | cons x a =>
          obtain ⟨hx, ht⟩ := List.cons_eq_cons.mp ht
          cases a with
          | nil => exact absurd ((List.mem_singleton.mp hl).trans hx.symm) hne
          | cons y a =>
            obtain ⟨hy, -⟩ := List.cons_eq_cons.mp ht
            exact absurd (by simp [← hy]) (hbody y (by simp))
  · rw [ha]
    exact List.mem_append_left _ hl

variable {prompt : String} {needed : Needed} {allow : Bool}

/-- The keys of the groups differ. -/
theorem nodup_keys : ((entries tr needed allow).map Entry.key).Nodup := by
  have hkeys : (entries tr needed allow).map Entry.key = askableKeys := rfl
  rw [hkeys]
  decide

/-- The group of an entry is in one place. -/
theorem group_unique {s t : List Entry} (hst : entries tr needed allow = s ++ e :: t)
    {pre rest : List String}
    (h : euiLines tr prompt needed allow = pre ++ ("[" ++ e.key ++ "]") :: rest) :
    rest = e.lines.drop 2 ++ t.flatMap Entry.lines := by
  have hnodup : ((entries tr needed allow).map Entry.key).Nodup := nodup_keys tr
  rw [hst, List.map_append, List.map_cons, List.nodup_append, List.nodup_cons] at hnodup
  obtain ⟨-, ⟨ht, -⟩, hs⟩ := hnodup
  have hother {l : List Entry} (hl : e.key ∉ l.map Entry.key) :
      "[" ++ e.key ++ "]" ∉ l.flatMap Entry.lines := by
    intro hmem
    obtain ⟨e', he', hline⟩ := List.mem_flatMap.mp hmem
    exact hl (List.mem_map.mpr ⟨e', he', (key_of_mem_lines hline).symm⟩)
  have hmem : e ∈ entries tr needed allow := by rw [hst]; simp
  have hkey : e.key ∈ askableKeys := key_mem_askableKeys tr hmem
  have hclose : ∀ k : String, "[" ++ e.key ++ "]" = "[" ++ k ++ "]" → e.key = k := by
    simp [← String.toList_inj]
  have hne : e.key ≠ "VPN Plugin UI" := by
    intro heq
    rw [heq] at hkey
    exact absurd hkey (by decide)
  -- The lines around the group do not begin another one of the key.
  have hlines : euiLines tr prompt needed allow =
      (["[VPN Plugin UI]", "Version=2", "Description=" ++ escape prompt,
        "Title=" ++ escape (tr "Authentication required")] ++ s.flatMap Entry.lines ++ [""]) ++
        ("[" ++ e.key ++ "]") :: (e.lines.drop 2 ++ t.flatMap Entry.lines) := by
    rw [euiLines, hst]
    simp [Entry.lines]
  rw [hlines] at h
  refine ((List.append_cons_inj_of_notMem ?_ ?_).mp h).2.2.symm
  · simp only [List.mem_append, not_or]
    refine ⟨⟨?_, hother fun hmem ↦ ?_⟩, by simp [← String.toList_inj]⟩
    · intro hline
      simp only [List.mem_cons, List.not_mem_nil, or_false] at hline
      obtain hline | hline | hline | hline := hline
      · exact hne (hclose "VPN Plugin UI" hline)
      all_goals simp [← String.toList_inj] at hline
    · obtain ⟨e', he', heq⟩ := List.mem_map.mp hmem
      exact hs _ (List.mem_map_of_mem he') _ List.mem_cons_self heq
  · rw [List.mem_append, not_or]
    exact ⟨not_mem_drop_lines, hother ht⟩

/-- **The key file asks for what is needed**, and for nothing else. -/
theorem asks_euiLines_iff (hkey : key ∈ askableKeys) :
    Asks (linesText (euiLines tr prompt needed allow)) key ↔
      (needed.asks key && allow) = true := by
  obtain ⟨e, he, rfl, hask⟩ := exists_entry tr hkey needed allow
  rw [← hask]
  constructor
  · rintro ⟨pre, body, post, hlines, hmem, hbody⟩
    rw [lines_linesText fun l hl ↦ oneLine_of_mem_euiLines tr hl] at hlines
    have hlines := (List.map_injective_iff.mpr fun _ _ ↦ String.toList_inj.mp) hlines
    obtain ⟨s, t, hst⟩ := List.append_of_mem he
    rw [List.append_assoc, List.cons_append] at hlines
    exact shouldAsk_of_mem (mem_drop_lines_of_body (group_unique tr hst hlines).symm hbody hmem
      (by decide))
  · exact asks_linesText tr he

/-- Nothing is asked for in the file that says so. -/
theorem not_asks_noSecretLines (hkey : key ∈ askableKeys) :
    ¬Asks (linesText noSecretLines) key := by
  rintro ⟨pre, body, post, hlines, -⟩
  have honeLine : ∀ l ∈ noSecretLines, OneLine l := by simp [noSecretLines, OneLine]
  rw [lines_linesText honeLine] at hlines
  have hlines := (List.map_injective_iff.mpr fun _ _ ↦ String.toList_inj.mp) hlines
  have hmem : "[" ++ key ++ "]" ∈ noSecretLines := by
    rw [hlines]
    simp
  have hnone : ∀ k ∈ askableKeys, "[" ++ k ++ "]" ∉ noSecretLines := by decide
  exact hnone key hkey hmem

/-- **The dialog asks for what is needed**, if it may, and for nothing else. -/
theorem asks_run_iff {isEncrypted : String → Bool} {args : Args} {stdin out : String}
    (hrun : run tr isEncrypted args stdin = .ok out) (hkey : key ∈ askableKeys) :
    Asks out key ↔ (needs isEncrypted (readVpnDetails stdin).1 args.hints).asks key = true ∧
      args.allowInteraction = true := by
  rw [← Bool.and_eq_true]
  unfold run at hrun
  simp only at hrun
  split_ifs at hrun with _ _ _ hnone
  · obtain rfl := Except.ok.inj hrun
    refine iff_of_false (not_asks_noSecretLines hkey) fun hasks ↦ ?_
    simp only [Bool.and_eq_true, Bool.not_eq_true'] at hnone hasks
    unfold Needed.asks at hasks
    split_ifs at hasks <;> simp_all
  · obtain rfl := Except.ok.inj hrun
    exact asks_euiLines_iff tr hkey

end Groups

/-! ## The look into the key file -/

/-- `MAX_KEYFILE_BYTES`. -/
def maxKeyfileBytes : ℕ := 256 * 1024

/-- The bytes of a key file, once the reader has ended. The dialog follows links, so a name stands
here for what a link leads to. -/
def readKeyfile (path : String) (turns : List (Turn String)) :
    Option (Except ReadError (List UInt8)) :=
  if path = "" ∨ isCString path = false then some (.error .openFailed)
  else (readCapped some maxKeyfileBytes path turns).result

/-- One of the markers of an encrypted key is in the text. Other bytes than UTF-8 are no text. -/
def isMarked (bytes : List UInt8) : Bool :=
  let text := (decodeUtf8 bytes).getD ""
  Service.contains text "Proc-Type: 4,ENCRYPTED" ||
    Service.contains text "BEGIN ENCRYPTED PRIVATE KEY"

/-- `is_encrypted_keyfile_path`. -/
def isEncryptedKeyfilePath (path : String) (turns : List (Turn String)) : Option Bool :=
  if isPkcs12Path path then some true
  else (readKeyfile path turns).map fun
    | .ok bytes => isMarked bytes
    | .error _ => true

/-- The key file that `needs` looks into. -/
def inspectedKey (data : VpnData) (hints : List String) : Option String :=
  if hints = [] ∧
      (data "connection-type" = some "tls" ∨ data "connection-type" = some "password-tls") then
    data "key"
  else none

/-- `run`, with the key file where it is. -/
def runOnDisk (tr : String → String) (args : Args) (stdin : String) (turns : List (Turn String)) :
    Option (Except String String) :=
  match run tr (fun _ ↦ true) args stdin with
  | .error e => some (.error e)
  | .ok _ =>
    match inspectedKey (readVpnDetails stdin).1 args.hints with
    | some path => (isEncryptedKeyfilePath path turns).map fun b ↦ run tr (fun _ ↦ b) args stdin
    | none => some (run tr (fun _ ↦ true) args stdin)

/-! ## When the passphrase is asked for -/

variable {tr : String → String} {args : Args} {stdin out path : String}
  {turns : List (Turn String)} {bytes : List UInt8}

/-- Without hints, the passphrase is needed for a bundle and for a key that is taken to be
encrypted. -/
theorem asks_certPass_iff (isEncrypted : String → Bool) (data : VpnData) :
    (needs isEncrypted data []).asks "cert-pass" = true ↔
      ∃ path, inspectedKey data [] = some path ∧
        (isPkcs12Path path = true ∨ isEncrypted path = true) := by
  have hasks : ∀ n : Needed, n.asks "cert-pass" = n.certpass := fun _ ↦ rfl
  rw [hasks, needs, inspectedKey]
  cases data "connection-type" with
  | none => simp [Needed.default]
  | some ctype =>
    by_cases hct : ctype = "tls" ∨ ctype = "password-tls"
    · have hct' : (decide (ctype = "tls") || decide (ctype = "password-tls")) = true := by
        simpa using hct
      simp only [List.isEmpty_nil, if_true, inferNeeded, hct', Bool.true_and]
      cases hkey : data "key" with
      | none => simp
      | some path => simp [hct]
    · have hct' : (decide (ctype = "tls") || decide (ctype = "password-tls")) = false := by
        simpa using hct
      simp [inferNeeded, hct', hct]

/-- The dialog's run with what it has found in the key file. -/
theorem exists_run_of_runOnDisk (h : runOnDisk tr args stdin turns = some (.ok out)) :
    ∃ isEncrypted : String → Bool, run tr isEncrypted args stdin = .ok out ∧
      ∀ path, inspectedKey (readVpnDetails stdin).1 args.hints = some path →
        isEncryptedKeyfilePath path turns = some (isEncrypted path) := by
  rw [runOnDisk] at h
  split at h
  · cases h
  · split at h
    · rename_i path hpath
      obtain ⟨b, hb, hrun⟩ := Option.map_eq_some_iff.mp h
      refine ⟨fun _ ↦ b, hrun, fun path' hpath' ↦ ?_⟩
      obtain rfl := Option.some_inj.mp (hpath.symm.trans hpath')
      exact hb
    · rename_i hnone
      exact ⟨_, Option.some_inj.mp h, fun path hpath ↦ absurd (hnone.symm.trans hpath) (by simp)⟩

/-- The bytes of a key file that has been read to its end, which have no marker. -/
structure ReadPlain (path : String) (turns : List (Turn String)) (bytes : List UInt8) : Prop where
  read : ReadWhole maxKeyfileBytes path turns bytes
  unmarked : isMarked bytes = false

theorem readCapped_of_readKeyfile {r : Except ReadError (List UInt8)}
    (hne : path ≠ "") (hpath : isCString path = true) (h : readKeyfile path turns = some r) :
    readCapped some maxKeyfileBytes path turns = .done r := by
  rw [readKeyfile, if_neg (by simp [hne, hpath])] at h
  exact ReaderPc.result_eq_some.mp h

theorem readPlain_of_isEncryptedKeyfilePath (h : isEncryptedKeyfilePath path turns = some false) :
    isPkcs12Path path = false ∧ ∃ bytes, ReadPlain path turns bytes := by
  rw [isEncryptedKeyfilePath] at h
  split_ifs at h with hbundle
  · cases h
  · refine ⟨eq_false_of_ne_true hbundle, ?_⟩
    obtain ⟨r, hread, hmarked⟩ := Option.map_eq_some_iff.mp h
    cases r with
    | error e => cases hmarked
    | ok bytes =>
      rw [readKeyfile] at hread
      split_ifs at hread
      · cases hread
      · obtain ⟨bytes', hbytes, hwhole⟩ :=
          readWhole_of_readCapped (ReaderPc.result_eq_some.mp hread)
        obtain rfl := Option.some_inj.mp hbytes
        exact ⟨bytes', hwhole, hmarked⟩

/-- A key file that stays as it is. -/
theorem isEncryptedKeyfilePath_of_steady (hne : path ≠ "") (hpath : isCString path = true)
    (hsteady : Steady path bytes turns) {b : Bool}
    (h : isEncryptedKeyfilePath path turns = some b) :
    b = true ↔
      isPkcs12Path path = true ∨ maxKeyfileBytes < bytes.length ∨ isMarked bytes = true := by
  rw [isEncryptedKeyfilePath] at h
  split_ifs at h with hbundle
  · cases h
    simp [hbundle]
  · obtain ⟨r, hread, rfl⟩ := Option.map_eq_some_iff.mp h
    rw [hsteady.readCapped_eq (readCapped_of_readKeyfile hne hpath hread), readContent]
    by_cases hlarge : maxKeyfileBytes < bytes.length
    · simp [hlarge]
    · simp [hlarge, hbundle, finish]

/-- The look into a key file comes to its end. -/
theorem exists_isEncryptedKeyfilePath (path : String)
    (hlen : maxKeyfileBytes + 4 ≤ turns.length) :
    ∃ b, isEncryptedKeyfilePath path turns = some b := by
  rw [isEncryptedKeyfilePath, readKeyfile]
  split_ifs
  · exact ⟨true, rfl⟩
  · exact ⟨true, rfl⟩
  · obtain ⟨r, hr⟩ : ∃ r, readCapped some maxKeyfileBytes path turns = .done r :=
      exists_readCapped_eq_done hlen
    rw [hr]
    exact ⟨_, rfl⟩

theorem exists_runOnDisk (tr : String → String) (args : Args) (stdin : String)
    (hlen : maxKeyfileBytes + 4 ≤ turns.length) : ∃ r, runOnDisk tr args stdin turns = some r := by
  rw [runOnDisk]
  split
  · exact ⟨_, rfl⟩
  · split
    · obtain ⟨b, hb⟩ := exists_isEncryptedKeyfilePath ‹_› hlen
      rw [hb]
      exact ⟨_, rfl⟩
    · exact ⟨_, rfl⟩

/-- A dialog that is started as it should be writes a key file. -/
theorem exists_run (tr : String → String) (isEncrypted : String → Bool) {args : Args}
    (huuid : args.uuid ≠ none) (hname : args.name ≠ none)
    (hservice : args.service = some serviceType) (hui : args.externalUiMode = true)
    (stdin : String) : ∃ out, run tr isEncrypted args stdin = .ok out := by
  rw [run, if_neg (by simp [huuid, hname, hservice]), if_neg (by simp [hservice]),
    if_neg (by simp [hui])]
  simp only
  split_ifs
  · exact ⟨_, rfl⟩
  · exact ⟨_, rfl⟩

private def plainArgs : Args := ⟨some "u", some "n", some serviceType, true, true, []⟩

private def plainInput : String :=
  "DATA_KEY=connection-type\nDATA_VAL=tls\nDATA_KEY=key\nDATA_VAL=/k\nDONE\n"

private def plainFs : FileSystem String where
  names k := if k = "/k" then some (.file 0) else none
  inodes n := if n = 0 then some ⟨true, [75, 69, 89]⟩ else none
  linked k n h := by
    split_ifs at h
    simp only [Option.some.injEq, Node.file.injEq] at h
    rw [if_pos h.symm]
    rfl

private def plainTurns : List (Turn String) := List.replicate 4 ⟨plainFs, 2, false⟩

end AuthDialog

end NmOpenvpn3
