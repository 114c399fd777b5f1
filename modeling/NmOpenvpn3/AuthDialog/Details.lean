import NmOpenvpn3.AuthDialog.Dialog

/-!
# The connection on the standard input

NetworkManager writes the connection as lines: a key line and a value line for each entry, first of
the data and then of the secrets, and an empty line after each. `read_vpn_details` keeps one key
that waits for its value, with a mark that tells the two kinds apart.

What the documented format says is read back (`readReader_documented`). On any input at all the mark
keeps the kinds apart: what ends up under a key was written on a value line of the key's own kind,
behind that key (`Traced.readReader`).
-/

namespace NmOpenvpn3

namespace AuthDialog

open Rust Ovpn

/-! ## The reader -/

/-- `read_vpn_details` on what the reader yields, line by line. A line that cannot be read, which is
`none` here, is an error. -/
def readReader : CurrentKey → VpnData → VpnData → List (Option (List Char)) →
    Option (VpnData × VpnData)
  | _, data, secrets, [] => some (data, secrets)
  | _, _, _, none :: _ => none
  | key, data, secrets, some line :: rest =>
    if line = "DONE".toList then some (data, secrets)
    else
      let (key', data', secrets') := readLine key data secrets line
      readReader key' data' secrets' rest

theorem readReader_map_some (key : CurrentKey) (data secrets : VpnData) (ls : List (List Char)) :
    readReader key data secrets (ls.map some) = some (readLines key data secrets ls) := by
  induction ls generalizing key data secrets with
  | nil => rfl
  | cons line ls ih =>
    rw [List.map_cons, readReader, readLines]
    split_ifs
    · rfl
    · exact ih _ _ _

/-! ## Lines -/

/-- The words in front of a key, of the data or of the secrets. -/
def keyWord : Bool → List Char
  | false => "DATA_KEY".toList
  | true => "SECRET_KEY".toList

/-- The words in front of a value. -/
def valWord : Bool → List Char
  | false => "DATA_VAL".toList
  | true => "SECRET_VAL".toList

/-- The line of a key. -/
def keyLine (secret : Bool) (k : String) : List Char := keyWord secret ++ '=' :: k.toList

/-- The line of a value. -/
def valLine (secret : Bool) (v : String) : List Char := valWord secret ++ '=' :: v.toList

/-- A line that leaves the pending key alone: neither blank nor a key line. -/
def Between (line : List Char) : Prop := line ≠ [] ∧ ∀ secret k, line ≠ keyLine secret k

theorem splitOnce_keyLine (secret : Bool) (k : String) :
    splitOnce '=' (keyLine secret k) = some (keyWord secret, k.toList) :=
  splitOnce_append (by cases secret <;> decide) _

theorem splitOnce_valLine (secret : Bool) (v : String) :
    splitOnce '=' (valLine secret v) = some (valWord secret, v.toList) :=
  splitOnce_append (by cases secret <;> decide) _

/-- A line with a word in front that is not a key's is no key line. -/
theorem between_of_splitOnce {line pre value : List Char}
    (h : splitOnce '=' line = some (pre, value)) (hpre : ∀ secret, pre ≠ keyWord secret) :
    Between line := by
  refine ⟨?_, ?_⟩
  · rintro rfl
    simp [splitOnce] at h
  · rintro secret k rfl
    rw [splitOnce_keyLine, Option.some_inj, Prod.mk.injEq] at h
    exact hpre secret h.1.symm

/-- The entries of one kind after a value was stored under the pending key. -/
def store (secret : Bool) (k v : String) (data secrets : VpnData) : VpnData × VpnData :=
  if secret then (data, secrets.insert k v) else (data.insert k v, secrets)

/-- What a line can do: nothing, drop the pending key, replace it, or store its value. -/
inductive LineStep (key : CurrentKey) (data secrets : VpnData) (line : List Char) :
    CurrentKey × VpnData × VpnData → Prop where
  | skip (h : Between line) : LineStep key data secrets line (key, data, secrets)
  | drop : LineStep key data secrets line (none, data, secrets)
  | pend (secret : Bool) (k : String) (hk : k ≠ "") (h : line = keyLine secret k) :
    LineStep key data secrets line (some (k, secret), data, secrets)
  | store (secret : Bool) (k v : String) (hkey : key = some (k, secret))
    (h : line = valLine secret v) :
    LineStep key data secrets line (none, store secret k v data secrets)

theorem readLine_keyLine (key : CurrentKey) (data secrets : VpnData) (secret : Bool) {k : String}
    (hk : k ≠ "") :
    readLine key data secrets (keyLine secret k) = (some (k, secret), data, secrets) := by
  have hne : (keyLine secret k).isEmpty = false := by simp [keyLine]
  have hk' : k.toList.isEmpty = false := by simpa using hk
  have hword : "SECRET_KEY".toList ≠ "DATA_KEY".toList := by decide
  rw [readLine, hne, splitOnce_keyLine]
  simp only [hk', Bool.false_eq_true, and_false, if_false, String.ofList_toList]
  cases secret
  · exact if_pos rfl
  · exact (if_neg hword).trans (if_pos rfl)

theorem readLine_valLine (data secrets : VpnData) (secret : Bool) (k v : String) :
    readLine (some (k, secret)) data secrets (valLine secret v) =
      (none, store secret k v data secrets) := by
  have hne : (valLine secret v).isEmpty = false := by simp [valLine]
  have hword : ∀ secret : Bool,
      valWord secret ≠ "DATA_KEY".toList ∧ valWord secret ≠ "SECRET_KEY".toList := by decide
  rw [readLine, hne, splitOnce_valLine]
  simp only [(hword secret).1, (hword secret).2, Bool.false_eq_true, or_self, false_and, if_false,
    String.ofList_toList]
  cases secret
  · exact if_pos rfl
  · exact if_pos rfl

theorem readLine_step (key : CurrentKey) (data secrets : VpnData) (line : List Char) :
    LineStep key data secrets line (readLine key data secrets line) := by
  by_cases hblank : line = []
  · subst hblank
    exact .drop
  cases hsplit : splitOnce '=' line with
  | none =>
    rw [readLine, if_neg (by simpa using hblank), hsplit]
    refine .skip ⟨hblank, ?_⟩
    rintro secret k rfl
    rw [splitOnce_keyLine] at hsplit
    simp at hsplit
  | some p =>
    obtain ⟨pre, value⟩ := p
    obtain ⟨-, hline⟩ := eq_append_of_splitOnce hsplit
    by_cases hkey : ∃ secret, pre = keyWord secret
    · -- A key line.
      obtain ⟨secret, rfl⟩ := hkey
      have hkeyLine : line = keyLine secret (String.ofList value) := by
        rw [keyLine, String.toList_ofList, hline]
      by_cases hvalue : value = []
      · have hdrop : readLine key data secrets line = (none, data, secrets) := by
          rw [readLine, if_neg (by simpa using hblank), hsplit]
          have hkeys : keyWord secret = "DATA_KEY".toList ∨
              keyWord secret = "SECRET_KEY".toList := by
            cases secret
            · exact .inl rfl
            · exact .inr rfl
          simp only [hvalue, hkeys, List.isEmpty_nil, and_self, if_true]
        exact hdrop ▸ .drop
      · have hne : String.ofList value ≠ "" := by
          simpa [← String.toList_inj] using hvalue
        rw [hkeyLine, readLine_keyLine _ _ _ _ hne]
        exact .pend secret _ hne rfl
    · have hword : ∀ secret, pre ≠ keyWord secret := fun secret h ↦ hkey ⟨secret, h⟩
      have hbetween := between_of_splitOnce hsplit hword
      have hdata : pre ≠ "DATA_KEY".toList := hword false
      have hsecret : pre ≠ "SECRET_KEY".toList := hword true
      by_cases hval : ∃ k secret, key = some (k, secret) ∧ pre = valWord secret
      · -- The value that the pending key waits for.
        obtain ⟨k, secret, rfl, rfl⟩ := hval
        have hvalLine : line = valLine secret (String.ofList value) := by
          rw [valLine, String.toList_ofList, hline]
        rw [hvalLine, readLine_valLine]
        exact .store secret k _ rfl rfl
      · have hskip : readLine key data secrets line = (key, data, secrets) := by
          rw [readLine, if_neg (by simpa using hblank), hsplit]
          simp only [hdata, hsecret, or_self, false_and, if_false]
          cases key with
          | none => rfl
          | some p =>
            obtain ⟨k, secret⟩ := p
            have hpre : pre ≠ valWord secret := fun h ↦ hval ⟨k, secret, rfl, h⟩
            cases secret
            · exact if_neg hpre
            · exact if_neg hpre
        exact hskip ▸ .skip hbetween

/-! ## Where stored values come from -/

/-- A key line behind which no blank line and no other key line has come. -/
def Pending (ls : List (List Char)) (secret : Bool) (k : String) : Prop :=
  k ≠ "" ∧ ∃ pre mid, ls = pre ++ keyLine secret k :: mid ∧ ∀ l ∈ mid, Between l

/-- A value line behind such a key line of its kind. -/
def Stored (ls : List (List Char)) (secret : Bool) (k v : String) : Prop :=
  ∃ pre post, ls = pre ++ valLine secret v :: post ∧ Pending pre secret k

theorem Stored.append {ls : List (List Char)} {secret : Bool} {k v : String}
    (h : Stored ls secret k v) (rest : List (List Char)) : Stored (ls ++ rest) secret k v := by
  obtain ⟨pre, post, rfl, hpending⟩ := h
  exact ⟨pre, post ++ rest, by simp, hpending⟩

/-- What is known of the state after some lines. -/
structure Traced (seen : List (List Char)) (key : CurrentKey) (data secrets : VpnData) : Prop where
  pending : ∀ k secret, key = some (k, secret) → Pending seen secret k
  data : ∀ k v, data k = some v → Stored seen false k v
  secrets : ∀ k v, secrets k = some v → Stored seen true k v

/-- Every entry of a map after an insertion was inserted or is old. -/
theorem insert_eq_some {d : VpnData} {k k' v v' : String} (h : d.insert k v k' = some v') :
    (k' = k ∧ v' = v) ∨ d k' = some v' := by
  rw [Dict.insert] at h
  split_ifs at h with hk
  · exact .inl ⟨hk, (Option.some_inj.mp h).symm⟩
  · exact .inr h

theorem Traced.readLine {seen : List (List Char)} {key : CurrentKey} {data secrets : VpnData}
    (h : Traced seen key data secrets) (line : List Char) :
    Traced (seen ++ [line]) (readLine key data secrets line).1
      (readLine key data secrets line).2.1 (readLine key data secrets line).2.2 := by
  have hdata : ∀ k v, data k = some v → Stored (seen ++ [line]) false k v :=
    fun k v hv ↦ (h.data k v hv).append _
  have hsecrets : ∀ k v, secrets k = some v → Stored (seen ++ [line]) true k v :=
    fun k v hv ↦ (h.secrets k v hv).append _
  have hstep := readLine_step key data secrets line
  generalize AuthDialog.readLine key data secrets line = result at hstep
  cases hstep with
  | skip hbetween =>
    refine ⟨fun k secret hkey ↦ ?_, hdata, hsecrets⟩
    obtain ⟨hk, pre, mid, rfl, hmid⟩ := h.pending k secret hkey
    refine ⟨hk, pre, mid ++ [line], by simp, ?_⟩
    simpa [or_imp, forall_and] using ⟨hmid, hbetween⟩
  | drop => exact ⟨by simp, hdata, hsecrets⟩
  | pend secret k hk hline =>
    refine ⟨fun k' secret' hkey ↦ ?_, hdata, hsecrets⟩
    obtain ⟨rfl, rfl⟩ : k = k' ∧ secret = secret' := by simpa using hkey
    exact ⟨hk, seen, [], by rw [hline], by simp⟩
  | store secret k v hkey hline =>
    have hstored : Stored (seen ++ [line]) secret k v :=
      ⟨seen, [], by rw [hline], h.pending k secret hkey⟩
    cases secret with
    | false =>
      refine ⟨by simp, fun k' v' hv ↦ ?_, hsecrets⟩
      obtain ⟨rfl, rfl⟩ | hv := insert_eq_some hv
      · exact hstored
      · exact hdata k' v' hv
    | true =>
      refine ⟨by simp, hdata, fun k' v' hv ↦ ?_⟩
      obtain ⟨rfl, rfl⟩ | hv := insert_eq_some hv
      · exact hstored
      · exact hsecrets k' v' hv

/-- The lines that are read before the end, and what is known of the maps then. -/
theorem Traced.readReader {seen : List (List Char)} {key : CurrentKey} {data secrets d s : VpnData}
    (h : Traced seen key data secrets) {ls : List (Option (List Char))}
    (hread : readReader key data secrets ls = some (d, s)) :
    ∃ consumed rest, ls = consumed.map some ++ rest ∧
      (∀ k v, d k = some v → Stored (seen ++ consumed) false k v) ∧
      (∀ k v, s k = some v → Stored (seen ++ consumed) true k v) := by
  induction ls generalizing seen key data secrets with
  | nil =>
    obtain ⟨rfl, rfl⟩ : data = d ∧ secrets = s := by simpa [AuthDialog.readReader] using hread
    exact ⟨[], [], rfl, by simpa using h.data, by simpa using h.secrets⟩
  | cons line ls ih =>
    cases line with
    | none => simp [AuthDialog.readReader] at hread
    | some line =>
      rw [AuthDialog.readReader] at hread
      split_ifs at hread with hdone
      · obtain ⟨rfl, rfl⟩ : data = d ∧ secrets = s := by simpa using hread
        exact ⟨[], _, rfl, by simpa using h.data, by simpa using h.secrets⟩
      · obtain ⟨consumed, rest, rfl, hd, hs⟩ := ih (h.readLine line) hread
        exact ⟨line :: consumed, rest, rfl, by simpa using hd, by simpa using hs⟩

/-! ## The documented format -/

/-- The lines of some entries of one kind. -/
def entryLines (secret : Bool) (l : List (String × String)) : List (List Char) :=
  l.flatMap fun p ↦ [keyLine secret p.1, valLine secret p.2]

/-- The lines of the two blocks, and the end. -/
def documentedLines (dataList secretList : List (String × String)) : List (List Char) :=
  entryLines false dataList ++ [] :: (entryLines true secretList ++ [[], "DONE".toList])

/-- The text of the two blocks. -/
def documentedText (dataList secretList : List (String × String)) : List Char :=
  (documentedLines dataList secretList).flatMap (· ++ ['\n'])

/-- Text that a line holds as it is. -/
def FitsLine (s : String) : Prop := '\n' ∉ s.toList ∧ s.toList.getLast? ≠ some '\r'

/-- The entries of a map, in some order, that can be written in the format. -/
structure Written (m : VpnData) (l : List (String × String)) : Prop where
  lists : Dict.Lists m l
  fits : ∀ p ∈ l, p.1 ≠ "" ∧ FitsLine p.1 ∧ FitsLine p.2

theorem fits_keyLine (secret : Bool) {k : String} (h : FitsLine k) :
    '\n' ∉ keyLine secret k ∧ (keyLine secret k).getLast? ≠ some '\r' := by
  have hword : '\n' ∉ keyWord secret := by cases secret <;> decide
  refine ⟨by simp [keyLine, hword, h.1], ?_⟩
  rw [keyLine, List.getLast?_append, List.getLast?_cons]
  cases hlast : k.toList.getLast? with
  | none => simp
  | some c => simpa [hlast] using h.2

theorem fits_valLine (secret : Bool) {v : String} (h : FitsLine v) :
    '\n' ∉ valLine secret v ∧ (valLine secret v).getLast? ≠ some '\r' := by
  have hword : '\n' ∉ valWord secret := by cases secret <;> decide
  refine ⟨by simp [valLine, hword, h.1], ?_⟩
  rw [valLine, List.getLast?_append, List.getLast?_cons]
  cases hlast : v.toList.getLast? with
  | none => simp
  | some c => simpa [hlast] using h.2

theorem fits_entryLines (secret : Bool) {l : List (String × String)}
    (h : ∀ p ∈ l, p.1 ≠ "" ∧ FitsLine p.1 ∧ FitsLine p.2) :
    ∀ line ∈ entryLines secret l, '\n' ∉ line ∧ line.getLast? ≠ some '\r' := by
  intro line hline
  obtain ⟨p, hp, hline⟩ := List.mem_flatMap.mp hline
  obtain ⟨-, hk, hv⟩ := h p hp
  rcases List.mem_cons.mp hline with rfl | hline
  · exact fits_keyLine secret hk
  · exact List.mem_singleton.mp hline ▸ fits_valLine secret hv

/-- The lines of the text are the lines that were written, and those of what follows. -/
theorem lines_documentedText {dataList secretList : List (String × String)}
    (hd : ∀ p ∈ dataList, p.1 ≠ "" ∧ FitsLine p.1 ∧ FitsLine p.2)
    (hs : ∀ p ∈ secretList, p.1 ≠ "" ∧ FitsLine p.1 ∧ FitsLine p.2) (rest : List Char) :
    lines (documentedText dataList secretList ++ rest) =
      documentedLines dataList secretList ++ lines rest := by
  have hall : ∀ line ∈ documentedLines dataList secretList,
      '\n' ∉ line ∧ line.getLast? ≠ some '\r' := by
    intro line hline
    simp only [documentedLines, List.mem_append, List.mem_cons, List.not_mem_nil, or_false] at hline
    obtain hline | rfl | hline | rfl | rfl := hline
    · exact fits_entryLines false hd line hline
    · simp
    · exact fits_entryLines true hs line hline
    · simp
    · exact ⟨by decide, by decide⟩
  rw [documentedText, lines_flatMap_newline_append fun l hl ↦ (hall l hl).1]
  congr 1
  rw [List.map_congr_left fun l hl ↦ chopCr_eq_self_iff.mpr (hall l hl).2, List.map_id']

/-- The maps after the entries of one kind. -/
def storeAll (secret : Bool) (l : List (String × String)) (data secrets : VpnData) :
    VpnData × VpnData :=
  l.foldl (fun maps p ↦ store secret p.1 p.2 maps.1 maps.2) (data, secrets)

/-- A line with a separator does not end the input. -/
theorem ne_done {line : List Char} {p : List Char × List Char} (h : splitOnce '=' line = some p) :
    line ≠ "DONE".toList := by
  rintro rfl
  rw [splitOnce_of_not_mem (by decide)] at h
  simp at h

theorem readReader_entryLines (secret : Bool) {l : List (String × String)}
    (hl : ∀ p ∈ l, p.1 ≠ "") (data secrets : VpnData) (rest : List (Option (List Char))) :
    readReader none data secrets ((entryLines secret l).map some ++ rest) =
      readReader none (storeAll secret l data secrets).1 (storeAll secret l data secrets).2
        rest := by
  induction l generalizing data secrets with
  | nil => rfl
  | cons p l ih =>
    rw [List.forall_mem_cons] at hl
    have hkey : keyLine secret p.1 ≠ "DONE".toList := ne_done (splitOnce_keyLine secret p.1)
    have hval : valLine secret p.2 ≠ "DONE".toList := ne_done (splitOnce_valLine secret p.2)
    have hcons : (entryLines secret (p :: l)).map some ++ rest =
        some (keyLine secret p.1) :: some (valLine secret p.2) ::
          ((entryLines secret l).map some ++ rest) := rfl
    rw [hcons, readReader, if_neg hkey, readLine_keyLine _ _ _ _ hl.1]
    simp only
    rw [readReader, if_neg hval, readLine_valLine]
    exact ih hl.2 _ _

theorem storeAll_false (l : List (String × String)) (data secrets : VpnData) :
    storeAll false l data secrets = (data.insertAll l, secrets) := by
  induction l generalizing data with
  | nil => rfl
  | cons p l ih => exact ih (data.insert p.1 p.2)

theorem storeAll_true (l : List (String × String)) (data secrets : VpnData) :
    storeAll true l data secrets = (data, secrets.insertAll l) := by
  induction l generalizing secrets with
  | nil => rfl
  | cons p l ih => exact ih (secrets.insert p.1 p.2)

/-- The two blocks are read as the two maps, whatever follows the end. -/
theorem readReader_documented {data secrets : VpnData}
    {dataList secretList : List (String × String)} (hd : Written data dataList)
    (hs : Written secrets secretList) (rest : List (Option (List Char))) :
    readReader none Dict.empty Dict.empty ((documentedLines dataList secretList).map some ++ rest) =
      some (data, secrets) := by
  have hblank : ∀ (d s : VpnData) (ls : List (Option (List Char))),
      readReader none d s (some [] :: ls) = readReader none d s ls := fun _ _ _ ↦ rfl
  rw [documentedLines, List.map_append, List.map_cons, List.map_append, List.append_assoc,
    List.cons_append, List.append_assoc,
    readReader_entryLines false (fun p hp ↦ (hd.fits p hp).1), storeAll_false, hblank,
    readReader_entryLines true (fun p hp ↦ (hs.fits p hp).1), storeAll_true, List.map_cons,
    List.cons_append, hblank, hd.lists.insertAll_empty, hs.lists.insertAll_empty]
  rfl

theorem readVpnDetails_documented {data secrets : VpnData}
    {dataList secretList : List (String × String)} (hd : Written data dataList)
    (hs : Written secrets secretList) (rest : String) :
    readVpnDetails (String.ofList (documentedText dataList secretList) ++ rest) =
      (data, secrets) := by
  have hread := readReader_documented hd hs ((lines rest.toList).map some)
  rw [← List.map_append, readReader_map_some, Option.some_inj] at hread
  rw [readVpnDetails, String.toList_append, String.toList_ofList,
    lines_documentedText hd.fits hs.fits, hread]

/-- The connection is read as it was written in the documented format, in whatever order, and
whatever follows; and on every input the stored values were written behind their keys. -/
theorem readVpnDetails_spec :
    (∀ (data secrets : VpnData) (dataList secretList : List (String × String)),
      Written data dataList → Written secrets secretList →
        (∀ rest : String, readVpnDetails
          (String.ofList (documentedText dataList secretList) ++ rest) = (data, secrets)) ∧
        ∀ rest : List (Option (List Char)), readReader none Dict.empty Dict.empty
          ((documentedLines dataList secretList).map some ++ rest) = some (data, secrets)) ∧
    ∀ (ls : List (Option (List Char))) (data secrets : VpnData),
      readReader none Dict.empty Dict.empty ls = some (data, secrets) →
        ∃ consumed rest, ls = consumed.map some ++ rest ∧
          (∀ k v, data k = some v → Stored consumed false k v) ∧
          (∀ k v, secrets k = some v → Stored consumed true k v) := by
  constructor
  · intro data secrets dataList secretList hd hs
    exact ⟨readVpnDetails_documented hd hs, readReader_documented hd hs⟩
  · intro ls data secrets hread
    have hempty : Traced [] none Dict.empty Dict.empty := ⟨by simp, by simp, by simp⟩
    simpa using hempty.readReader hread

/-- The map with one entry. -/
theorem lists_singleton (k v : String) :
    Dict.Lists ((Dict.empty : VpnData).insert k v) [(k, v)] := by
  refine ⟨by simp, fun k' v' ↦ ?_⟩
  rw [Dict.insert, List.mem_singleton, Prod.mk.injEq]
  split_ifs with h
  · simp [h, eq_comm]
  · simp [h]

/-- A value may hold the separator, and what follows the end is not read. -/
theorem readVpnDetails_jwt :
    readVpnDetails (String.ofList (documentedText [("connection-type", "password")]
      [("password", "a=b==c")]) ++ "SECRET_KEY=password\nSECRET_VAL=x\n") =
      ((Dict.empty : VpnData).insert "connection-type" "password",
        (Dict.empty : VpnData).insert "password" "a=b==c") :=
  (readVpnDetails_spec.1 _ _ [("connection-type", "password")] [("password", "a=b==c")]
    ⟨lists_singleton _ _, by simp [FitsLine]⟩ ⟨lists_singleton _ _, by simp [FitsLine]⟩).1 _

end AuthDialog

end NmOpenvpn3
