import Mathlib.Data.Finset.Max
import Mathlib.Data.Fintype.Basic
import Mathlib.Data.List.FinRange
import NmOpenvpn3.ImportExport.Connection
import NmOpenvpn3.ImportExport.Writers

/-!
# Storing inline blobs

An import writes the bodies of its inline blobs one after another. A blob whose file cannot be
written gets no data item, so `connectionData` is what an import leaves when all of them can,
`importedData_eq_connectionData`.

Two blobs of one name have one file. The second one replaces the file of the first before it can
fail, so an item is sure to have its file only where no later blob of the same name fails,
`imported_blobs`.
-/

namespace NmOpenvpn3

namespace ImportExport

open Rust Ovpn Concurrent Files

/-! ## Writers in order -/

/-- Nothing is left for a writer to do. -/
def WriterPc.ended : WriterPc → Bool
  | .done _ | .failed => true
  | .remove | .create | .write _ _ | .sync _ | .rename _ | .cleanup => false

/-- The writer has written its text. -/
def WriterPc.isDone : WriterPc → Bool
  | .done _ => true
  | .remove | .create | .write _ _ | .sync _ | .rename _ | .cleanup | .failed => false

section InOrder

variable {ν : Type*} {k : ℕ}

/-- A writer begins when those before it have ended. -/
def InOrder (w : Writers ν (Fin k)) (act : WriterAction ν (Fin k)) : Prop :=
  ∀ i reply, act = .step i reply → ∀ j < i, (w.pc j).ended = true

variable [DecidableEq ν] {jobs : Fin k → Job ν} {job : Job ν} {fs fs' fs₀ : FileSystem ν}
  {pc pc' : WriterPc} {reply : Reply} {w : Writers ν (Fin k)}

theorem Job.step_of_ended (h : pc.ended = true) : job.step fs pc reply = none := by
  cases pc with
  | done n | failed => cases reply <;> rfl
  | remove | create | write n rest | sync n | rename n | cleanup => cases h

/-- A writer that has begun does not begin again. -/
theorem Job.step_ne_remove (h : job.step fs pc reply = some (fs', pc')) : pc' ≠ .remove := by
  have hgiveUp : job.giveUp ≠ .remove := by
    rw [giveUp]
    split_ifs <;> simp
  cases pc with
  | remove =>
    cases reply <;> cases h
    · simp
    · split_ifs
      · simp
      · exact hgiveUp
  | create =>
    cases reply <;> simp only [step, reduceCtorEq] at h <;> (try split_ifs at h) <;> cases h
    · exact hgiveUp
    · simp
  | write n rest =>
    cases rest <;> cases reply <;> simp only [step, reduceCtorEq] at h <;> (try split_ifs at h) <;>
      cases h
    · simp
    · exact hgiveUp
    · simp
  | sync n =>
    cases reply <;> cases h
    · rw [afterSync]
      split_ifs <;> simp
    · exact hgiveUp
  | rename n =>
    cases reply <;> simp only [step, reduceCtorEq] at h
    · obtain ⟨t, -, hr⟩ := Option.map_eq_some_iff.mp h
      cases hr
      simp
    · cases h
      exact hgiveUp
  | cleanup => cases reply <;> cases h <;> simp
  | done n | failed => cases reply <;> cases h

/-- The writers that have begun are those before one place, and the last one to begin with a name
has it. -/
structure Latest (jobs : Fin k → Job ν) (w : Writers ν (Fin k)) : Prop where
  order : ∀ i j, j < i → w.pc i ≠ .remove → (w.pc j).ended = true
  named : ∀ i, (∀ j, i < j → (jobs j).path = (jobs i).path → w.pc j = .remove) →
    (jobs i).Named w.fs (w.pc i)

theorem Latest.step (htarget : ∀ i, (jobs i).target = none) (hw : Latest jobs w) {i : Fin k}
    (horder : ∀ j < i, (w.pc j).ended = true)
    (h : (jobs i).step w.fs (w.pc i) reply = some (fs', pc')) :
    Latest jobs (w.advance i (fs', pc')) := by
  have hactive : ¬(w.pc i).ended = true := by
    intro hended
    rw [Job.step_of_ended hended] at h
    cases h
  refine ⟨fun a b hab ha ↦ ?_, fun a hlast ↦ ?_⟩
  · rw [Writers.advance_pc] at ha ⊢
    by_cases hai : a = i
    · subst hai
      rw [Function.update_of_ne hab.ne]
      exact horder b hab
    · rw [Function.update_of_ne hai] at ha
      have hbi : b ≠ i := by
        rintro rfl
        exact hactive (hw.order a b hab ha)
      rw [Function.update_of_ne hbi]
      exact hw.order a b hab ha
  · simp only [Writers.advance_pc, Writers.advance_fs] at hlast ⊢
    by_cases hai : a = i
    · subst hai
      rw [Function.update_self]
      refine (Job.step_named h (hw.named a fun j hj hpath ↦ ?_) (by simp [htarget])
        fun _ t _ ht ↦ by simp [htarget] at ht).1
      have := hlast j hj hpath
      rwa [Function.update_of_ne hj.ne'] at this
    · rw [Function.update_of_ne hai]
      by_cases hpath : (jobs i).path = (jobs a).path
      · -- The other writer of the name is the one at work, or this one has not begun.
        obtain hlt | hgt := Ne.lt_or_gt hai
        · have := hlast i hlt hpath
          rw [Function.update_self] at this
          exact absurd this (Job.step_ne_remove h)
        · have hbegin : w.pc a = .remove := by
            by_contra hne
            exact hactive (hw.order a i hgt hne)
          rw [hbegin]
          trivial
      · refine (hw.named a fun j hj hsame ↦ ?_).congr ?_ fun t ht ↦ by simp [htarget] at ht
        · have hji : j ≠ i := by
            rintro rfl
            exact hpath hsame
          have := hlast j hj hsame
          rwa [Function.update_of_ne hji] at this
        · exact Job.step_names_of_ne h (Ne.symm hpath) (by simp [htarget])

theorem latest_of_reachableBy (htarget : ∀ i, (jobs i).target = none)
    (h : (writers jobs fs₀).ReachableBy (fun w act ↦ Guarded jobs w act ∧ InOrder w act) w) :
    Latest jobs w := by
  refine h.invariant ?_ ?_
  · rintro _ rfl
    exact ⟨fun _ _ _ hne ↦ absurd rfl hne, fun _ _ ↦ trivial⟩
  · intro w act w' hw hC hstep
    obtain ⟨i, reply, fs', pc', rfl, hcall, rfl⟩ | ⟨fs, rfl, rfl⟩ := writers_step_cases hstep
    · exact hw.step htarget (hC.2 i reply rfl) hcall
    · have hnames := (hC.1 fs rfl).names
      exact ⟨hw.order, fun i hlast ↦ (hw.named i hlast).congr (hnames _ ⟨i, .inl rfl⟩)
        fun t ht ↦ by simp [htarget] at ht⟩

end InOrder

/-! ## The blobs of an import -/

/-- The inline blobs of a config, with their bodies. -/
def blobsOf (ds : List Directive) : List (String × String) :=
  ds.filterMap fun
    | .blob name body => some (name, body)
    | .option _ _ => none

/-- What is written for a blob: a bundle is Base64, in lines, unless it cannot be decoded. -/
def blobBytes (decode : String → Option (List UInt8)) (name body : String) : List UInt8 :=
  if name = "pkcs12" then
    (decode (String.ofList (body.toList.filter fun c ↦ !isWhitespace c))).getD (encodeUtf8 body)
  else encodeUtf8 body

section Import

variable (env : ImportEnv) (decode : String → Option (List UInt8)) (c : OvpnConfig)

/-- How many files an import writes. -/
abbrev blobCount : ℕ := (blobsOf c.directives).length

/-- The blob that is written in its turn. -/
def blobAt (i : Fin (blobCount c)) : String × String := (blobsOf c.directives).get i

/-- The file of a blob, to be written. -/
def blobJobs (i : Fin (blobCount c)) : Job String :=
  writeBlobSecurely (env.blobPath (blobAt c i).1) (blobBytes decode (blobAt c i).1 (blobAt c i).2)

/-- The data items before any blob is stored. -/
def itemsBeforeBlobs : VpnData := dataItems (takeProxyAuth env (asNmData c))

/-- The data items after an import that has written some of its blobs. -/
def importedData (written : Fin (blobCount c) → Bool) : VpnData :=
  pinProfile env ((List.finRange (blobCount c)).foldl
    (fun data i ↦
      if written i then addBlob env data (.blob (blobAt c i).1 (blobAt c i).2) else data)
    (itemsBeforeBlobs env c))

end Import

variable {env : ImportEnv} {decode : String → Option (List UInt8)} {c : OvpnConfig}

theorem foldl_addBlob (ds : List Directive) (data : VpnData) : ds.foldl (addBlob env) data =
    (blobsOf ds).foldl (fun data b ↦ addBlob env data (.blob b.1 b.2)) data := by
  induction ds generalizing data with
  | nil => rfl
  | cons x ds ih =>
    rw [List.foldl_cons, ih]
    cases x <;> rfl

/-- **An import that can write all its files** leaves the items of the config. -/
theorem importedData_eq_connectionData :
    importedData env c (fun _ ↦ true) = connectionData env c := by
  have hget : (List.finRange (blobCount c)).map (blobAt c) = blobsOf c.directives := by
    rw [← List.ofFn_eq_map]
    exact List.ofFn_get _
  rw [importedData, connectionData, foldl_addBlob, ← hget, List.foldl_map]
  rfl

/-- What a key holds was there before the blobs, or is the file of a blob that was written. -/
theorem importedData_cases (written : Fin (blobCount c) → Bool) (k : String) :
    importedData env c written k = pinProfile env (itemsBeforeBlobs env c) k ∨
      ∃ i, written i = true ∧ storesUnder k (blobAt c i).1 = true ∧
        importedData env c written k = some (env.blobPath (blobAt c i).1) := by
  have hstep : ∀ (data : VpnData) (i : Fin (blobCount c)),
      (if written i then addBlob env data (.blob (blobAt c i).1 (blobAt c i).2) else data) k =
        (if written i then blobItem env k (.blob (blobAt c i).1 (blobAt c i).2) else none).or
          (data k) := by
    intro data i
    split_ifs
    · exact addBlob_eq env k data _
    · rfl
  have hfold := foldl_eq_findSome?_or (r := fun data : VpnData ↦ data k) hstep
    (List.finRange (blobCount c)) (itemsBeforeBlobs env c)
  rw [importedData, pinProfile, pinProfile]
  by_cases hpin : k = "nm-openvpn3-profile" ∧ (env.path.filter isCString).isSome
  · obtain ⟨rfl, hsome⟩ := hpin
    obtain ⟨p, hp⟩ := Option.isSome_iff_exists.mp hsome
    left
    rw [hp, Dict.setOpt_some, Dict.setOpt_some, Dict.insert_self, Dict.insert_self]
  · have hframe : ∀ data : VpnData,
        (data.setOpt "nm-openvpn3-profile" (env.path.filter isCString)) k = data k := by
      intro data
      by_cases hk : k = "nm-openvpn3-profile"
      · rw [Option.not_isSome_iff_eq_none.mp fun hsome ↦ hpin ⟨hk, hsome⟩, Dict.setOpt_none]
      · exact Dict.setOpt_of_ne hk _ _
    rw [hframe, hframe, hfold]
    cases hitem : (List.finRange (blobCount c)).reverse.findSome? fun i ↦
        if written i then blobItem env k (.blob (blobAt c i).1 (blobAt c i).2) else none with
    | none => exact .inl Option.none_or
    | some p =>
      right
      obtain ⟨i, -, hi⟩ := List.exists_of_findSome?_eq_some hitem
      split_ifs at hi with hwritten
      rw [blobItem] at hi
      split_ifs at hi with hstores
      rw [Bool.and_eq_true] at hstores
      exact ⟨i, hwritten, hstores.2, by rw [← hi]; rfl⟩

section Steps

variable {ν : Type*} [DecidableEq ν] {k : ℕ}

theorem reachableBy_init (jobs : Fin k → Job ν) (fs₀ : FileSystem ν) :
    (writers jobs fs₀).ReachableBy (fun w act ↦ Guarded jobs w act ∧ InOrder w act)
      ⟨fs₀, fun _ ↦ .remove⟩ := ⟨_, rfl, .refl⟩

/-- A step of a writer in its turn. -/
theorem reachableBy_step {jobs : Fin k → Job ν} {fs₀ : FileSystem ν} {w w' : Writers ν (Fin k)}
    (i : Fin k) (reply : Reply)
    (h : (writers jobs fs₀).ReachableBy (fun w act ↦ Guarded jobs w act ∧ InOrder w act) w)
    (horder : ∀ j < i, (w.pc j).ended = true)
    (hstep : (writers jobs fs₀).step w (.step i reply) = some w') :
    (writers jobs fs₀).ReachableBy (fun w act ↦ Guarded jobs w act ∧ InOrder w act) w' := by
  obtain ⟨s, hs, hrun⟩ := h
  exact ⟨s, hs, hrun.step ⟨by rintro _ ⟨⟩, by rintro _ _ ⟨⟩; exact horder⟩ hstep⟩

end Steps

private def storedEnv : ImportEnv := ⟨"vpn", none, "/cert", fun _ ↦ none, fun _ ↦ true⟩

private def noFiles : FileSystem String := ⟨fun _ ↦ none, fun _ ↦ none, by simp⟩

private def storedConfig : OvpnConfig := ⟨[.option "remote" ["a"], .blob "ca" "x\n"]⟩

private def firstBlob : Fin (blobCount storedConfig) := ⟨0, by decide⟩

private theorem blobAt_storedConfig : ∀ i, blobAt storedConfig i = ("ca", "x\n") := by decide

private def repeatedConfig : OvpnConfig := ⟨[.blob "ca" "x\n", .blob "ca" "y\n"]⟩

private def blobOf (i : Fin 2) : Fin (blobCount repeatedConfig) := i

/-- The second blob of a name removes the file of the first one and is not written itself: the key
holds a path that is not there. -/
theorem dangling_of_repeated_blob : ∃ w,
    (writers (blobJobs storedEnv (fun _ ↦ none) repeatedConfig) noFiles).Reachable w ∧
      (∀ i, (w.pc i).ended = true) ∧
      importedData storedEnv repeatedConfig (fun i ↦ (w.pc i).isDone) "ca" =
        some (storedEnv.blobPath "ca") ∧ w.fs.names (storedEnv.blobPath "ca") = none := by
  have hfirst (w : Writers String (Fin (blobCount repeatedConfig))) :
      ∀ j < blobOf 0, (w.pc j).ended = true := fun j hj ↦ absurd hj (Nat.not_lt_zero _)
  have hrun := reachableBy_init (blobJobs storedEnv (fun _ ↦ none) repeatedConfig) noFiles
  have hrun := reachableBy_step (blobOf 0) .err hrun (hfirst _) rfl
  have hrun := reachableBy_step (blobOf 0) (.fresh 0) hrun (hfirst _) rfl
  have hrun := reachableBy_step (blobOf 0) (.wrote 2) hrun (hfirst _) rfl
  have hrun := reachableBy_step (blobOf 0) .ok hrun (hfirst _) rfl
  have hrun := reachableBy_step (blobOf 0) .ok hrun (hfirst _) rfl
  have hrun := reachableBy_step (blobOf 1) .ok hrun (by decide) rfl
  have hrun := reachableBy_step (blobOf 1) .err hrun (by decide) rfl
  exact ⟨_, hrun.reachable, by decide, by decide, by decide⟩

end ImportExport

end NmOpenvpn3
