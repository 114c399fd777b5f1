import NmOpenvpn3.Concurrent.Runs
import NmOpenvpn3.Files.System

/-!
# Writing secrets to files

The bodies of inline blobs and the exports may be private keys. Both are written to a file that is
made for the purpose, and an export is then moved onto its target. Here any number of such writers
run in the same directories, together with other users, who do what they like to the names.

Whatever they do, a writer writes to its own private file only, `writers_private`. And where they
leave the names of the writers alone, a target stands for what it did before or for the whole new
text, at every moment, `exports_atomic`.
-/

namespace NmOpenvpn3

namespace ImportExport

open Concurrent Files

variable {ν ι : Type*} [DecidableEq ν] [DecidableEq ι]

/-! ## The programs -/

/-- What is to be written: the body of a blob, or an export, which is written under a temporary name
and then moved onto its target. -/
structure Job (ν : Type*) where
  path : ν
  target : Option ν
  text : List UInt8

/-- `write_blob_securely`. -/
def writeBlobSecurely (path : ν) (body : List UInt8) : Job ν := ⟨path, none, body⟩

/-- The temporary name beside a target, which is a name in a directory. -/
def tmpPath {δ : Type*} (path : δ × String) : δ × String := (path.1, "." ++ path.2 ++ ".tmp")

/-- `export_connection_to_path`. -/
def exportConnectionToPath {δ : Type*} (path : δ × String) (text : List UInt8) : Job (δ × String) :=
  ⟨tmpPath path, some path, text⟩

/-- The program points of a writer, with its open file and what is left to be written to it. -/
inductive WriterPc where
  | remove
  | create
  | write (file : ℕ) (rest : List UInt8)
  | sync (file : ℕ)
  | rename (file : ℕ)
  | cleanup
  | failed
  | done (file : ℕ)
  deriving DecidableEq

/-- What the kernel answers: a call succeeds or fails, a file is made, or some bytes are written. -/
inductive Reply where
  | ok
  | err
  | fresh (file : ℕ)
  | wrote (count : ℕ)

namespace Job

variable (job : Job ν)

/-- Where a failure leads. An export removes its temporary name. -/
def giveUp : WriterPc := if job.target.isSome then .cleanup else .failed

/-- What follows the writing. -/
def afterSync (n : ℕ) : WriterPc := if job.target.isSome then .rename n else .done n

/-- The next call of a writer. -/
def step (fs : FileSystem ν) : WriterPc → Reply → Option (FileSystem ν × WriterPc)
  -- A name that is not there need not be removed.
  | .remove, .ok => some (fs.unlink job.path, .create)
  | .remove, .err => some (fs, if fs.names job.path = none then .create else job.giveUp)
  -- `O_EXCL`: the name must not be there, not even as a link.
  | .create, .fresh n =>
    if fs.names job.path = none ∧ fs.inodes n = none then
      some (fs.create job.path n, .write n job.text)
    else none
  | .create, .err => some (fs, job.giveUp)
  | .write n [], .ok => some (fs, .sync n)
  | .write n (b :: bs), .wrote k =>
    if 0 < k ∧ k ≤ (b :: bs).length then
      some (fs.append n ((b :: bs).take k), .write n ((b :: bs).drop k))
    else none
  | .write _ (_ :: _), .err => some (fs, job.giveUp)
  | .sync n, .ok => some (fs, job.afterSync n)
  | .sync _, .err => some (fs, job.giveUp)
  | .rename n, .ok => job.target.map fun t ↦ (fs.rename job.path t, .done n)
  | .rename _, .err => some (fs, job.giveUp)
  | .cleanup, .ok => some (fs.unlink job.path, .failed)
  | .cleanup, .err => some (fs, .failed)
  | _, _ => none

end Job

/-- The file system, and where the writers are. -/
structure Writers (ν ι : Type*) where
  fs : FileSystem ν
  pc : ι → WriterPc

/-- A writer has made its call. -/
@[simps] def Writers.advance (w : Writers ν ι) (i : ι) (r : FileSystem ν × WriterPc) :
    Writers ν ι := ⟨r.1, Function.update w.pc i r.2⟩

/-- A writer makes its next call, or others do something to the file system. -/
inductive WriterAction (ν ι : Type*) where
  | step (i : ι) (reply : Reply)
  | others (fs : FileSystem ν)

/-- Any number of writers. -/
def writers (jobs : ι → Job ν) (fs₀ : FileSystem ν) :
    Machine (Writers ν ι) (WriterAction ν ι) where
  init w := w = ⟨fs₀, fun _ ↦ .remove⟩
  step w
    | .step i reply =>
      ((jobs i).step w.fs (w.pc i) reply).map (w.advance i)
    | .others fs => some { w with fs := fs }

/-- Others interfere, whatever they do to the names. -/
def Hostile (w : Writers ν ι) (act : WriterAction ν ι) : Prop :=
  ∀ fs, act = .others fs → w.fs.Interferes fs

/-- Others leave the names of the writers alone. -/
def Guarded (jobs : ι → Job ν) (w : Writers ν ι) (act : WriterAction ν ι) : Prop :=
  ∀ fs, act = .others fs →
    w.fs.InterferesBut {name | ∃ i, name = (jobs i).path ∨ (jobs i).target = some name} fs

/-! ## The files of the writers -/

/-- The file that a writer has open or has finished, and what is left to be written to it. -/
def WriterPc.file : WriterPc → Option (ℕ × List UInt8)
  | .write n rest => some (n, rest)
  | .sync n | .rename n | .done n => some (n, [])
  | .remove | .create | .cleanup | .failed => none

variable {jobs : ι → Job ν} {job : Job ν} {fs fs' fs₀ : FileSystem ν} {pc pc' : WriterPc}
  {reply : Reply} {w w' : Writers ν ι} {i j : ι}

omit [DecidableEq ν] in
@[simp] theorem Job.file_giveUp : job.giveUp.file = none := by
  rw [giveUp]
  split_ifs <;> rfl

omit [DecidableEq ν] in
@[simp] theorem Job.file_afterSync (n : ℕ) : (job.afterSync n).file = some (n, []) := by
  rw [afterSync]
  split_ifs <;> rfl

/-- What a call of a writer does to the files. -/
theorem Job.step_inodes (h : job.step fs pc reply = some (fs', pc')) :
    fs'.inodes = fs.inodes ∧ (pc'.file = none ∨ pc'.file = pc.file) ∨
      (∃ n, fs.inodes n = none ∧ fs'.inodes = (fs.create job.path n).inodes ∧
        pc'.file = some (n, job.text)) ∨
      ∃ n rest k, pc.file = some (n, rest) ∧ fs'.inodes = (fs.append n (rest.take k)).inodes ∧
        pc'.file = some (n, rest.drop k) := by
  cases pc with
  | write n rest =>
    cases rest with
    | nil =>
      cases reply <;> cases h
      exact .inl ⟨rfl, .inr rfl⟩
    | cons b bs =>
      cases reply with
      | wrote k =>
        rw [step] at h
        split_ifs at h
        cases h
        exact .inr (.inr ⟨n, b :: bs, k, rfl, rfl, rfl⟩)
      | err =>
        cases h
        exact .inl ⟨rfl, .inl Job.file_giveUp⟩
      | ok | fresh m => cases h
  | create =>
    cases reply with
    | fresh n =>
      rw [step] at h
      split_ifs at h with hfree
      cases h
      exact .inr (.inl ⟨n, hfree.2, rfl, rfl⟩)
    | err =>
      cases h
      exact .inl ⟨rfl, .inl Job.file_giveUp⟩
    | ok | wrote k => cases h
  | remove =>
    cases reply <;> cases h
    · exact .inl ⟨rfl, .inl rfl⟩
    · refine .inl ⟨rfl, .inl ?_⟩
      split_ifs
      · rfl
      · exact Job.file_giveUp
  | rename n =>
    cases reply with
    | ok =>
      obtain ⟨t, -, ht⟩ := Option.map_eq_some_iff.mp h
      cases ht
      exact .inl ⟨rfl, .inr rfl⟩
    | err =>
      cases h
      exact .inl ⟨rfl, .inl Job.file_giveUp⟩
    | fresh m | wrote k => cases h
  | sync n =>
    cases reply <;> cases h
    · exact .inl ⟨rfl, .inr (Job.file_afterSync n)⟩
    · exact .inl ⟨rfl, .inl Job.file_giveUp⟩
  | cleanup => cases reply <;> cases h <;> exact .inl ⟨rfl, .inl rfl⟩
  | failed | done n => cases reply <;> cases h

/-- A writer has made its file itself: the file is private, and holds what has been written. -/
structure Owns (jobs : ι → Job ν) (fs₀ : FileSystem ν) (w : Writers ν ι) : Prop where
  file : ∀ i n rest, (w.pc i).file = some (n, rest) → fs₀.inodes n = none ∧
    ∃ written, w.fs.inodes n = some ⟨true, written⟩ ∧ (jobs i).text = written ++ rest
  apart : ∀ i j n rest rest', (w.pc i).file = some (n, rest) → (w.pc j).file = some (n, rest') →
    i = j
  known : ∀ n, (fs₀.inodes n).isSome → (w.fs.inodes n).isSome

/-- The steps of the writers and of the others. -/
theorem writers_step_cases {act : WriterAction ν ι}
    (h : (writers jobs fs₀).step w act = some w') :
    (∃ i reply fs' pc', act = .step i reply ∧
      (jobs i).step w.fs (w.pc i) reply = some (fs', pc') ∧
        w' = w.advance i (fs', pc')) ∨
      ∃ fs, act = .others fs ∧ w' = { w with fs := fs } := by
  cases act with
  | step i reply =>
    obtain ⟨⟨fs', pc'⟩, hstep, rfl⟩ := Option.map_eq_some_iff.mp h
    exact .inl ⟨i, reply, fs', pc', rfl, hstep, rfl⟩
  | others fs =>
    obtain rfl := Option.some_inj.mp h
    exact .inr ⟨fs, rfl, rfl⟩

/-- No file disappears from sight. -/
theorem Job.step_known (h : job.step fs pc reply = some (fs', pc')) {n : ℕ}
    (hn : (fs.inodes n).isSome) : (fs'.inodes n).isSome := by
  obtain ⟨hsame, -⟩ | ⟨m, -, hfs, -⟩ | ⟨m, rest, k, -, hfs, -⟩ := step_inodes h
  · rwa [hsame]
  · rw [hfs]
    by_cases hm : n = m <;> simp [hm, hn]
  · rw [hfs]
    by_cases hm : n = m
    · subst hm
      simpa using hn
    · simpa [hm] using hn

/-- A call of a writer leaves the files of others alone. -/
theorem Job.step_inodes_of_ne (h : job.step fs pc reply = some (fs', pc')) {n : ℕ}
    (hn : (fs.inodes n).isSome) (hne : ∀ rest, pc.file ≠ some (n, rest)) :
    fs'.inodes n = fs.inodes n := by
  obtain ⟨hsame, -⟩ | ⟨m, hfree, hfs, -⟩ | ⟨m, rest, k, hfile, hfs, -⟩ := step_inodes h
  · rw [hsame]
  · have hm : n ≠ m := by
      rintro rfl
      rw [hfree] at hn
      cases hn
    rw [hfs]
    simp [hm]
  · have hm : n ≠ m := by
      rintro rfl
      exact hne rest hfile
    rw [hfs]
    simp [hm]

/-- A call of a writer keeps its hold on its file. -/
theorem Owns.step (hw : Owns jobs fs₀ w) (h : (jobs i).step w.fs (w.pc i) reply = some (fs', pc')) :
    Owns jobs fs₀ (w.advance i (fs', pc')) := by
  -- The files of the other writers stay as they are.
  have hothers : ∀ j n rest, j ≠ i → (w.pc j).file = some (n, rest) → fs₀.inodes n = none ∧
      ∃ written, fs'.inodes n = some ⟨true, written⟩ ∧ (jobs j).text = written ++ rest := by
    intro j n rest hj hfile
    obtain ⟨hnew, written, hn, htext⟩ := hw.file j n rest hfile
    refine ⟨hnew, written, ?_, htext⟩
    rw [Job.step_inodes_of_ne h (by simp [hn]) fun rest' hi ↦ hj (hw.apart j i n _ _ hfile hi), hn]
  have hself : ∀ n rest, pc'.file = some (n, rest) → (fs₀.inodes n = none ∧
      ∃ written, fs'.inodes n = some ⟨true, written⟩ ∧ (jobs i).text = written ++ rest) ∧
        ∀ j rest', j ≠ i → (w.pc j).file ≠ some (n, rest') := by
    intro n rest hfile
    obtain ⟨hsame, hpc | hpc⟩ | ⟨m, hfree, hfs, hpc⟩ | ⟨m, rest', k, hold, hfs, hpc⟩ :=
      Job.step_inodes h
    · rw [hpc] at hfile
      cases hfile
    · rw [hpc] at hfile
      rw [hsame]
      exact ⟨hw.file i n rest hfile, fun j rest' hj hj' ↦ hj (hw.apart j i n _ _ hj' hfile)⟩
    · rw [hpc] at hfile
      obtain ⟨rfl, rfl⟩ := Prod.mk.inj (Option.some_inj.mp hfile)
      refine ⟨⟨?_, [], by rw [hfs]; simp, rfl⟩, fun j rest' hj hj' ↦ ?_⟩
      · rw [← Option.not_isSome_iff_eq_none]
        intro hsome
        have := hw.known m hsome
        rw [hfree] at this
        cases this
      · obtain ⟨-, written, hm, -⟩ := hw.file j m rest' hj'
        rw [hfree] at hm
        cases hm
    · rw [hpc] at hfile
      obtain ⟨rfl, rfl⟩ := Prod.mk.inj (Option.some_inj.mp hfile)
      obtain ⟨hnew, written, hm, htext⟩ := hw.file i m rest' hold
      refine ⟨⟨hnew, written ++ rest'.take k, ?_, ?_⟩, fun j rest₁ hj hj' ↦
        hj (hw.apart j i m _ _ hj' hold)⟩
      · rw [hfs]
        simp [hm]
      · rw [htext, List.append_assoc, List.take_append_drop]
  refine ⟨fun j n rest hfile ↦ ?_, fun j j' n rest rest' hfile hfile' ↦ ?_, fun n hn ↦
    Job.step_known h (hw.known n hn)⟩
  · rw [Writers.advance_pc] at hfile
    by_cases hj : j = i
    · subst hj
      rw [Function.update_self] at hfile
      exact (hself n rest hfile).1
    · rw [Function.update_of_ne hj] at hfile
      exact hothers j n rest hj hfile
  · rw [Writers.advance_pc] at hfile hfile'
    by_cases hj : j = i <;> by_cases hj' : j' = i
    · rw [hj, hj']
    · subst hj
      rw [Function.update_self] at hfile
      rw [Function.update_of_ne hj'] at hfile'
      exact absurd hfile' ((hself n rest hfile).2 j' rest' hj')
    · subst hj'
      rw [Function.update_self] at hfile'
      rw [Function.update_of_ne hj] at hfile
      exact absurd hfile ((hself n rest' hfile').2 j rest hj)
    · rw [Function.update_of_ne hj] at hfile
      rw [Function.update_of_ne hj'] at hfile'
      exact hw.apart j j' n _ _ hfile hfile'

omit [DecidableEq ν] [DecidableEq ι] in
theorem Owns.interferes (hw : Owns jobs fs₀ w) (h : w.fs.Interferes fs) :
    Owns jobs fs₀ { w with fs := fs } := by
  refine ⟨fun i n rest hfile ↦ ?_, hw.apart, fun n hn ↦ h.known n (hw.known n hn)⟩
  obtain ⟨hnew, written, hn, htext⟩ := hw.file i n rest hfile
  exact ⟨hnew, written, h.kept n _ hn rfl, htext⟩

theorem owns_of_reachableBy (h : (writers jobs fs₀).ReachableBy Hostile w) :
    Owns jobs fs₀ w := by
  refine h.invariant ?_ ?_
  · rintro _ rfl
    exact ⟨fun _ _ _ h ↦ absurd h (by simp [WriterPc.file]),
      fun _ _ _ _ _ h ↦ absurd h (by simp [WriterPc.file]), fun _ hn ↦ hn⟩
  · intro w act w' hw hC hstep
    obtain ⟨i, reply, fs', pc', rfl, hcall, rfl⟩ | ⟨fs, rfl, rfl⟩ := writers_step_cases hstep
    · exact hw.step hcall
    · exact hw.interferes (hC fs rfl)

/-- What a call of a writer changes is its own file. -/
theorem Job.file_of_ne (h : job.step fs pc reply = some (fs', pc')) {n : ℕ}
    (hne : fs'.inodes n ≠ fs.inodes n) : ∃ rest, pc'.file = some (n, rest) := by
  obtain ⟨hsame, -⟩ | ⟨m, -, hfs, hpc⟩ | ⟨m, rest, k, -, hfs, hpc⟩ := step_inodes h
  · exact absurd (congrFun hsame n) hne
  · by_cases hm : n = m
    · exact ⟨_, hm ▸ hpc⟩
    · exact absurd (by rw [hfs]; simp [hm]) hne
  · by_cases hm : n = m
    · exact ⟨_, hm ▸ hpc⟩
    · exact absurd (by rw [hfs]; simp [hm]) hne

/-- **A writer writes to its own private file only**, whatever others do to the names meanwhile. The
file was not there before, it holds what the writer has written of its text so far, and no step of a
writer changes any other file. -/
theorem writers_private (h : (writers jobs fs₀).ReachableBy Hostile w) :
    (∀ i n rest, (w.pc i).file = some (n, rest) → fs₀.inodes n = none ∧
      ∃ written, w.fs.inodes n = some ⟨true, written⟩ ∧ (jobs i).text = written ++ rest) ∧
    (∀ i n, w.pc i = .done n → w.fs.inodes n = some ⟨true, (jobs i).text⟩) ∧
    ∀ i reply w', (writers jobs fs₀).step w (.step i reply) = some w' →
      ∀ n, w'.fs.inodes n ≠ w.fs.inodes n →
        fs₀.inodes n = none ∧ ∃ rest, (w'.pc i).file = some (n, rest) := by
  have howns := owns_of_reachableBy h
  refine ⟨howns.file, fun i n hdone ↦ ?_, fun i reply w' hstep n hne ↦ ?_⟩
  · obtain ⟨-, written, hn, htext⟩ := howns.file i n [] (by rw [hdone]; rfl)
    rw [hn, htext, List.append_nil]
  · obtain ⟨⟨fs', pc'⟩, hcall, rfl⟩ := Option.map_eq_some_iff.mp hstep
    obtain ⟨rest, hfile⟩ := Job.file_of_ne hcall hne
    have hself : ((w.advance i (fs', pc')).pc i).file = some (n, rest) := by
      rw [Writers.advance_pc, Function.update_self]
      exact hfile
    exact ⟨((howns.step hcall).file i n rest hself).1, rest, hself⟩

/-! ## The names of the writers -/

/-- No two writers use the same name. -/
structure DistinctNames (jobs : ι → Job ν) : Prop where
  paths : ∀ i j, (jobs i).path = (jobs j).path → i = j
  targets : ∀ i j t, (jobs i).target = some t → (jobs j).target = some t → i = j
  apart : ∀ i j, (jobs i).target ≠ some (jobs j).path

omit [DecidableEq ι] in
/-- Exports to different targets are enough, if none of these is the temporary name of another. -/
theorem distinctNames_exports {δ : Type*} {path : ι → δ × String} (text : ι → List UInt8)
    (hpath : path.Injective) (htmp : ∀ i j, path i ≠ tmpPath (path j)) :
    DistinctNames fun i ↦ exportConnectionToPath (path i) (text i) := by
  refine ⟨fun i j h ↦ hpath ?_, fun i j t hi hj ↦ hpath ?_, fun i j h ↦ ?_⟩
  · obtain ⟨hdir, hname⟩ := Prod.mk.inj h
    simp only [String.append_left_inj, String.append_right_inj] at hname
    exact Prod.ext hdir hname
  · exact (Option.some_inj.mp hi).trans (Option.some_inj.mp hj).symm
  · exact htmp i j (Option.some_inj.mp h)

/-- The names of a writer stand for its file. -/
def Job.Named (job : Job ν) (fs : FileSystem ν) : WriterPc → Prop
  | .write n _ | .sync n | .rename n => fs.names job.path = some (.file n)
  | .done n => fs.names (job.target.getD job.path) = some (.file n)
  | .remove | .create | .cleanup | .failed => True

/-- A call of a writer leaves other names alone. -/
theorem Job.step_names_of_ne (h : job.step fs pc reply = some (fs', pc')) {name : ν}
    (hpath : name ≠ job.path) (htarget : job.target ≠ some name) :
    fs'.names name = fs.names name := by
  cases pc with
  | write n rest =>
    cases rest <;> cases reply <;> simp only [step, reduceCtorEq] at h <;> (try split_ifs at h) <;>
      cases h <;> rfl
  | create =>
    cases reply <;> simp only [step, reduceCtorEq] at h <;> (try split_ifs at h) <;> cases h
    · rfl
    · simp [hpath]
  | remove | cleanup => cases reply <;> cases h <;> simp [hpath]
  | rename n =>
    cases reply <;> simp only [step, reduceCtorEq] at h
    · obtain ⟨t, ht, hr⟩ := Option.map_eq_some_iff.mp h
      have hne : name ≠ t := by
        rintro rfl
        exact htarget ht
      cases hr
      rw [FileSystem.rename_names]
      split_ifs
      · rfl
      · simp [hpath, hne]
    · cases h
      rfl
  | sync n => cases reply <;> cases h <;> rfl
  | failed | done n => cases reply <;> cases h

omit [DecidableEq ν] in
@[simp] theorem Job.named_giveUp : job.Named fs job.giveUp := by
  rw [giveUp]
  split_ifs <;> trivial

/-- A call of a writer keeps the name of its file, and leaves the target alone until it is done. -/
theorem Job.step_named (h : job.step fs pc reply = some (fs', pc')) (hnamed : job.Named fs pc)
    (hapart : job.target ≠ some job.path)
    (hnew : ∀ n t, pc = .rename n → job.target = some t → fs.names t ≠ some (.file n)) :
    job.Named fs' pc' ∧
      ∀ t, job.target = some t → (∀ n, pc' ≠ .done n) → fs'.names t = fs.names t := by
  have hframe : (∀ t, job.target = some t → t ≠ job.path) := by
    rintro t ht rfl
    exact hapart ht
  cases pc with
  | write n rest =>
    refine ⟨?_, fun t ht _ ↦ ?_⟩ <;>
    cases rest <;> cases reply <;> simp only [step, reduceCtorEq] at h <;> (try split_ifs at h) <;>
      cases h <;> first | exact hnamed | exact named_giveUp | rfl
  | create =>
    cases reply <;> simp only [step, reduceCtorEq] at h <;> (try split_ifs at h) <;> cases h
    · exact ⟨named_giveUp, fun _ _ _ ↦ rfl⟩
    · exact ⟨Function.update_self .., fun t ht _ ↦ Function.update_of_ne (hframe t ht) ..⟩
  | remove =>
    cases reply <;> cases h
    · exact ⟨trivial, fun t ht _ ↦ Function.update_of_ne (hframe t ht) ..⟩
    · refine ⟨?_, fun _ _ _ ↦ rfl⟩
      split_ifs
      · trivial
      · exact named_giveUp
  | cleanup =>
    cases reply <;> cases h
    · exact ⟨trivial, fun t ht _ ↦ Function.update_of_ne (hframe t ht) ..⟩
    · exact ⟨trivial, fun _ _ _ ↦ rfl⟩
  | rename n =>
    cases reply <;> simp only [step, reduceCtorEq] at h
    · obtain ⟨t, ht, hr⟩ := Option.map_eq_some_iff.mp h
      cases hr
      refine ⟨?_, fun _ _ hdone ↦ absurd rfl (hdone n)⟩
      have hdiff : fs.sameFile job.path t = false := by
        have hpath : fs.names job.path = some (.file n) := hnamed
        have htarget := hnew n t rfl ht
        rw [FileSystem.sameFile, hpath]
        cases hnode : fs.names t with
        | none => simp [Ne.symm (hframe t ht)]
        | some node =>
          rw [hnode] at htarget
          cases node with
          | file m =>
            have hm : n ≠ m := by
              rintro rfl
              exact htarget rfl
            simp [Ne.symm (hframe t ht), hm]
          | symlink | special => simp [Ne.symm (hframe t ht)]
      rw [Named, ht, Option.getD_some, FileSystem.rename_names, hdiff]
      have hpath : fs.names job.path = some (.file n) := hnamed
      simp [hframe t ht, hpath]
    · cases h
      exact ⟨named_giveUp, fun _ _ _ ↦ rfl⟩
  | sync n =>
    cases reply <;> cases h
    · refine ⟨?_, fun _ _ _ ↦ rfl⟩
      have hpath : fs.names job.path = some (.file n) := hnamed
      rw [afterSync]
      cases htarget : job.target with
      | none => simpa [Named, htarget] using hpath
      | some t => simpa [Named] using hpath
    · exact ⟨named_giveUp, fun _ _ _ ↦ rfl⟩
  | failed | done n => cases reply <;> cases h

/-- Every writer has its names, and no target is touched before its time. -/
structure Placed (jobs : ι → Job ν) (fs₀ : FileSystem ν) (w : Writers ν ι) : Prop where
  named : ∀ i, (jobs i).Named w.fs (w.pc i)
  target : ∀ i t, (jobs i).target = some t → (∀ n, w.pc i ≠ .done n) → w.fs.names t = fs₀.names t

omit [DecidableEq ν] in
/-- Names are kept by what leaves them alone. -/
theorem Job.Named.congr (h : job.Named fs pc) (hpath : fs'.names job.path = fs.names job.path)
    (htarget : ∀ t, job.target = some t → fs'.names t = fs.names t) : job.Named fs' pc := by
  cases pc with
  | write n rest | sync n | rename n => exact hpath.trans h
  | done n =>
    rw [Named] at h ⊢
    cases ht : job.target with
    | none =>
      rw [ht] at h
      exact hpath.trans h
    | some t =>
      rw [ht] at h
      exact (htarget t ht).trans h
  | remove | create | cleanup | failed => trivial

theorem Placed.step (hdistinct : DistinctNames jobs) (howns : Owns jobs fs₀ w)
    (hw : Placed jobs fs₀ w) (h : (jobs i).step w.fs (w.pc i) reply = some (fs', pc')) :
    Placed jobs fs₀ (w.advance i (fs', pc')) := by
  have hnew : ∀ n t, w.pc i = .rename n → (jobs i).target = some t →
      w.fs.names t ≠ some (.file n) := by
    intro n t hpc ht
    rw [hw.target i t ht (by simp [hpc])]
    intro hold
    -- A file that had a name before is none that a writer has made.
    have hnone := (howns.file i n [] (by rw [hpc]; rfl)).1
    have hsome := fs₀.linked t n hold
    rw [hnone] at hsome
    cases hsome
  obtain ⟨hnamed, htarget⟩ := Job.step_named h (hw.named i) (hdistinct.apart i i) hnew
  have hpaths : ∀ j, j ≠ i → fs'.names (jobs j).path = w.fs.names (jobs j).path :=
    fun j hj ↦ Job.step_names_of_ne h (fun he ↦ hj (hdistinct.paths j i he)) (hdistinct.apart i j)
  have htargets : ∀ j t, j ≠ i → (jobs j).target = some t → fs'.names t = w.fs.names t := by
    intro j t hj ht
    refine Job.step_names_of_ne h ?_ fun ht' ↦ hj (hdistinct.targets j i t ht ht')
    rintro rfl
    exact hdistinct.apart j i ht
  refine ⟨fun j ↦ ?_, fun j t ht hdone ↦ ?_⟩
  · rw [Writers.advance_pc]
    by_cases hj : j = i
    · subst hj
      rw [Function.update_self]
      exact hnamed
    · rw [Function.update_of_ne hj]
      exact (hw.named j).congr (hpaths j hj) fun t ht ↦ htargets j t hj ht
  · rw [Writers.advance_pc] at hdone
    by_cases hj : j = i
    · subst hj
      rw [Function.update_self] at hdone
      have hbefore : ∀ n, w.pc j ≠ .done n := by
        intro n hn
        rw [hn] at h
        cases reply <;> cases h
      exact (htarget t ht hdone).trans (hw.target j t ht hbefore)
    · rw [Function.update_of_ne hj] at hdone
      exact (htargets j t hj ht).trans (hw.target j t ht hdone)

theorem placed_of_reachableBy (hdistinct : DistinctNames jobs)
    (h : (writers jobs fs₀).ReachableBy (Guarded jobs) w) : Placed jobs fs₀ w := by
  refine h.invariant_of_reachableBy ?_ ?_
  · rintro _ rfl
    exact ⟨fun _ ↦ trivial, fun _ _ _ _ ↦ rfl⟩
  · intro w act w' hreach hw hC hstep
    have howns : Owns jobs fs₀ w := owns_of_reachableBy
      (hreach.mono fun w act hguard fs hfs ↦ (hguard fs hfs).toInterferes)
    obtain ⟨i, reply, fs', pc', rfl, hcall, rfl⟩ | ⟨fs, rfl, rfl⟩ := writers_step_cases hstep
    · exact hw.step hdistinct howns hcall
    · have hnames := (hC fs rfl).names
      have htarget : ∀ i t, (jobs i).target = some t → fs.names t = w.fs.names t :=
        fun i t ht ↦ hnames t ⟨i, .inr ht⟩
      exact ⟨fun i ↦ (hw.named i).congr (hnames _ ⟨i, .inl rfl⟩) fun t ht ↦ htarget i t ht,
        fun i t ht hdone ↦ (htarget i t ht).trans (hw.target i t ht hdone)⟩

/-- **A text is written as a whole or not at all.** Where others leave the names of the writers
alone and no two writers share a name: a writer that is done has put its whole text, in a private
file, where it belongs, and until then the target of an export stands for what it did before. -/
theorem exports_atomic (hdistinct : DistinctNames jobs)
    (h : (writers jobs fs₀).ReachableBy (Guarded jobs) w) (i : ι) :
    ((∃ n, w.pc i = .done n) → w.fs.lookup ((jobs i).target.getD (jobs i).path) =
      some ⟨true, (jobs i).text⟩) ∧
    ((∀ n, w.pc i ≠ .done n) → ∀ t, (jobs i).target = some t → w.fs.names t = fs₀.names t) := by
  have hplaced := placed_of_reachableBy hdistinct h
  have hdone := (writers_private
    (h.mono fun w act hguard fs hfs ↦ (hguard fs hfs).toInterferes)).2.1 i
  refine ⟨?_, fun hnot t ht ↦ hplaced.target i t ht hnot⟩
  rintro ⟨n, hpc⟩
  have hname := hplaced.named i
  rw [hpc, Job.Named] at hname
  rw [FileSystem.lookup, hname]
  exact hdone n hpc

/-! ### A blob and an export -/

/-- A link where a key is to be stored, and an old export. -/
private def sampleFs : FileSystem (String × String) where
  names k :=
    if k = ("/cert", "key.pem") then some .symlink
    else if k = ("/home", "vpn.ovpn") then some (.file 0) else none
  inodes n := if n = 0 then some ⟨false, [7]⟩ else none
  linked k n h := by
    split_ifs at h <;> simp only [Option.some.injEq, Node.file.injEq, reduceCtorEq] at h
    rw [if_pos h.symm]
    rfl

private def sampleJobs (i : Bool) : Job (String × String) :=
  if i then exportConnectionToPath ("/home", "vpn.ovpn") [2, 3]
  else writeBlobSecurely ("/cert", "key.pem") [1]

/-- Both write at the same time. -/
private def sampleRun : List (WriterAction (String × String) Bool) :=
  [.step true .err, .step false .ok, .step true (.fresh 1), .step false (.fresh 2),
    .step true (.wrote 1), .step false (.wrote 1), .step true (.wrote 1), .step false .ok,
    .step true .ok, .step false .ok, .step true .ok, .step true .ok]

/-- A run in which others do nothing. -/
theorem reachableBy_steps {C : Writers ν ι → WriterAction ν ι → Prop}
    (hC : ∀ w i reply, C w (.step i reply)) {as : List (WriterAction ν ι)}
    (has : ∀ a ∈ as, ∃ i reply, a = .step i reply) :
    (writers jobs fs₀).ReachableBy C
      (((writers jobs fs₀).run ⟨fs₀, fun _ ↦ .remove⟩ as).getD ⟨fs₀, fun _ ↦ .remove⟩) := by
  have hallows : ∀ w, (writers jobs fs₀).Allows C w as := by
    induction as with
    | nil => exact fun _ ↦ trivial
    | cons a as ih =>
      rw [List.forall_mem_cons] at has
      obtain ⟨⟨i, reply, rfl⟩, has⟩ := has
      exact fun w ↦ ⟨hC w i reply, ih has _⟩
  exact Machine.ReachableBy.getD_run ⟨_, rfl, Relation.ReflTransGen.refl⟩ as (hallows _)

private theorem sampleRun_steps : ∀ a ∈ sampleRun, ∃ i reply, a = .step i reply := by
  simp [sampleRun]

private def sampleEnd : Writers (String × String) Bool :=
  ((writers sampleJobs sampleFs).run ⟨sampleFs, fun _ ↦ .remove⟩ sampleRun).getD
    ⟨sampleFs, fun _ ↦ .remove⟩

theorem writers_private_sample : sampleEnd.fs.inodes 2 = some ⟨true, [1]⟩ :=
  (writers_private (w := sampleEnd)
    (reachableBy_steps (by rintro _ _ _ _ ⟨⟩) sampleRun_steps)).2.1 false 2 (by decide)

private theorem sampleJobs_distinct : DistinctNames sampleJobs :=
  ⟨by decide, by
    intro i j t hi hj
    cases i <;> cases j <;> simp_all [sampleJobs, exportConnectionToPath, writeBlobSecurely],
    by decide⟩

theorem exports_atomic_sample : sampleEnd.fs.lookup ("/home", "vpn.ovpn") = some ⟨true, [2, 3]⟩ ∧
    sampleEnd.fs.lookup ("/cert", "key.pem") = some ⟨true, [1]⟩ := by
  have h := exports_atomic (w := sampleEnd) sampleJobs_distinct
    (reachableBy_steps (by rintro _ _ _ _ ⟨⟩) sampleRun_steps)
  exact ⟨(h true).1 ⟨1, by decide⟩, (h false).1 ⟨2, by decide⟩⟩

/-- Two exports to one target, which have one temporary name. -/
private def sharedJobs (_ : Bool) : Job (String × String) :=
  exportConnectionToPath ("/home", "vpn.ovpn") [2, 3]

/-- The second one replaces the temporary file of the first one, which then moves it. -/
private def sharedRun : List (WriterAction (String × String) Bool) :=
  [.step true .err, .step true (.fresh 1), .step false .ok, .step false (.fresh 2),
    .step false (.wrote 1), .step true (.wrote 2), .step true .ok, .step true .ok, .step true .ok]

private def sharedEnd : Writers (String × String) Bool :=
  ((writers sharedJobs sampleFs).run ⟨sampleFs, fun _ ↦ .remove⟩ sharedRun).getD
    ⟨sampleFs, fun _ ↦ .remove⟩

/-- Writers that share a name can leave half a text. -/
theorem not_atomic_of_shared_name :
    (writers sharedJobs sampleFs).ReachableBy (Guarded sharedJobs) sharedEnd ∧
      sharedEnd.pc true = .done 1 ∧ sharedEnd.fs.lookup ("/home", "vpn.ovpn") = some ⟨true, [2]⟩ :=
  ⟨reachableBy_steps (by rintro _ _ _ _ ⟨⟩) (by simp [sharedRun]), by decide, by decide⟩

end ImportExport

end NmOpenvpn3
