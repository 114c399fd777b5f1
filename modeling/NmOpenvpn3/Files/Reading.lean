import Mathlib.Data.List.TakeDrop
import NmOpenvpn3.Files.System

/-!
# Bounded reads

A reader opens a name without following a link, looks at the size of what it has opened, and reads
it to the end or to one byte past a bound, whichever comes first; then it decodes what it has. Names
and files may change between any two of its calls: a run is the list of file systems that the calls
see, `Turn`.

Whatever happens, the reader ends, in a number of calls that the bound gives,
`exists_readCapped_eq_done`. What it returns is what its calls have returned of a regular file, up
to the end of the file as it was by then, and no more bytes than the bound,
`readWhole_of_readCapped`. If the file that it has opened does not change, it reads just that,
`Steady.readCapped_eq`, and a run is then the function `FileSystem.read`.
-/

namespace NmOpenvpn3

namespace Files

variable {ν α : Type*}

/-- Why nothing is read. -/
inductive ReadError where
  | openFailed
  | statFailed
  | notRegular
  | tooLarge (size : ℕ)
  | readFailed
  | grew
  deriving DecidableEq

/-- The program points of a reader, with its open file and what it has read. -/
inductive ReaderPc (α : Type*) where
  | open
  | stat (file : ℕ)
  | read (file : ℕ) (buf : List UInt8)
  | done (result : Except ReadError α)
  deriving DecidableEq

/-- What a reader returns, once it has ended. -/
def ReaderPc.result : ReaderPc α → Option (Except ReadError α)
  | .done r => some r
  | .open | .stat _ | .read _ _ => none

/-- What one call of a reader meets with: the file system as it is then, how many bytes are returned
at most, and whether the call fails. -/
structure Turn (ν : Type*) where
  fs : FileSystem ν
  count : ℕ
  fails : Bool

/-- The bytes of a file. -/
def FileSystem.content (fs : FileSystem ν) (n : ℕ) : List UInt8 := (fs.inodes n).elim [] Inode.bytes

section Reader

variable (decode : List UInt8 → Option α) (cap : ℕ) (name : ν)

/-- What may still be read of a file. -/
def remaining (bytes buf : List UInt8) : List UInt8 :=
  (bytes.drop buf.length).take (cap + 1 - buf.length)

/-- The end of a reader. -/
def finish (buf : List UInt8) : Except ReadError α :=
  match decode buf with
  | none => .error .readFailed
  | some a => if cap < buf.length then .error .grew else .ok a

/-- The next call of a reader. A call for bytes returns at least one, if there are any. -/
def ReaderPc.step (t : Turn ν) : ReaderPc α → ReaderPc α
  | .open =>
    if t.fails then .done (.error .openFailed)
    else match t.fs.names name with
      | none | some .symlink => .done (.error .openFailed)
      | some .special => .done (.error .notRegular)
      | some (.file n) => .stat n
  | .stat n =>
    if t.fails then .done (.error .statFailed)
    else if cap < (t.fs.content n).length then .done (.error (.tooLarge (t.fs.content n).length))
    else .read n []
  | .read n buf =>
    -- Past the bound nothing is asked of the file.
    if cap < buf.length then .done (finish decode cap buf)
    else if t.fails then .done (.error .readFailed)
    else if remaining cap (t.fs.content n) buf = [] then .done (finish decode cap buf)
    else .read n (buf ++ (remaining cap (t.fs.content n) buf).take (t.count + 1))
  | .done r => .done r

/-- The calls of a reader, one after another. -/
def ReaderPc.run (turns : List (Turn ν)) (pc : ReaderPc α) : ReaderPc α :=
  turns.foldl (fun pc t ↦ ReaderPc.step decode cap name t pc) pc

/-- A run of a reader. -/
def readCapped (turns : List (Turn ν)) : ReaderPc α := ReaderPc.run decode cap name turns .open

/-- What is read of a file with the given contents. -/
def readContent (bytes : List UInt8) : Except ReadError α :=
  if cap < bytes.length then .error (.tooLarge bytes.length) else finish decode cap bytes

/-- What is read of a file system that does not change. -/
def FileSystem.read (fs : FileSystem ν) : Except ReadError α :=
  match fs.names name with
  | none | some .symlink => .error .openFailed
  | some .special => .error .notRegular
  | some (.file n) => readContent decode cap (fs.content n)

end Reader

variable {decode : List UInt8 → Option α} {cap : ℕ} {name : ν} {n : ℕ} {t : Turn ν}
  {turns : List (Turn ν)} {pc : ReaderPc α} {bytes buf : List UInt8} {a : α}

@[simp] theorem ReaderPc.result_eq_some {r : Except ReadError α} :
    pc.result = some r ↔ pc = .done r := by
  cases pc <;> simp [result]

theorem finish_eq_ok (h : finish decode cap buf = .ok a) :
    decode buf = some a ∧ buf.length ≤ cap := by
  rw [finish] at h
  split at h
  · cases h
  · split_ifs at h with hlong
    cases h
    exact ⟨‹_›, Nat.not_lt.mp hlong⟩

/-! ## The bound -/

namespace ReaderPc

@[simp] theorem run_nil : run decode cap name [] pc = pc := rfl

@[simp] theorem run_cons :
    run decode cap name (t :: turns) pc = run decode cap name turns (pc.step decode cap name t) :=
  rfl

/-- Nothing happens to a reader that has ended. -/
@[simp] theorem run_done {r : Except ReadError α} :
    run decode cap name turns (.done r) = .done r := by
  induction turns with
  | nil => rfl
  | cons t turns ih => exact ih

/-- What a reader has read is within the bound, or one byte past it. -/
def Bounded (decode : List UInt8 → Option α) (cap : ℕ) : ReaderPc α → Prop
  | .read _ buf => buf.length ≤ cap + 1
  | .done (.ok a) => ∃ bytes, decode bytes = some a ∧ bytes.length ≤ cap
  | _ => True

theorem bounded_finish : (ReaderPc.done (finish decode cap buf)).Bounded decode cap := by
  cases h : finish decode cap buf with
  | error e => trivial
  | ok a => exact ⟨buf, finish_eq_ok h⟩

theorem Bounded.step (h : pc.Bounded decode cap) :
    (pc.step decode cap name t).Bounded decode cap := by
  cases pc with
  | «open» =>
    rw [ReaderPc.step]
    split_ifs
    · trivial
    · split <;> trivial
  | stat n =>
    rw [ReaderPc.step]
    split_ifs
    · trivial
    · trivial
    · exact Nat.zero_le _
  | read n buf =>
    rw [ReaderPc.step]
    split_ifs with hlong hfails hend
    · exact bounded_finish
    · trivial
    · exact bounded_finish
    · have hlen : (remaining cap (t.fs.content n) buf).length ≤ cap + 1 - buf.length :=
        List.length_take_le ..
      have hbuf : buf.length ≤ cap + 1 := h
      rw [Bounded, List.length_append, List.length_take]
      omega
  | done r => exact h

theorem Bounded.run (h : pc.Bounded decode cap) :
    (run decode cap name turns pc).Bounded decode cap := by
  induction turns generalizing pc with
  | nil => exact h
  | cons t turns ih => exact ih h.step

/-- The most calls that a reader still makes. -/
def callsLeft (cap : ℕ) : ReaderPc α → ℕ
  | .open => cap + 4
  | .stat _ => cap + 3
  | .read _ buf => cap + 2 - buf.length
  | .done _ => 0

theorem callsLeft_pos (h : pc.Bounded decode cap) (hpc : ∀ r, pc ≠ .done r) :
    0 < pc.callsLeft cap := by
  cases pc with
  | «open» | stat n => exact Nat.succ_pos _
  | read n buf =>
    have hbuf : buf.length ≤ cap + 1 := h
    rw [callsLeft]
    omega
  | done r => exact absurd rfl (hpc r)

/-- Every call brings a reader nearer to its end. -/
theorem callsLeft_step (h : pc.Bounded decode cap) (hpc : ∀ r, pc ≠ .done r) :
    (pc.step decode cap name t).callsLeft cap < pc.callsLeft cap := by
  cases pc with
  | «open» =>
    rw [step]
    split_ifs
    · exact Nat.succ_pos _
    · split
      · exact Nat.succ_pos _
      · exact Nat.succ_pos _
      · exact Nat.succ_pos _
      · exact Nat.lt_succ_self _
  | stat n =>
    rw [step]
    split_ifs
    · exact Nat.succ_pos _
    · exact Nat.succ_pos _
    · exact Nat.lt_succ_self _
  | read n buf =>
    have hleft := callsLeft_pos h hpc
    rw [step]
    split_ifs with hlong hfails hend
    · exact hleft
    · exact hleft
    · exact hleft
    · -- At least one more byte is read.
      have hpos := List.length_pos_iff.mpr hend
      simp only [callsLeft, List.length_append, List.length_take] at hleft ⊢
      omega
  | done r => exact absurd rfl (hpc r)

theorem exists_run_eq_done (h : pc.Bounded decode cap) (hlen : pc.callsLeft cap ≤ turns.length) :
    ∃ r, run decode cap name turns pc = .done r := by
  induction turns generalizing pc with
  | nil =>
    by_contra hpc
    have := callsLeft_pos h fun r hr ↦ hpc ⟨r, hr⟩
    rw [List.length_nil] at hlen
    omega
  | cons t turns ih =>
    by_cases hpc : ∃ r, pc = .done r
    · obtain ⟨r, rfl⟩ := hpc
      exact ⟨r, run_done⟩
    · have hless : (pc.step decode cap name t).callsLeft cap < pc.callsLeft cap :=
        callsLeft_step h fun r hr ↦ hpc ⟨r, hr⟩
      rw [List.length_cons] at hlen
      have hrest : (pc.step decode cap name t).callsLeft cap ≤ turns.length := by omega
      exact ih h.step hrest

end ReaderPc

/-- **A reader always ends**, even in a file that grows without end. -/
theorem exists_readCapped_eq_done (hlen : cap + 4 ≤ turns.length) :
    ∃ r, readCapped decode cap name turns = .done r :=
  ReaderPc.exists_run_eq_done (show ReaderPc.Bounded decode cap .open from trivial) hlen

/-! ## What is read -/

/-- What a call returns of an open file, behind the bytes that the reader has. -/
def Turn.returned (t : Turn ν) (n : ℕ) (buf : List UInt8) : List UInt8 :=
  ((t.fs.content n).drop buf.length).take (t.count + 1)

/-- What the calls of a run gather of an open file: each adds what it returns to the bytes that the
reader has, until one finds no more. -/
inductive Gathers (n : ℕ) : List UInt8 → List (Turn ν) → List UInt8 → Prop
  | done {buf : List UInt8} {t : Turn ν} {turns : List (Turn ν)} (hok : t.fails = false)
      (hend : t.returned n buf = []) : Gathers n buf (t :: turns) buf
  | read {buf bytes : List UInt8} {t : Turn ν} {turns : List (Turn ν)} (hok : t.fails = false)
      (hmore : t.returned n buf ≠ []) (hrest : Gathers n (buf ++ t.returned n buf) turns bytes) :
      Gathers n buf (t :: turns) bytes

/-- What the reader has is the beginning of what it gathers. -/
theorem Gathers.isPrefix (h : Gathers n buf turns bytes) : buf <+: bytes := by
  induction h with
  | done => exact List.prefix_rfl
  | read _ _ _ ih => exact (List.prefix_append _ _).trans ih

/-- Where the bound is not exceeded, it cuts nothing off. -/
theorem take_remaining (h : (buf ++ (remaining cap (t.fs.content n) buf).take (t.count + 1)).length
    ≤ cap) : (remaining cap (t.fs.content n) buf).take (t.count + 1) = t.returned n buf := by
  rw [remaining, Turn.returned, List.take_take] at *
  by_cases hcount : t.count + 1 ≤ cap + 1 - buf.length
  · rw [Nat.min_eq_left hcount]
  · rw [Nat.min_eq_right (by omega)] at h ⊢
    rw [List.length_append, List.length_take] at h
    rw [List.take_of_length_le (by omega), List.take_of_length_le (by omega)]

/-- The bytes that a run has read of a name: within the bound, and gathered by its calls from the
regular file that it has opened. -/
structure ReadWhole (cap : ℕ) (name : ν) (turns : List (Turn ν)) (bytes : List UInt8) : Prop where
  bounded : bytes.length ≤ cap
  gathered : ∃ opened stated reads n, turns = opened :: stated :: reads ∧
    opened.fs.names name = some (.file n) ∧ Gathers n [] reads bytes

theorem gathers_of_run (h : ReaderPc.run decode cap name turns (.read n buf) = .done (.ok a)) :
    ∃ bytes, decode bytes = some a ∧ bytes.length ≤ cap ∧ Gathers n buf turns bytes := by
  induction turns generalizing buf with
  | nil => cases h
  | cons t turns ih =>
    rw [ReaderPc.run_cons, ReaderPc.step] at h
    split_ifs at h with hlong hfails hend
    · rw [ReaderPc.run_done, ReaderPc.done.injEq] at h
      exact absurd (finish_eq_ok h).2 (Nat.not_le.mpr hlong)
    · rw [ReaderPc.run_done] at h
      cases h
    · rw [ReaderPc.run_done, ReaderPc.done.injEq] at h
      obtain ⟨hdecode, hlen⟩ := finish_eq_ok h
      refine ⟨buf, hdecode, hlen, .done (eq_false_of_ne_true hfails) ?_⟩
      -- The bound leaves room for another byte, so there is none.
      rw [remaining, List.take_eq_nil_iff, List.drop_eq_nil_iff] at hend
      rw [Turn.returned, List.drop_eq_nil_of_le (by omega), List.take_nil]
    · obtain ⟨bytes, hdecode, hlen, hrest⟩ := ih h
      have hreturned := take_remaining (Nat.le_trans hrest.isPrefix.length_le hlen)
      rw [hreturned] at hrest
      refine ⟨bytes, hdecode, hlen, .read (eq_false_of_ne_true hfails) ?_ hrest⟩
      rw [← hreturned]
      simpa using hend

/-- **What is read is what the calls return**, of a regular file, to its end, and within the
bound. -/
theorem readWhole_of_readCapped (h : readCapped decode cap name turns = .done (.ok a)) :
    ∃ bytes, decode bytes = some a ∧ ReadWhole cap name turns bytes := by
  cases turns with
  | nil => cases h
  | cons opened turns =>
    rw [readCapped, ReaderPc.run_cons, ReaderPc.step] at h
    split_ifs at h
    · rw [ReaderPc.run_done] at h
      cases h
    split at h
    case h_4 n hname =>
      cases turns with
      | nil => cases h
      | cons stated reads =>
        rw [ReaderPc.run_cons, ReaderPc.step] at h
        split_ifs at h
        · rw [ReaderPc.run_done] at h
          cases h
        · rw [ReaderPc.run_done] at h
          cases h
        · obtain ⟨bytes, hdecode, hlen, hgathers⟩ := gathers_of_run h
          exact ⟨bytes, hdecode, hlen, opened, stated, reads, n, rfl, hname, hgathers⟩
    all_goals
      rw [ReaderPc.run_done] at h
      cases h

/-- A reader in the middle of a file that does not change. -/
theorem run_read {c : List UInt8} (hc : c.length ≤ cap)
    (hturns : ∀ t ∈ turns, t.fs.content n = c ∧ t.fails = false) (hbuf : buf <+: c)
    {r : Except ReadError α} (h : ReaderPc.run decode cap name turns (.read n buf) = .done r) :
    r = finish decode cap c := by
  induction turns generalizing buf with
  | nil => cases h
  | cons t turns ih =>
    rw [List.forall_mem_cons] at hturns
    obtain ⟨⟨hcontent, hfails⟩, hrest⟩ := hturns
    obtain ⟨rest, rfl⟩ := hbuf
    rw [List.length_append] at hc
    have hrem : remaining cap (buf ++ rest) buf = rest := by
      rw [remaining, List.drop_left]
      exact List.take_of_length_le (by omega)
    rw [ReaderPc.run_cons, ReaderPc.step, hfails, hcontent, hrem, if_neg (by omega),
      if_neg Bool.false_ne_true] at h
    by_cases hend : rest = []
    · subst hend
      rw [if_pos rfl, ReaderPc.run_done] at h
      cases h
      rw [List.append_nil]
    · rw [if_neg hend] at h
      exact ih hrest ((List.prefix_append_right_inj buf).mpr (List.take_prefix _ rest)) h

/-- A name is opened as a file that holds the same bytes in every call, and no call fails. The name
may change once it is open. -/
def Steady (name : ν) (bytes : List UInt8) (turns : List (Turn ν)) : Prop :=
  ∃ t rest n, turns = t :: rest ∧ t.fs.names name = some (.file n) ∧
    ∀ t' ∈ turns, t'.fs.content n = bytes ∧ t'.fails = false

/-- **A file that does not change is read as it is**, or refused for its size. -/
theorem Steady.readCapped_eq (hsteady : Steady name bytes turns) {r : Except ReadError α}
    (h : readCapped decode cap name turns = .done r) : r = readContent decode cap bytes := by
  obtain ⟨t, rest, n, rfl, hname, hturns⟩ := hsteady
  rw [List.forall_mem_cons] at hturns
  obtain ⟨⟨-, hfails⟩, hrest⟩ := hturns
  rw [readCapped, ReaderPc.run_cons, ReaderPc.step, hfails, hname,
    if_neg Bool.false_ne_true] at h
  cases rest with
  | nil => cases h
  | cons t' rest =>
    rw [List.forall_mem_cons] at hrest
    obtain ⟨⟨hcontent, hfails'⟩, hrest⟩ := hrest
    rw [ReaderPc.run_cons, ReaderPc.step, hfails', hcontent, if_neg Bool.false_ne_true] at h
    rw [readContent]
    by_cases hlarge : cap < bytes.length
    · rw [if_pos hlarge, ReaderPc.run_done] at h
      cases h
      rw [if_pos hlarge]
    · rw [if_neg hlarge] at h ⊢
      exact run_read (Nat.not_lt.mp hlarge) hrest List.nil_prefix h

/-- If the name is opened while it stands for what it stood for in an earlier file system, and the
file is still what it was, the run reads what the function says of that file system. -/
theorem readCapped_eq_read {fs : FileSystem ν}
    (hname : ∀ t rest, turns = t :: rest → t.fs.names name = fs.names name)
    (hturns : ∀ t ∈ turns, t.fails = false)
    (hfile : ∀ n, fs.names name = some (.file n) → ∀ t ∈ turns, t.fs.content n = fs.content n)
    {r : Except ReadError α} (h : readCapped decode cap name turns = .done r) :
    r = fs.read decode cap name := by
  cases turns with
  | nil => cases h
  | cons t rest =>
    have hopen := hname t rest rfl
    have hsteady {n : ℕ} (hn : fs.names name = some (.file n)) :
        Steady name (fs.content n) (t :: rest) :=
      ⟨t, rest, n, rfl, hopen.trans hn, fun t' ht' ↦ ⟨hfile n hn t' ht', hturns t' ht'⟩⟩
    have hread {n : ℕ} (hn : fs.names name = some (.file n)) :
        r = readContent decode cap (fs.content n) := (hsteady hn).readCapped_eq h
    rw [readCapped, ReaderPc.run_cons, ReaderPc.step, hturns t List.mem_cons_self, hopen,
      if_neg Bool.false_ne_true] at h
    rw [FileSystem.read]
    split at h
    · rw [ReaderPc.run_done] at h
      cases h
      rfl
    · rw [ReaderPc.run_done] at h
      cases h
      rfl
    · rw [ReaderPc.run_done] at h
      cases h
      rfl
    · exact hread ‹_›

end Files

end NmOpenvpn3
