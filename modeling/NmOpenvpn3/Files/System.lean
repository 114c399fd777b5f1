import Mathlib.Data.Nat.Notation
import Mathlib.Data.Set.Defs
import Mathlib.Logic.Function.Basic
import Mathlib.Tactic.Simps.Basic
import Mathlib.Tactic.SplitIfs

/-!
# Files and their names

The part of a file system that programs which share directories rely on: names, which anybody may
bind and unbind, and files, which only those can open who have the permission. A program that has a
file open keeps it, whatever becomes of its name. A file is known by its inode, and an inode is not
used again.

`Interferes` is what other users may do in the meantime: anything to the names and to the files that
they can open, and nothing to the private ones.
-/

namespace NmOpenvpn3

namespace Files

/-- What a name stands for: a regular file, a symbolic link, or something else, such as a directory,
a pipe or a device. -/
inductive Node where
  | file (inode : ℕ)
  | symlink
  | special
  deriving DecidableEq

/-- A regular file. Only its owner can open a private one. -/
structure Inode where
  isPrivate : Bool
  bytes : List UInt8
  deriving DecidableEq

/-- Names of type `ν`, and the files. The files that have names are there. -/
structure FileSystem (ν : Type*) where
  names : ν → Option Node
  inodes : ℕ → Option Inode
  linked : ∀ name n, names name = some (.file n) → (inodes n).isSome

namespace FileSystem

variable {ν : Type*} (fs : FileSystem ν)

/-- The file that a name stands for. -/
def lookup (name : ν) : Option Inode :=
  match fs.names name with
  | some (.file n) => fs.inodes n
  | _ => none

section Operations

variable [DecidableEq ν]

/-- Remove a name. The file stays for those that have it open. -/
@[simps] def unlink (name : ν) : FileSystem ν where
  names := Function.update fs.names name none
  inodes := fs.inodes
  linked k n h := by
    by_cases hk : k = name
    · simp [hk] at h
    · exact fs.linked k n (by simpa [hk] using h)

/-- Make a new, empty and private file. -/
@[simps] def create (name : ν) (n : ℕ) : FileSystem ν where
  names := Function.update fs.names name (some (.file n))
  inodes := Function.update fs.inodes n (some ⟨true, []⟩)
  linked k m h := by
    by_cases hm : m = n
    · simp [hm]
    · by_cases hk : k = name
      · simp [hk, Ne.symm hm] at h
      · simpa [hm] using fs.linked k m (by simpa [hk] using h)

/-- Write at the end of a file. -/
@[simps] def append (n : ℕ) (bytes : List UInt8) : FileSystem ν where
  names := fs.names
  inodes := Function.update fs.inodes n
    ((fs.inodes n).map fun x ↦ { x with bytes := x.bytes ++ bytes })
  linked k m h := by
    by_cases hm : m = n
    · subst hm
      simpa using fs.linked k m h
    · simpa [hm] using fs.linked k m h

/-- Two names of one file. -/
def sameFile (a b : ν) : Bool :=
  decide (a = b) || match fs.names a, fs.names b with
    | some (.file n), some (.file m) => decide (n = m)
    | _, _ => false

/-- Move a name onto another, which then stands for what the first one did. Nothing is done to two
names of one file. -/
@[simps] def rename (a b : ν) : FileSystem ν where
  names := if fs.sameFile a b then fs.names
    else Function.update (Function.update fs.names b (fs.names a)) a none
  inodes := fs.inodes
  linked k n h := by
    split_ifs at h
    · exact fs.linked k n h
    · by_cases hk : k = a
      · simp [hk] at h
      · rw [Function.update_of_ne hk] at h
        by_cases hk' : k = b
        · rw [hk', Function.update_self] at h
          exact fs.linked a n h
        · rw [Function.update_of_ne hk'] at h
          exact fs.linked k n h

end Operations

/-! ## Interference -/

variable {fs} {fs' fs'' : FileSystem ν} {n : ℕ} {x : Inode}

/-- What others may do: no inode disappears, and no private file changes. -/
structure Interferes (fs fs' : FileSystem ν) : Prop where
  known : ∀ n, (fs.inodes n).isSome → (fs'.inodes n).isSome
  kept : ∀ n x, fs.inodes n = some x → x.isPrivate = true → fs'.inodes n = some x

/-- What others may do if they leave some names alone. -/
structure InterferesBut (guarded : Set ν) (fs fs' : FileSystem ν) : Prop
    extends Interferes fs fs' where
  names : ∀ name ∈ guarded, fs'.names name = fs.names name

end FileSystem

end Files

end NmOpenvpn3
