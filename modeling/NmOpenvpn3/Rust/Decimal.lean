import Mathlib.Algebra.Group.Int.Defs
import Mathlib.Algebra.Group.Nat.Defs
import Mathlib.Data.Nat.Notation
import Mathlib.Data.List.DropRight

/-!
# Decimal integers

`str::parse` at the two integer types the program reads, `u32` and `i64`: an optional sign, at least
one ASCII digit, nothing else, and a value that fits. Printing is Lean's own `toString`, which for
an integer writes what Rust's `Display` writes: a minus sign where there is one, and no leading
zero.
-/

namespace NmOpenvpn3

namespace Rust

/-- The value of a non-empty string of ASCII digits. -/
def parseDigits (l : List Char) : Option ℕ :=
  if !l.isEmpty && l.all Char.isDigit then some (Nat.ofDigitChars 10 l 0) else none

/-- `str::parse::<u32>`. -/
def parseU32 (s : String) : Option ℕ :=
  let digits := match s.toList with
    | '+' :: l => l
    | l => l
  (parseDigits digits).filter (· < 2 ^ 32)

/-- `i64` holds the integer. -/
def IsI64 (n : ℤ) : Prop := -2 ^ 63 ≤ n ∧ n < 2 ^ 63

instance (n : ℤ) : Decidable (IsI64 n) := inferInstanceAs (Decidable (_ ∧ _))

/-- `str::parse::<i64>`. -/
def parseI64 (s : String) : Option ℤ :=
  let value := match s.toList with
    | '-' :: l => (parseDigits l).map fun m : ℕ ↦ -(m : ℤ)
    | '+' :: l => (parseDigits l).map fun m : ℕ ↦ (m : ℤ)
    | l => (parseDigits l).map fun m : ℕ ↦ (m : ℤ)
  value.filter (IsI64 ·)

theorem isDigit_of_parseDigits {l : List Char} {m : ℕ} (h : parseDigits l = some m) :
    ∀ c ∈ l, c.isDigit = true := by
  rw [parseDigits, Option.ite_none_right_eq_some, Bool.and_eq_true] at h
  exact List.all_eq_true.mp h.1.2

/-- An integer is written in digits and signs. -/
theorem char_of_parseI64 {s : String} {n : ℤ} (h : parseI64 s = some n) :
    ∀ c ∈ s.toList, c.isDigit = true ∨ c = '-' ∨ c = '+' := by
  have hdigits : ∀ {l : List Char} {f : ℕ → ℤ}, ((parseDigits l).map f).isSome →
      ∀ c ∈ l, c.isDigit = true := by
    intro l f hl
    rw [Option.isSome_map] at hl
    obtain ⟨m, hm⟩ := Option.isSome_iff_exists.mp hl
    exact isDigit_of_parseDigits hm
  rw [parseI64] at h
  have hvalue := Option.isSome_of_eq_some (Option.filter_eq_some_iff.mp h).1
  split at hvalue
  · rename_i l hl
    rw [hl, List.forall_mem_cons]
    exact ⟨.inr (.inl rfl), fun c hc ↦ .inl (hdigits hvalue c hc)⟩
  · rename_i l hl
    rw [hl, List.forall_mem_cons]
    exact ⟨.inr (.inr rfl), fun c hc ↦ .inl (hdigits hvalue c hc)⟩
  · exact fun c hc ↦ .inl (hdigits hvalue c hc)

theorem isI64_of_parseI64 {s : String} {n : ℤ} (h : parseI64 s = some n) : IsI64 n :=
  of_decide_eq_true (Option.filter_eq_some_iff.mp h).2

/-- The text is the one an `i64` prints. -/
def IsCanonicalI64 (s : String) : Prop := ∃ n : ℤ, IsI64 n ∧ s = toString n

theorem parseDigits_toDigits (m : ℕ) : parseDigits (Nat.toDigits 10 m) = some m := by
  have hne : Nat.toDigits 10 m ≠ [] := Nat.toDigits_ne_nil
  have hall : ∀ c ∈ Nat.toDigits 10 m, c.isDigit = true := fun c hc ↦
    Nat.isDigit_of_mem_toDigits (by omega) (le_refl 10) hc
  rw [parseDigits, if_pos, Nat.ofDigitChars_ten_toDigits]
  simpa [hne] using hall

/-- A digit is neither of the two signs. -/
private theorem toDigits_eq_cons {m : ℕ} :
    ∃ c l, Nat.toDigits 10 m = c :: l ∧ c ≠ '-' ∧ c ≠ '+' := by
  obtain ⟨c, l, h⟩ := List.exists_cons_of_ne_nil (Nat.toDigits_ne_nil (n := m) (b := 10))
  have hc : c.isDigit = true := Nat.isDigit_of_mem_toDigits (n := m) (by omega) (le_refl 10)
    (h ▸ List.mem_cons_self)
  refine ⟨c, l, h, ?_, ?_⟩ <;> rintro rfl <;> exact absurd hc (by decide)

/-- A canonical integer is read back. -/
theorem parseI64_toString {n : ℤ} (h : IsI64 n) : parseI64 (toString n) = some n := by
  rw [parseI64, Int.toString_eq_repr, Int.repr_eq_if]
  by_cases h0 : 0 ≤ n
  · obtain ⟨c, l, hd, hminus, hplus⟩ := toDigits_eq_cons (m := n.toNat)
    have hval : parseDigits (c :: l) = some n.toNat := hd ▸ parseDigits_toDigits n.toNat
    rw [if_pos h0, Nat.toList_repr, hd]
    simp [hval, h, hminus, hplus]
    omega
  · have hval : -((-n).toNat : ℤ) = n := by omega
    rw [if_neg h0, String.toList_append, Nat.toList_repr]
    change ((parseDigits (Nat.toDigits 10 (-n).toNat)).map fun m : ℕ ↦ -(m : ℤ)).filter
      (IsI64 ·) = _
    rw [parseDigits_toDigits, Option.map_some, hval]
    simp [h]

/-- A text that is read as an integer is no other integer's. -/
theorem eq_of_parseI64 {n m : ℤ} {s : String} (h : IsI64 n) (hparse : parseI64 s = some m)
    (hs : toString n = s) : n = m := by
  rw [← hs, parseI64_toString h] at hparse
  exact Option.some_inj.mp hparse

theorem toString_ne_of_parseI64 {n : ℤ} {s : String} (h : IsI64 n) (hparse : parseI64 s = none) :
    toString n ≠ s := by
  rintro rfl
  rw [parseI64_toString h] at hparse
  cases hparse

theorem IsCanonicalI64.exists_parse {s : String} (h : IsCanonicalI64 s) :
    ∃ n, parseI64 s = some n ∧ toString n = s := by
  obtain ⟨n, hn, rfl⟩ := h
  exact ⟨n, parseI64_toString hn, rfl⟩

example : parseI64 "-42" = some (-42) ∧ parseI64 "+" = none ∧ parseI64 "1x" = none := by decide

end Rust

end NmOpenvpn3
