import Mathlib.Data.List.Basic

/-!
# Character classes

The predicates of Rust's `char` that text-handling code branches on. Everything is stated through
the code point, so membership of a concrete character is a computation and inclusion of one class
in another is linear arithmetic.
-/

namespace NmOpenvpn3

namespace Rust

/-- `char::is_whitespace`: the Unicode property `White_Space`. -/
def isWhitespace (c : Char) : Bool :=
  let n := c.toNat
  (9 ≤ n && n ≤ 13) || n == 0x20 || n == 0x85 || n == 0xA0 || n == 0x1680 ||
    (0x2000 ≤ n && n ≤ 0x200A) || n == 0x2028 || n == 0x2029 || n == 0x202F || n == 0x205F ||
    n == 0x3000

/-- `char::is_ascii_whitespace`. The vertical tab is not among them. -/
def isAsciiWhitespace (c : Char) : Bool :=
  let n := c.toNat
  n == 0x20 || n == 9 || n == 10 || n == 12 || n == 13

/-- `char::is_control`: the Unicode category `Cc`. -/
def isControl (c : Char) : Bool :=
  let n := c.toNat
  n ≤ 0x1F || (0x7F ≤ n && n ≤ 0x9F)

/-- `char::is_ascii_alphanumeric`. -/
def isAsciiAlphanumeric (c : Char) : Bool :=
  let n := c.toNat
  (48 ≤ n && n ≤ 57) || (65 ≤ n && n ≤ 90) || (97 ≤ n && n ≤ 122)

/-- `char::is_ascii`. -/
def isAscii (c : Char) : Bool := c.toNat ≤ 127

/-- `char::to_ascii_lowercase`. -/
def toAsciiLowercase (c : Char) : Char :=
  if 65 ≤ c.toNat && c.toNat ≤ 90 then Char.ofNat (c.toNat + 32) else c

/-- A class that no character of a concrete text is in, from one evaluation over the text. -/
theorem forall_eq_false_of_all {p : Char → Bool} {l : List Char}
    (h : (l.all fun c ↦ !p c) = true) : ∀ c ∈ l, p c = false := by
  simpa using h

theorem isWhitespace_of_isAsciiWhitespace {c : Char} (h : isAsciiWhitespace c = true) :
    isWhitespace c = true := by
  simp only [isAsciiWhitespace, isWhitespace, Bool.or_eq_true, beq_iff_eq, Bool.and_eq_true,
    decide_eq_true_eq] at h ⊢
  omega

theorem isAscii_of_isAsciiWhitespace {c : Char} (h : isAsciiWhitespace c = true) :
    isAscii c = true := by
  simp only [isAsciiWhitespace, isAscii, Bool.or_eq_true, beq_iff_eq, decide_eq_true_eq] at h ⊢
  omega

theorem isAscii_of_isAsciiAlphanumeric {c : Char} (h : isAsciiAlphanumeric c = true) :
    isAscii c = true := by
  simp only [isAsciiAlphanumeric, isAscii, Bool.or_eq_true, Bool.and_eq_true,
    decide_eq_true_eq] at h ⊢
  omega

theorem isWhitespace_eq_false_of_isAsciiAlphanumeric {c : Char}
    (h : isAsciiAlphanumeric c = true) : isWhitespace c = false := by
  rw [← Bool.not_eq_true]
  simp only [isAsciiAlphanumeric, isWhitespace, Bool.or_eq_true, beq_iff_eq, Bool.and_eq_true,
    decide_eq_true_eq] at h ⊢
  omega

theorem isAsciiAlphanumeric_isControl {c : Char} (h : isAsciiAlphanumeric c = true) :
    isControl c = false := by
  rw [← Bool.not_eq_true]
  simp only [isAsciiAlphanumeric, isControl, Bool.or_eq_true, Bool.and_eq_true,
    decide_eq_true_eq] at h ⊢
  omega

/-- White space that is not a control character and not ASCII white space lies outside ASCII. -/
theorem isAsciiWhitespace_of_isWhitespace {c : Char} (hw : isWhitespace c = true)
    (hc : isControl c = false) (ha : isAscii c = true) : isAsciiWhitespace c = true := by
  rw [← Bool.not_eq_true] at hc
  simp only [isAsciiWhitespace, isWhitespace, isControl, isAscii, Bool.or_eq_true, beq_iff_eq,
    Bool.and_eq_true, decide_eq_true_eq] at hw hc ha ⊢
  omega

end Rust

end NmOpenvpn3
