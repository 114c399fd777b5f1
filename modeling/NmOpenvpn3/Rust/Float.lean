import NmOpenvpn3.Rust.Char
import NmOpenvpn3.Rust.Decimal
import NmOpenvpn3.Rust.Str
import Mathlib.Data.Int.Log
import Mathlib.Data.Rat.Floor
import Mathlib.Tactic.Linarith
import Mathlib.Tactic.Positivity

/-!
# Binary floating point

The part of `f64` that reading a number from a text needs: the decimal syntax of `str::parse`, the
rounding to the nearest value, comparison, and the conversion to an integer. A value is a rational,
an infinity or not a number; the two zeros are one.

Integers up to `2 ^ 53` are values themselves, so they bound a rounded value as they bound the exact
one: `le_roundBinary64` and `roundBinary64_le`.
-/

namespace NmOpenvpn3

namespace Rust

/-! ## Rounding -/

/-- Round to an integer, a tie to the even one. -/
def roundTiesEven (q : ℚ) : ℤ :=
  if 2 * Int.fract q < 1 then ⌊q⌋
  else if 1 < 2 * Int.fract q then ⌊q⌋ + 1
  else if 2 ∣ ⌊q⌋ then ⌊q⌋ else ⌊q⌋ + 1

/-- The exponent of the last of the 53 digits of a value of this size, or of the least value. -/
def ulpExponent (q : ℚ) : ℤ := max (Int.log 2 |q| - 52) (-1074)

/-- The nearest multiple of the last digit. -/
def roundBinary64 (q : ℚ) : ℚ := roundTiesEven (q / 2 ^ ulpExponent q) * 2 ^ ulpExponent q

theorem le_roundTiesEven {k : ℤ} {q : ℚ} (h : (k : ℚ) ≤ q) : k ≤ roundTiesEven q := by
  have hfloor : k ≤ ⌊q⌋ := Int.le_floor.mpr h
  rw [roundTiesEven]
  split_ifs <;> omega

theorem roundTiesEven_le {k : ℤ} {q : ℚ} (h : q ≤ k) : roundTiesEven q ≤ k := by
  have hfloor : ⌊q⌋ ≤ k := Int.floor_le_iff.mpr (by linarith)
  have hfract := Int.floor_add_fract q
  by_cases heq : ⌊q⌋ = k
  · -- Nothing lies between the floor and the bound.
    have hzero : Int.fract q = 0 := by
      have := Int.fract_nonneg q
      rw [heq] at hfract
      linarith
    rw [roundTiesEven, if_pos (by rw [hzero]; norm_num)]
    exact hfloor
  · rw [roundTiesEven]
    split_ifs <;> omega

/-- Between a small integer and a larger rational lies a multiple of the last digit of the latter:
the integer is one, unless the digits end above it. -/
theorem exists_multiple {k : ℤ} (hk : |k| < 2 ^ 53) {q : ℚ} (h : k ≤ q) :
    ∃ m : ℤ, (k : ℚ) ≤ m * 2 ^ ulpExponent q ∧ m * 2 ^ ulpExponent q ≤ q := by
  rcases le_or_gt (ulpExponent q) 0 with he | he
  · refine ⟨k * 2 ^ (-ulpExponent q).toNat, le_of_eq ?_, le_trans (le_of_eq ?_) h⟩
    all_goals
      have hpow : ((2 : ℚ) ^ (-ulpExponent q).toNat) = 2 ^ (-ulpExponent q) := by
        rw [← zpow_natCast, Int.toNat_of_nonneg (by omega)]
      push_cast
      rw [hpow, mul_assoc, ← zpow_add₀ two_ne_zero, neg_add_cancel, zpow_zero, mul_one]
  · have hlog : ulpExponent q = Int.log 2 |q| - 52 := max_eq_left_of_lt (by
      by_contra hle
      rw [ulpExponent, max_eq_right (not_lt.mp hle)] at he
      omega)
    have hbig : (2 : ℚ) ^ 52 * 2 ^ ulpExponent q ≤ |q| := by
      have hq : 0 < |q| := by
        by_contra hq
        rw [hlog, Int.log_of_right_le_zero 2 (not_lt.mp hq)] at he
        omega
      have hle := Int.zpow_log_le_self (b := 2) one_lt_two hq
      rw [hlog, ← zpow_natCast, ← zpow_add₀ two_ne_zero]
      simpa using hle
    have hulp : (2 : ℚ) ≤ 2 ^ ulpExponent q := by
      calc (2 : ℚ) = 2 ^ (1 : ℤ) := (zpow_one 2).symm
        _ ≤ 2 ^ ulpExponent q := zpow_le_zpow_right₀ one_le_two he
    have hk' : |(k : ℚ)| < 2 ^ 53 := by exact_mod_cast hk
    obtain ⟨hlow, hhigh⟩ := abs_lt.mp hk'
    refine ⟨2 ^ 52, ?_, ?_⟩
    · push_cast
      linarith
    · have hpos : 0 ≤ q := by
        by_contra hneg
        rw [abs_of_neg (not_le.mp hneg)] at hbig
        linarith
      rw [abs_of_nonneg hpos] at hbig
      exact_mod_cast hbig

theorem le_roundBinary64 {k : ℤ} (hk : |k| < 2 ^ 53) {q : ℚ} (h : k ≤ q) :
    k ≤ roundBinary64 q := by
  have hulp : (0 : ℚ) < 2 ^ ulpExponent q := zpow_pos two_pos _
  obtain ⟨m, hkm, hmq⟩ := exists_multiple hk h
  have hround : m ≤ roundTiesEven (q / 2 ^ ulpExponent q) :=
    le_roundTiesEven ((le_div_iff₀ hulp).mpr hmq)
  calc (k : ℚ) ≤ m * 2 ^ ulpExponent q := hkm
    _ ≤ roundTiesEven (q / 2 ^ ulpExponent q) * 2 ^ ulpExponent q := by gcongr

theorem roundBinary64_le {k : ℤ} (hk : |k| < 2 ^ 53) {q : ℚ} (h : q ≤ k) :
    roundBinary64 q ≤ k := by
  have hulp : (0 : ℚ) < 2 ^ ulpExponent q := zpow_pos two_pos _
  have hneg : ulpExponent (-q) = ulpExponent q := by rw [ulpExponent, abs_neg, ulpExponent]
  obtain ⟨m, hkm, hmq⟩ := exists_multiple (k := -k) (q := -q) (by rwa [abs_neg]) (by
    push_cast
    linarith)
  rw [hneg] at hkm hmq
  push_cast at hkm
  have hround : roundTiesEven (q / 2 ^ ulpExponent q) ≤ -m := by
    refine roundTiesEven_le ((div_le_iff₀ hulp).mpr ?_)
    push_cast
    linarith
  calc roundBinary64 q ≤ (-m : ℤ) * 2 ^ ulpExponent q := by
        rw [roundBinary64]
        gcongr
    _ ≤ k := by
        push_cast
        linarith

/-! ## Values -/

/-- An `f64`: not a number, an infinity with its sign, or a rational. -/
inductive F64 where
  | nan
  | inf (negative : Bool)
  | finite (q : ℚ)
  deriving DecidableEq

namespace F64

/-- The value nearest to a rational, or an infinity beyond all of them. -/
def ofRat (q : ℚ) : F64 :=
  if 2 ^ 1024 ≤ |roundBinary64 q| then .inf (roundBinary64 q < 0) else .finite (roundBinary64 q)

/-- `-x`. -/
def neg : F64 → F64
  | .nan => .nan
  | .inf s => .inf !s
  | .finite q => .finite (-q)

/-- `x < y`. -/
def lt : F64 → F64 → Bool
  | .nan, _ | _, .nan => false
  | .inf s, .inf t => s && !t
  | .inf s, .finite _ => s
  | .finite _, .inf t => !t
  | .finite a, .finite b => a < b

/-- `x <= y`. -/
def le (x y : F64) : Bool := x.lt y || (x != .nan && x == y)

/-- `f64::max`, which prefers a number. -/
def max (x y : F64) : F64 := if x.lt y || x == .nan then y else x

/-- A value within bounds. What is not a number stays so. -/
def clamp (x lo hi : F64) : F64 := if hi.lt x then hi else if x.lt lo then lo else x

/-- `x as i64`: the integer part, within the range of the type. -/
def toI64 : F64 → ℤ
  | .nan => 0
  | .inf s => if s then -2 ^ 63 else 2 ^ 63 - 1
  | .finite q =>
    let n := if 0 ≤ q then ⌊q⌋ else ⌈q⌉
    if 2 ^ 63 ≤ n then 2 ^ 63 - 1 else if n < -2 ^ 63 then -2 ^ 63 else n

@[simp] theorem le_finite (a b : ℚ) : (finite a).le (finite b) = true ↔ a ≤ b := by
  simp [le, lt, le_iff_lt_or_eq]

theorem toI64_finite_natCast {m : ℕ} (hm : m < 2 ^ 53) : (finite m).toI64 = m := by
  have hlarge : (m : ℤ) < 2 ^ 53 := by exact_mod_cast hm
  have hfloor : ⌊(m : ℚ)⌋ = m := Int.floor_natCast m
  rw [toI64, if_pos (Nat.cast_nonneg m), hfloor, if_neg (by omega), if_neg (by omega)]

/-- A value that is clamped to `0` and `m` is one of the two, or its own integer part. -/
theorem toI64_clamp_finite {m : ℕ} (hm : m < 2 ^ 53) (q : ℚ) :
    ((finite q).clamp (finite 0) (finite m)).toI64 =
      if (m : ℚ) < q then (m : ℤ) else if q < 0 then 0 else ⌊q⌋ := by
  have hlarge : (m : ℤ) < 2 ^ 53 := by exact_mod_cast hm
  simp only [clamp, lt, decide_eq_true_eq]
  split_ifs with hhigh hlow
  · exact toI64_finite_natCast hm
  · exact toI64_finite_natCast (by norm_num : 0 < 2 ^ 53)
  · have hfloor : ⌊q⌋ ≤ m := by
      have := Int.floor_le_floor (not_lt.mp hhigh)
      rwa [Int.floor_natCast] at this
    have hnonneg : 0 ≤ ⌊q⌋ := Int.floor_nonneg.mpr (not_lt.mp hlow)
    rw [toI64, if_pos (not_lt.mp hlow), if_neg (by omega), if_neg (by omega)]

theorem toI64_clamp_nan (lo hi : F64) : (nan.clamp lo hi).toI64 = 0 := by
  have hhi : hi.lt nan = false := by cases hi <;> rfl
  rw [clamp, if_neg (by simp [hhi]), if_neg (by simp [lt])]
  rfl

theorem toI64_clamp_inf {m : ℕ} (hm : m < 2 ^ 53) (s : Bool) :
    ((inf s).clamp (finite 0) (finite m)).toI64 = if s then 0 else (m : ℤ) := by
  cases s with
  | false => exact toI64_finite_natCast hm
  | true => exact toI64_finite_natCast (by norm_num : 0 < 2 ^ 53)

/-- The integer that is left of a value between `0` and `m`. -/
theorem toI64_clamp_mem {m : ℕ} (hm : m < 2 ^ 53) (x : F64) :
    0 ≤ (x.clamp (finite 0) (finite m)).toI64 ∧ (x.clamp (finite 0) (finite m)).toI64 ≤ m := by
  cases x with
  | nan => simp [toI64_clamp_nan]
  | inf s => cases s <;> simp [toI64_clamp_inf hm]
  | finite q =>
    rw [toI64_clamp_finite hm]
    split_ifs with hhigh hlow
    · simp
    · simp
    · have := Int.floor_le_floor (not_lt.mp hhigh)
      rw [Int.floor_natCast] at this
      exact ⟨Int.floor_nonneg.mpr (not_lt.mp hlow), this⟩

/-- It reaches a bound within the range exactly when the value does. -/
theorem le_toI64_clamp {m : ℕ} (hm : m < 2 ^ 53) (x : F64) {k : ℤ} (hk : 1 ≤ k) (hkm : k ≤ m) :
    k ≤ (x.clamp (finite 0) (finite m)).toI64 ↔ (finite k).le x = true := by
  cases x with
  | nan =>
    rw [toI64_clamp_nan]
    exact iff_of_false (by omega) (by simp [le, lt])
  | inf s =>
    rw [toI64_clamp_inf hm]
    cases s with
    | false => exact iff_of_true hkm rfl
    | true => exact iff_of_false (by rw [if_pos rfl]; omega) (by simp [le, lt])
  | finite q =>
    have hkm' : (k : ℚ) ≤ m := by exact_mod_cast hkm
    have hk' : (1 : ℚ) ≤ k := by exact_mod_cast hk
    rw [toI64_clamp_finite hm, le_finite]
    split_ifs with hhigh hlow
    · exact iff_of_true hkm (by linarith)
    · exact iff_of_false (by omega) (by linarith)
    · exact Int.le_floor

/-- The value nearest to an integer reaches the same small bounds. -/
theorem le_ofRat_intCast (n : ℤ) {k : ℤ} (hk : 1 ≤ k) (hk' : k < 2 ^ 53) :
    (finite k).le (ofRat n) = true ↔ k ≤ n := by
  have hone : (1 : ℚ) ≤ k := by exact_mod_cast hk
  have hlarge : (k : ℚ) < 2 ^ 53 := by exact_mod_cast hk'
  rw [ofRat]
  rcases le_or_gt k n with hkn | hkn
  · have hround : (k : ℚ) ≤ roundBinary64 n :=
      le_roundBinary64 (abs_lt.mpr ⟨by omega, hk'⟩) (by exact_mod_cast hkn)
    refine iff_of_true ?_ hkn
    split_ifs
    · rw [decide_eq_false (by linarith)]
      rfl
    · exact (le_finite _ _).mpr hround
  · have hround : roundBinary64 n ≤ ((k - 1 : ℤ) : ℚ) :=
      roundBinary64_le (abs_lt.mpr ⟨by omega, by omega⟩)
        (by exact_mod_cast Int.le_sub_one_of_lt hkn)
    push_cast at hround
    refine iff_of_false ?_ (not_le.mpr hkn)
    split_ifs with hover
    · -- What is too large is negative here.
      have hneg : roundBinary64 n < 0 := by
        by_contra hpos
        rw [abs_of_nonneg (not_lt.mp hpos)] at hover
        have hpow : (2 : ℚ) ^ 53 ≤ 2 ^ 1024 := by gcongr <;> norm_num
        exact absurd (hpow.trans hover) (not_le.mpr (by linarith only [hround, hlarge]))
      rw [decide_eq_true hneg]
      simp [le, lt]
    · rw [le_finite]
      linarith

/-- A value that is raised to zero is above zero, or reaches a positive bound, as before. -/
theorem lt_max_zero (x : F64) : (finite 0).lt (x.max (finite 0)) = (finite 0).lt x := by
  cases x with
  | nan => simp [max, lt]
  | inf s => cases s <;> simp [max, lt]
  | finite q =>
    by_cases hq : q < 0
    · simp [max, lt, hq, hq.le]
    · simp [max, lt, hq]

theorem le_max_zero (x : F64) {a : ℚ} (ha : 0 < a) :
    (finite a).le (x.max (finite 0)) = (finite a).le x := by
  have hzero : (finite a).le (finite 0) = false := by
    rw [← Bool.not_eq_true, le_finite]
    linarith
  cases x with
  | nan =>
    rw [show nan.max (finite 0) = finite 0 from rfl, hzero]
    simp [le, lt]
  | inf s =>
    cases s with
    | false => rfl
    | true =>
      rw [show (inf true).max (finite 0) = finite 0 from rfl, hzero]
      simp [le, lt]
  | finite q =>
    by_cases hq : q < 0
    · have hmax : (finite q).max (finite 0) = finite 0 := by simp [max, lt, hq]
      rw [hmax, hzero, eq_comm, ← Bool.not_eq_true, le_finite]
      linarith
    · have hmax : (finite q).max (finite 0) = finite q := by simp [max, lt, hq]
      rw [hmax]

/-- What reaches a positive bound is above zero. -/
theorem lt_of_le_pos {x : F64} {a : ℚ} (ha : 0 < a) (h : (finite a).le x = true) :
    (finite 0).lt x = true := by
  cases x with
  | nan => simp [le, lt] at h
  | inf s =>
    cases s with
    | false => rfl
    | true => simp [le, lt] at h
  | finite q =>
    rw [le_finite] at h
    simp only [lt, decide_eq_true_eq]
    linarith

/-- No positive bound is reached below zero. -/
theorem le_neg_ofRat_natCast (m : ℕ) {k : ℤ} (hk : 1 ≤ k) :
    (finite k).le (ofRat m).neg = false := by
  have hone : (1 : ℚ) ≤ k := by exact_mod_cast hk
  have hround : ((0 : ℤ) : ℚ) ≤ roundBinary64 m :=
    le_roundBinary64 (by norm_num) (by exact_mod_cast Nat.zero_le m)
  push_cast at hround
  rw [← Bool.not_eq_true, ofRat]
  split_ifs
  · rw [decide_eq_false (by linarith)]
    simp [neg, le, lt]
  · rw [neg, le_finite]
    linarith

end F64

/-! ## Parsing -/

/-- The exponent of a decimal. -/
def parseExponent : List Char → Option ℤ
  | '-' :: l => (parseDigits l).map fun n ↦ -n
  | '+' :: l => (parseDigits l).map fun n ↦ n
  | l => (parseDigits l).map fun n ↦ n

/-- An unsigned decimal: digits with a point before, between or behind them, and an exponent. -/
def parseDecimal (l : List Char) : Option ℚ :=
  let (mantissa, exponent) := match splitOnce 'e' l with
    | some (m, e) => (m, parseExponent e)
    | none => (l, some 0)
  let (int, frac) := (splitOnce '.' mantissa).getD (mantissa, [])
  (parseDigits (int ++ frac)).bind fun n ↦
    exponent.map fun e : ℤ ↦ (n : ℚ) * 10 ^ (e - frac.length)

/-- An unsigned number. -/
def parseUnsigned (l : List Char) : Option F64 :=
  let l := l.map toAsciiLowercase
  if l = "inf".toList ∨ l = "infinity".toList then some (.inf false)
  else if l = "nan".toList then some .nan
  else (parseDecimal l).map F64.ofRat

/-- `str::parse::<f64>`. -/
def parseF64 (s : String) : Option F64 :=
  match s.toList with
  | '-' :: l => (parseUnsigned l).map F64.neg
  | '+' :: l => parseUnsigned l
  | l => parseUnsigned l

section Signs

variable {s : String} {l : List Char}

theorem parseF64_minus (h : s.toList = '-' :: l) : parseF64 s = (parseUnsigned l).map F64.neg := by
  simp only [parseF64, h]

theorem parseF64_plus (h : s.toList = '+' :: l) : parseF64 s = parseUnsigned l := by
  simp only [parseF64, h]

theorem parseF64_unsigned (hminus : ∀ l, s.toList ≠ '-' :: l) (hplus : ∀ l, s.toList ≠ '+' :: l) :
    parseF64 s = parseUnsigned s.toList := by
  unfold parseF64
  split
  · exact absurd ‹_› (hminus _)
  · exact absurd ‹_› (hplus _)
  · rfl

end Signs

theorem parseUnsigned_of_parseDigits {l : List Char} {m : ℕ} (h : parseDigits l = some m) :
    parseUnsigned l = some (.ofRat m) := by
  have hdigit := isDigit_of_parseDigits h
  have hlower : l.map toAsciiLowercase = l := by
    rw [List.map_congr_left (g := id) fun c hc ↦ ?_, List.map_id]
    have hrange : '0'.toNat ≤ c.toNat ∧ c.toNat ≤ '9'.toNat :=
      Char.isDigit_iff_toNat.mp (hdigit c hc)
    simp only [Char.reduceToNat] at hrange
    rw [toAsciiLowercase, if_neg (by simp; omega)]
    rfl
  have hword : ∀ w ∈ ["inf".toList, "infinity".toList, "nan".toList], l ≠ w := by
    have hnone : ∀ w ∈ ["inf".toList, "infinity".toList, "nan".toList], parseDigits w = none := by
      decide
    rintro w hw rfl
    rw [hnone l hw] at h
    cases h
  have hmem : ∀ c : Char, c.isDigit = false → c ∉ l := fun c hc hcl ↦ by
    rw [hdigit c hcl] at hc
    cases hc
  rw [parseUnsigned, hlower, if_neg, if_neg (hword _ (by decide)), parseDecimal,
    splitOnce_of_not_mem (hmem _ (by decide))]
  · simp only [splitOnce_of_not_mem (hmem '.' (by decide)), Option.getD_none, List.append_nil, h]
    simp
  · rintro (e | e)
    · exact hword _ (by decide) e
    · exact hword _ (by decide) e

/-- **A text of an `i64` is read as an `f64` that reaches the same small bounds.** -/
theorem parseF64_of_parseI64 {s : String} {n : ℤ} (h : parseI64 s = some n) :
    ∃ x, parseF64 s = some x ∧
      ∀ k : ℤ, 1 ≤ k → k < 2 ^ 53 → ((F64.finite k).le x = true ↔ k ≤ n) := by
  have hcast : ∀ {l : List Char} {n : ℤ}, (parseDigits l).map (fun m : ℕ ↦ (m : ℤ)) = some n →
      ∃ x, parseUnsigned l = some x ∧
        ∀ k : ℤ, 1 ≤ k → k < 2 ^ 53 → ((F64.finite k).le x = true ↔ k ≤ n) := by
    intro l n hl
    obtain ⟨m, hm, rfl⟩ := Option.map_eq_some_iff.mp hl
    exact ⟨_, parseUnsigned_of_parseDigits hm, fun k hk hk' ↦ F64.le_ofRat_intCast m hk hk'⟩
  rw [parseI64] at h
  have hvalue := (Option.filter_eq_some_iff.mp h).1
  split at hvalue
  · rename_i l hl
    obtain ⟨m, hm, rfl⟩ := Option.map_eq_some_iff.mp hvalue
    rw [parseF64_minus hl]
    simp only [parseUnsigned_of_parseDigits hm, Option.map_some, Option.some.injEq, exists_eq_left']
    intro k hk _
    rw [F64.le_neg_ofRat_natCast m hk]
    simp
    omega
  · rename_i l hl
    rw [parseF64_plus hl]
    exact hcast hvalue
  · rename_i hminus hplus
    rw [parseF64_unsigned hminus hplus]
    exact hcast hvalue

end Rust

end NmOpenvpn3
