import NmOpenvpn3.Rust.Decimal
import NmOpenvpn3.Rust.Str

/-!
# Addresses

`str::parse` at `Ipv4Addr` and `IpAddr`. Each octet is decimal, of at most three digits and without
a leading zero, so an address has one text and no other is read as it, `parseIpv4_eq_some`.

Of an IPv6 address only the fact is needed that a text is one.
-/

namespace NmOpenvpn3

namespace Rust

/-! ## Digits -/

/-- The next character is not a digit. -/
def NoDigitHead (l : List Char) : Prop := ∀ c, l.head? = some c → c.isDigit = false

theorem noDigitHead_nil : NoDigitHead [] := by simp [NoDigitHead]

theorem noDigitHead_cons {c : Char} {l : List Char} (hc : c.isDigit = false) :
    NoDigitHead (c :: l) := by
  simpa [NoDigitHead] using hc

theorem takeWhile_isDigit_append {ds rest : List Char} (hds : ∀ c ∈ ds, c.isDigit = true)
    (hrest : NoDigitHead rest) :
    (ds ++ rest).takeWhile Char.isDigit = ds ∧ (ds ++ rest).dropWhile Char.isDigit = rest := by
  have hnone : rest.takeWhile Char.isDigit = [] ∧ rest.dropWhile Char.isDigit = rest := by
    cases rest with
    | nil => simp
    | cons c rest =>
      have hc := hrest c rfl
      simp [hc]
  rw [List.takeWhile_append_of_pos hds, List.dropWhile_append_of_pos hds, hnone.1, hnone.2]
  simp

theorem noDigitHead_dropWhile (l : List Char) : NoDigitHead (l.dropWhile Char.isDigit) := by
  intro c hc
  have := List.head?_dropWhile_not Char.isDigit l
  rw [hc] at this
  simpa using this

/-- A digit is printed as itself. -/
theorem digitChar_of_isDigit {c : Char} (h : c.isDigit = true) :
    c.toNat - '0'.toNat < 10 ∧ (c.toNat - '0'.toNat).digitChar = c := by
  have hbounds := Char.isDigit_iff_toNat.mp h
  have hlow : '0'.toNat = 48 := rfl
  have hhigh : '9'.toNat = 57 := rfl
  have hall : ∀ n < 10, (n.digitChar).toNat = 48 + n := by decide
  have hlt : c.toNat - '0'.toNat < 10 := by omega
  refine ⟨hlt, Char.toNat_inj.mp ?_⟩
  rw [hall _ hlt]
  omega

/-- The digits of a number without a leading zero are those that it is printed with. -/
theorem toDigits_ofDigitChars {l : List Char} (hdigits : ∀ c ∈ l, c.isDigit = true) (hne : l ≠ [])
    (hhead : l.head? = some '0' → l.length = 1) :
    Nat.toDigits 10 (Nat.ofDigitChars 10 l 0) = l := by
  induction l using List.reverseRecOn with
  | nil => exact absurd rfl hne
  | append_singleton l c ih =>
    obtain ⟨hlt, hc⟩ := digitChar_of_isDigit (hdigits c (by simp))
    rw [Nat.ofDigitChars_append, Nat.ofDigitChars_cons, Nat.ofDigitChars_nil]
    by_cases hl : l = []
    · subst hl
      rw [Nat.ofDigitChars_nil, Nat.mul_zero, Nat.zero_add, Nat.toDigits_of_lt_base hlt, hc,
        List.nil_append]
    · -- The first digit is not zero, so neither is the number before the last digit.
      have hhead' : l.head? ≠ some '0' := by
        intro h
        have := hhead (by rw [List.head?_append_of_ne_nil _ hl, h])
        have hpos := List.length_pos_iff.mpr hl
        simp only [List.length_append, List.length_singleton] at this
        omega
      have ih := ih (fun d hd ↦ hdigits d (List.mem_append_left _ hd)) hl
        fun h ↦ absurd h hhead'
      have hpos : 0 < Nat.ofDigitChars 10 l 0 := by
        refine Nat.pos_of_ne_zero fun h0 ↦ hhead' ?_
        rw [h0, Nat.toDigits_zero] at ih
        rw [← ih, List.head?_cons]
      rw [← Nat.toDigits_append_toDigits (by omega) hpos hlt, ih, Nat.toDigits_of_lt_base hlt, hc]

/-- A number other than zero is printed without a leading zero. -/
theorem head?_toDigits_ne {n : ℕ} (h : 0 < n) : (Nat.toDigits 10 n).head? ≠ some '0' := by
  induction n using Nat.strong_induction_on with
  | _ n ih =>
    rw [Nat.toDigits_eq_if (by omega)]
    split_ifs with hlt
    · have hall : ∀ n < 10, n.digitChar = '0' → n = 0 := by decide
      intro hhead
      have := hall n hlt (by simpa using hhead)
      omega
    · rw [List.head?_append_of_ne_nil _ Nat.toDigits_ne_nil]
      exact ih (n / 10) (by omega) (by omega)

/-! ## IPv4 -/

/-- `Ipv4Addr`. -/
structure Ipv4Addr where
  a : BitVec 8
  b : BitVec 8
  c : BitVec 8
  d : BitVec 8
  deriving DecidableEq, Repr

/-- `u32::from`. -/
def Ipv4Addr.toU32 (ip : Ipv4Addr) : BitVec 32 := ip.a ++ ip.b ++ ip.c ++ ip.d

/-- The text of an octet. -/
def octetText (x : BitVec 8) : List Char := Nat.toDigits 10 x.toNat

/-- What `Display` writes. -/
def Ipv4Addr.text (ip : Ipv4Addr) : List Char :=
  octetText ip.a ++ '.' :: (octetText ip.b ++ '.' :: (octetText ip.c ++ '.' :: octetText ip.d))

/-- `read_number` at an octet. -/
def readOctet (l : List Char) : Option (BitVec 8 × List Char) :=
  let digits := l.takeWhile Char.isDigit
  let n := Nat.ofDigitChars 10 digits 0
  if digits = [] ∨ 3 < digits.length ∨ (digits.head? = some '0' ∧ 1 < digits.length) ∨ 256 ≤ n then
    none
  else some (BitVec.ofNat 8 n, l.dropWhile Char.isDigit)

/-- `read_given_char`. -/
def readChar (c : Char) (l : List Char) : Option (List Char) :=
  if l.head? = some c then some l.tail else none

/-- `read_ipv4_addr`. -/
def readIpv4 (l : List Char) : Option (Ipv4Addr × List Char) := do
  let (a, l) ← readOctet l
  let l ← readChar '.' l
  let (b, l) ← readOctet l
  let l ← readChar '.' l
  let (c, l) ← readOctet l
  let l ← readChar '.' l
  let (d, l) ← readOctet l
  some (⟨a, b, c, d⟩, l)

/-- `str::parse::<Ipv4Addr>`. -/
def parseIpv4 (l : List Char) : Option Ipv4Addr :=
  ((readIpv4 l).filter fun r ↦ r.2.isEmpty).map Prod.fst

theorem readChar_eq_some {c : Char} {l rest : List Char} :
    readChar c l = some rest ↔ l = c :: rest := by
  rw [readChar, Option.ite_none_right_eq_some, Option.some_inj]
  cases l with
  | nil => simp
  | cons c' l => simp

theorem isDigit_of_mem_octetText {x : BitVec 8} {c : Char} (h : c ∈ octetText x) :
    c.isDigit = true :=
  Nat.isDigit_of_mem_toDigits (by omega) (le_refl 10) h

theorem octetText_bounds (x : BitVec 8) : octetText x ≠ [] ∧ (octetText x).length ≤ 3 ∧
    ((octetText x).head? = some '0' → (octetText x).length = 1) := by
  have hlt := x.isLt
  refine ⟨Nat.toDigits_ne_nil,
    (Nat.length_toDigits_le_iff (by omega) (by omega)).mpr (by omega), ?_⟩
  intro hhead
  have hzero : x.toNat = 0 := Nat.eq_zero_of_not_pos fun hpos ↦ head?_toDigits_ne hpos hhead
  rw [octetText, hzero]
  rfl

theorem readOctet_eq_some {l rest : List Char} {x : BitVec 8} :
    readOctet l = some (x, rest) ↔ l = octetText x ++ rest ∧ NoDigitHead rest := by
  rw [readOctet, Option.ite_none_left_eq_some, Option.some_inj, Prod.mk.injEq]
  constructor
  · rintro ⟨hok, rfl, rfl⟩
    simp only [not_or, not_and, not_lt, not_le] at hok
    obtain ⟨hne, -, hzero, hlt⟩ := hok
    refine ⟨?_, noDigitHead_dropWhile l⟩
    rw [octetText, BitVec.toNat_ofNat, Nat.mod_eq_of_lt hlt,
      toDigits_ofDigitChars (fun c hc ↦ List.mem_takeWhile_imp hc) hne fun h ↦ ?_,
      List.takeWhile_append_dropWhile]
    have := hzero h
    have := List.length_pos_iff.mpr hne
    omega
  · rintro ⟨rfl, hrest⟩
    obtain ⟨htake, hdrop⟩ := takeWhile_isDigit_append
      (fun c hc ↦ isDigit_of_mem_octetText (x := x) hc) hrest
    obtain ⟨hne, hlen, hzero⟩ := octetText_bounds x
    have hvalue : Nat.ofDigitChars 10 (octetText x) 0 = x.toNat := Nat.ofDigitChars_ten_toDigits
    have hlt := x.isLt
    rw [htake, hdrop, hvalue, BitVec.ofNat_toNat, BitVec.setWidth_eq]
    refine ⟨?_, rfl, rfl⟩
    simp only [not_or, not_and, not_lt, not_le]
    exact ⟨hne, hlen, fun h ↦ (hzero h).le, hlt⟩

/-- An address is read from its text and from no other. -/
theorem readIpv4_eq_some {l rest : List Char} {ip : Ipv4Addr} :
    readIpv4 l = some (ip, rest) ↔ l = ip.text ++ rest ∧ NoDigitHead rest := by
  have hdot {l : List Char} : NoDigitHead ('.' :: l) := noDigitHead_cons (by decide)
  simp only [readIpv4, Option.bind_eq_bind, Option.bind_eq_some_iff, Prod.exists, readChar_eq_some,
    readOctet_eq_some, Option.some_inj, Prod.mk.injEq]
  constructor
  · rintro ⟨a, _, ⟨rfl, -⟩, _, rfl, b, _, ⟨rfl, -⟩, _, rfl, c, _, ⟨rfl, -⟩, _, rfl, d, _,
      ⟨rfl, hrest⟩, rfl, rfl⟩
    exact ⟨by simp [Ipv4Addr.text], hrest⟩
  · rintro ⟨rfl, hrest⟩
    exact ⟨ip.a, _, ⟨by simp only [Ipv4Addr.text, List.append_assoc, List.cons_append], hdot⟩,
      _, rfl, ip.b, _, ⟨rfl, hdot⟩, _, rfl, ip.c, _, ⟨rfl, hdot⟩, _, rfl, ip.d, _, ⟨rfl, hrest⟩,
      rfl, rfl⟩

theorem parseIpv4_eq_some {l : List Char} {ip : Ipv4Addr} :
    parseIpv4 l = some ip ↔ l = ip.text := by
  simp only [parseIpv4, Option.map_eq_some_iff, Option.filter_eq_some_iff, Prod.exists,
    readIpv4_eq_some, List.isEmpty_iff]
  constructor
  · rintro ⟨_, rest, ⟨⟨rfl, -⟩, rfl⟩, rfl⟩
    exact List.append_nil _
  · rintro rfl
    exact ⟨ip, [], ⟨⟨(List.append_nil _).symm, noDigitHead_nil⟩, rfl⟩, rfl⟩

/-! ## IPv6 -/

/-- `char::to_digit(16)` is there. -/
def isHexDigit (c : Char) : Bool :=
  c.isDigit || decide ('a' ≤ c ∧ c ≤ 'f') || decide ('A' ≤ c ∧ c ≤ 'F')

/-- `read_number` at a group: at most four digits, with leading zeros. -/
def readGroup (l : List Char) : Option (List Char) :=
  let digits := l.takeWhile isHexDigit
  if digits = [] ∨ 4 < digits.length then none else some (l.dropWhile isHexDigit)

/-- `read_separator`: a colon in front of all groups but the first. -/
def readSeparator (i : ℕ) (l : List Char) : Option (List Char) :=
  if i = 0 then some l else readChar ':' l

/-- `read_groups`, with `left` groups left of its limit: how many groups it has read in all, whether
the last two are an embedded IPv4 address, and the rest of the text. -/
def readGroups : (left i : ℕ) → List Char → ℕ × Bool × List Char
  | 0, i, l => (i, false, l)
  | left + 1, i, l =>
    -- An IPv4 address needs two groups.
    match if left = 0 then none else (readSeparator i l).bind readIpv4 with
    | some (_, rest) => (i + 2, true, rest)
    | none =>
      match (readSeparator i l).bind readGroup with
      | some rest => readGroups left (i + 1) rest
      | none => (i, false, l)

/-- `read_ipv6_addr`: what is left of the text after an address. -/
def readIpv6 (l : List Char) : Option (List Char) :=
  let head := readGroups 8 0 l
  if head.1 = 8 then some head.2.2
  else if head.2.1 then none
  else do
    let l ← readChar ':' head.2.2
    let l ← readChar ':' l
    some (readGroups (8 - (head.1 + 1)) 0 l).2.2

/-- `IpAddr`. -/
inductive IpAddr where
  | v4 (ip : Ipv4Addr)
  | v6
  deriving DecidableEq, Repr

/-- `str::parse::<IpAddr>`. -/
def parseIpAddr (l : List Char) : Option IpAddr :=
  match readIpv4 l with
  | some (ip, rest) => if rest.isEmpty then some (.v4 ip) else none
  | none => if readIpv6 l = some [] then some .v6 else none

theorem parseIpAddr_eq_v4 {l : List Char} {ip : Ipv4Addr} :
    parseIpAddr l = some (.v4 ip) ↔ l = ip.text := by
  rw [← parseIpv4_eq_some, parseIpAddr, parseIpv4]
  cases readIpv4 l with
  | none => simp
  | some r => by_cases hrest : r.2.isEmpty = true <;> simp [hrest, Option.filter]

/-- Without a colon, at most one group is read, or an IPv4 address. -/
theorem readGroups_of_colon_not_mem {l : List Char} (h : ':' ∉ l) (left : ℕ) :
    (readGroups left 0 l).1 ≤ 2 ∧
      ((readGroups left 0 l).2.1 = true ∨ ':' ∉ (readGroups left 0 l).2.2) := by
  have hsep {l : List Char} (hl : ':' ∉ l) : readSeparator 1 l = none := by
    refine Option.eq_none_iff_forall_not_mem.mpr fun rest hrest ↦ hl ?_
    rw [readChar_eq_some.mp hrest]
    exact List.mem_cons_self
  have hone {l : List Char} (hl : ':' ∉ l) : ∀ left, readGroups left 1 l = (1, false, l)
    | 0 => rfl
    | left + 1 => by simp [readGroups, hsep hl]
  cases left with
  | zero => exact ⟨by simp [readGroups], .inr h⟩
  | succ left =>
    rw [readGroups]
    split
    · exact ⟨le_refl 2, .inl rfl⟩
    · split
      · rename_i rest hgroup
        have hrest : ':' ∉ rest := by
          simp only [readSeparator, if_true, Option.bind_some, readGroup,
            Option.ite_none_left_eq_some, Option.some_inj] at hgroup
          rw [← hgroup.2]
          exact fun hmem ↦ h ((List.dropWhile_suffix _).mem hmem)
        rw [hone hrest]
        exact ⟨by omega, .inr hrest⟩
      · exact ⟨by omega, .inr h⟩

/-- An IPv6 address has a colon. -/
theorem colon_mem_of_parseIpAddr {l : List Char} (h : parseIpAddr l = some .v6) : ':' ∈ l := by
  have hread : readIpv6 l = some [] := by
    rw [parseIpAddr] at h
    split at h
    · split_ifs at h
      simp at h
    · split_ifs at h with hread
      exact hread
  by_contra hcolon
  obtain ⟨hcount, hv4 | hrest⟩ := readGroups_of_colon_not_mem hcolon 8
  · rw [readIpv6, if_neg (by omega), if_pos hv4] at hread
    cases hread
  · rw [readIpv6, if_neg (by omega)] at hread
    split_ifs at hread
    obtain ⟨rest, hchar, -⟩ := Option.bind_eq_some_iff.mp hread
    rw [readChar_eq_some.mp hchar] at hrest
    exact hrest List.mem_cons_self

example : parseIpAddr "::1".toList = some .v6 ∧
    parseIpAddr "1:2:3:4:5:6:10.0.0.1".toList = some .v6 ∧
    parseIpAddr "10.0.00.1".toList = none ∧ parseIpAddr "1.2.3.4:1".toList = none := by decide

end Rust

end NmOpenvpn3
