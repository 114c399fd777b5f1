import NmOpenvpn3.Rust.Str
import NmOpenvpn3.Rust.Decimal

/-!
# The kernel's route table

`/proc/net/route` prints destinations and masks in hexadecimal, in the byte order of memory: on a
little-endian host, 128.0.0.0 is `00000080`. The service reads the rows of its tunnel device and
tells from them whether the tunnel is a full one. It keeps the number of bits of a mask and forgets
which they are; `hasDefaultRoute_covers` says that this loses nothing for the masks that the kernel
prints.
-/

namespace NmOpenvpn3

namespace Rust

/-- `char::to_digit(16)`. -/
def hexDigit (c : Char) : Option ℕ :=
  let n := c.toNat
  if 48 ≤ n ∧ n ≤ 57 then some (n - 48)
  else if 65 ≤ n ∧ n ≤ 70 then some (n - 55)
  else if 97 ≤ n ∧ n ≤ 102 then some (n - 87)
  else none

/-- The value of a string of hexadecimal digits, given that of the digits before it. -/
def hexDigits : ℕ → List Char → Option ℕ
  | acc, [] => some acc
  | acc, c :: l => (hexDigit c).bind fun d ↦ hexDigits (16 * acc + d) l

/-- `u32::from_str_radix` at radix 16. A plus sign is allowed in front. -/
def fromStrRadix16 (l : List Char) : Option (BitVec 32) :=
  let digits := match l with
    | '+' :: l => l
    | l => l
  if digits.isEmpty then none
  else ((hexDigits 0 digits).filter (· < 2 ^ 32)).map (BitVec.ofNat 32)

end Rust

namespace Service

open Rust

/-- A route of the tunnel device, its addresses in the byte order of the file. -/
structure Route where
  destBe : BitVec 32
  prefixLen : ℕ
  nextHopBe : BitVec 32
  metric : ℕ
  deriving DecidableEq, Repr

/-- The rows of the table below its header, split into columns. -/
def dataRows (raw : String) : List (List (List Char)) := (lines raw.toList).tail.map splitWhitespace

/-- A row of the device, if its columns can be read. -/
def parseRow (tundev : String) (cols : List (List Char)) : Option Route :=
  match cols with
  | iface :: dest :: nextHop :: _ :: _ :: _ :: metric :: mask :: _ :: _ :: _ :: _ =>
    if iface ≠ tundev.toList then none
    else do
      let destBe ← fromStrRadix16 dest
      let nextHopBe ← fromStrRadix16 nextHop
      let metric ← parseU32 (String.ofList metric)
      let maskBe ← fromStrRadix16 mask
      some { destBe, prefixLen := maskBe.cpop.toNat, nextHopBe, metric }
  | _ => none

/-- `parse_proc_routes`. -/
def parseProcRoutes (raw tundev : String) : List Route :=
  (dataRows raw).filterMap (parseRow tundev)

/-- `has_default_route`: the default route, or the two halves that the daemon installs for it. -/
def hasDefaultRoute (routes : List Route) : Bool :=
  (routes.any fun r ↦ r.prefixLen == 0 && r.destBe == 0) ||
    ((routes.any fun r ↦ r.prefixLen == 1 && r.destBe == 0) &&
      routes.any fun r ↦ r.prefixLen == 1 && r.destBe == 0x80)

/-! ## The table -/

/-- A word with its bytes in the other order. -/
def byteSwap (x : BitVec 32) : BitVec 32 :=
  x.extractLsb' 0 8 ++ x.extractLsb' 8 8 ++ x.extractLsb' 16 8 ++ x.extractLsb' 24 8

/-- The mask of the first `p` bits of an address, as a little-endian host has it in memory. -/
def netmask (p : ℕ) : BitVec 32 := byteSwap (BitVec.allOnes 32 <<< (32 - p))

/-- The destination of a row. -/
def destOf (cols : List (List Char)) : Option (BitVec 32) := cols[1]?.bind fromStrRadix16

/-- The mask of a row. -/
def maskOf (cols : List (List Char)) : Option (BitVec 32) := cols[7]?.bind fromStrRadix16

/-- The masks of the table are contiguous, in the byte order of the file. -/
def HasNetmasks (raw : String) : Prop :=
  ∀ cols ∈ dataRows raw, ∀ mask, maskOf cols = some mask → ∃ p ≤ 32, mask = netmask p

/-- A row of the device that matches an address. -/
def Matches (tundev : String) (addr : BitVec 32) (cols : List (List Char)) : Prop :=
  cols[0]? = some tundev.toList ∧
    ∃ dest mask, destOf cols = some dest ∧ maskOf cols = some mask ∧ addr &&& mask = dest

/-- The columns that a route was read from. -/
theorem parseRow_eq_some {tundev : String} {cols : List (List Char)} {r : Route}
    (h : parseRow tundev cols = some r) :
    cols[0]? = some tundev.toList ∧ destOf cols = some r.destBe ∧
      ∃ mask, maskOf cols = some mask ∧ r.prefixLen = mask.cpop.toNat := by
  unfold parseRow at h
  split at h
  · split_ifs at h with hdev
    simp only [Option.bind_eq_bind, Option.bind_eq_some_iff, Option.some_inj] at h
    obtain ⟨dest, hdest, -, -, -, -, mask, hmask, rfl⟩ := h
    exact ⟨by simpa using hdev, hdest, mask, hmask, rfl⟩
  · exact absurd h (by simp)

/-- A contiguous mask has as many bits as its prefix is long. -/
theorem cpop_netmask {p : ℕ} (hp : p ≤ 32) : (netmask p).cpop.toNat = p := by
  have hall : ∀ p < 33, (netmask p).cpop.toNat = p := by decide
  exact hall p (by omega)

/-- The mask of a route of the table is determined by its prefix length. -/
theorem exists_row {raw tundev : String} (hmasks : HasNetmasks raw) {r : Route}
    (h : r ∈ parseProcRoutes raw tundev) :
    ∃ cols ∈ dataRows raw, cols[0]? = some tundev.toList ∧ destOf cols = some r.destBe ∧
      maskOf cols = some (netmask r.prefixLen) := by
  obtain ⟨cols, hcols, hrow⟩ := List.mem_filterMap.mp h
  obtain ⟨hdev, hdest, mask, hmask, hlen⟩ := parseRow_eq_some hrow
  obtain ⟨p, hp, rfl⟩ := hmasks cols hcols mask hmask
  rw [cpop_netmask hp] at hlen
  exact ⟨cols, hcols, hdev, hdest, hlen ▸ hmask⟩

/-- The first bit of an address is in the lowest byte. -/
theorem and_netmask_one (addr : BitVec 32) :
    addr &&& netmask 1 = 0 ∨ addr &&& netmask 1 = 0x80 := by
  have h1 : netmask 1 = BitVec.twoPow 32 7 := by decide
  rw [h1, BitVec.and_twoPow]
  split_ifs
  · exact .inr (by decide)
  · exact .inl rfl

/-- Where the table has a default route or its two halves, every address is routed through the
device. -/
theorem hasDefaultRoute_covers (raw tundev : String) (hmasks : HasNetmasks raw)
    (h : hasDefaultRoute (parseProcRoutes raw tundev) = true) (addr : BitVec 32) :
    ∃ cols ∈ dataRows raw, Matches tundev addr cols := by
  -- A route that an address is in has a row that matches it.
  have key {r : Route} (hr : r ∈ parseProcRoutes raw tundev)
      (haddr : addr &&& netmask r.prefixLen = r.destBe) :
      ∃ cols ∈ dataRows raw, Matches tundev addr cols := by
    obtain ⟨cols, hcols, hdev, hdest, hmask⟩ := exists_row hmasks hr
    exact ⟨cols, hcols, hdev, _, _, hdest, hmask, haddr⟩
  simp only [hasDefaultRoute, Bool.or_eq_true, Bool.and_eq_true, List.any_eq_true,
    beq_iff_eq] at h
  obtain ⟨r, hr, hlen, hdest⟩ | ⟨⟨r, hr, hlen, hdest⟩, r', hr', hlen', hdest'⟩ := h
  · have hzero : netmask 0 = 0 := by decide
    exact key hr (by simp [hlen, hdest, hzero])
  · obtain h0 | h1 := and_netmask_one addr
    · exact key hr (by rw [hlen, hdest, h0])
    · exact key hr' (by rw [hlen', hdest', h1])

/-- A table with the two halves of the default route. -/
def splitTable : String :=
  "Iface\nt 00000000 00000000 1 0 0 0 00000080 0 0 0\nt 00000080 00000000 1 0 0 0 00000080 0 0 0\n"

theorem hasNetmasks_splitTable : HasNetmasks splitTable := by
  have hrows : (dataRows splitTable).map maskOf = [some (netmask 1), some (netmask 1)] := by decide
  intro cols hcols mask hmask
  have hmem : some mask ∈ (dataRows splitTable).map maskOf := hmask ▸ List.mem_map_of_mem hcols
  rw [hrows] at hmem
  exact ⟨1, by decide, by simpa using hmem⟩

theorem splitTable_covers :
    ∃ cols ∈ dataRows splitTable, Matches "t" 0xC0A80101 cols :=
  hasDefaultRoute_covers splitTable "t" hasNetmasks_splitTable (by decide) _

end Service

end NmOpenvpn3
