import NmOpenvpn3.Agreement.Lists
import NmOpenvpn3.Editor.Widgets

/-!
# Apply without an edit

Opening the editor and pressing Apply writes every owned key of the map again. Entry rows, switch
rows and choice rows give back what they were given, as far as the profile is concerned. A spin row
gives back an integer within its bounds, without the zero, which it takes for an unset value. So the
profile may change in its numbers only, and `unedited_profile_iff` says exactly when it does not:
each number must be what its row writes.

The proof compares the two profiles block by block. That the numbers must be kept follows from the
directives of the profile, each of which stands under a name that only its own block writes.
-/

namespace NmOpenvpn3

namespace Editor

open Rust Ovpn ImportExport Service Agreement

/-! ## Numbers that are kept -/

/-- A spin row with this upper bound writes the number back, or it is no number before and after. -/
def SpinKept (max : ℕ) (v : String) : Prop :=
  match parseI64 v with
  | some n => 1 ≤ n ∧ n ≤ max ∧ toString n = v
  | none => ∀ x, parseF64 v = some x → (F64.finite 1).le x = false

/-- The `mssfix` switch and its byte count write the number or the flag back, or there is neither
before and after. -/
def MssfixKept (v : String) : Prop :=
  v = "yes" ∨ match parseI64 v with
    | some n => 1 ≤ n ∧ n ≤ 65535
    | none => ∀ x, parseF64 v = some x → (F64.finite 0).lt x = false

/-- The spin rows of numbers that the profile shows as integers, with their upper bounds. -/
def spinKeys : List (String × ℕ) :=
  [("port", 65535), ("tunnel-mtu", 65535), ("fragment-size", 65535), ("keysize", 65535),
    ("ping", timerSecsMax), ("ping-restart", timerSecsMax), ("reneg-seconds", timerSecsMax),
    ("connect-timeout", timerSecsMax)]

/-- The profile has a proxy. -/
def hasProxy (data : VpnData) : Bool :=
  (get data "proxy-type" = some "http" ∨ get data "proxy-type" = some "socks") ∧
    (get data "proxy-server").isSome

/-- Every number that the profile shows is what its row writes. -/
structure NumbersKept (data : VpnData) : Prop where
  spins : ∀ p ∈ spinKeys, ∀ v, get data p.1 = some v → SpinKept p.2 v
  mssfix : ∀ v, get data "mssfix" = some v → MssfixKept v
  proxyPort : hasProxy data = true → ∀ v, get data "proxy-port" = some v →
    ∃ n : ℕ, 1 ≤ n ∧ n ≤ 65535 ∧ v = toString n

/-! ## What a spin row writes -/

/-- The integer of a spin row from `0` to `m` that was given a text. -/
def spinInt (m : ℕ) (v : Option String) : ℤ := (spinRow 0 m (parseIntDefault v (.finite 0))).toI64

section Spins

variable {m : ℕ} (hm : m < 2 ^ 53)
include hm

theorem spinInt_mem (v : Option String) : 0 ≤ spinInt m v ∧ spinInt m v ≤ m := by
  rw [spinInt, spinRow, Nat.cast_zero]
  exact F64.toI64_clamp_mem hm _

theorem le_spinInt (v : Option String) {k : ℤ} (hk : 1 ≤ k) (hkm : k ≤ m) :
    k ≤ spinInt m v ↔ (F64.finite k).le (parseIntDefault v (.finite 0)) = true := by
  rw [spinInt, spinRow, Nat.cast_zero]
  exact F64.le_toI64_clamp hm _ hk hkm

/-- An integer is brought within the bounds. -/
theorem spinInt_of_parseI64 {v : String} {n : ℤ} (h : parseI64 v = some n) :
    spinInt m (some v) = max 0 (min (m : ℤ) n) := by
  obtain ⟨x, hx, hle⟩ := parseF64_of_parseI64 h
  have hbound : ∀ k : ℤ, 1 ≤ k → k ≤ m → (k ≤ spinInt m (some v) ↔ k ≤ n) := by
    intro k hk hkm
    have hlarge : (m : ℤ) < 2 ^ 53 := by exact_mod_cast hm
    rw [le_spinInt hm _ hk hkm, parseIntDefault, Option.bind_some, hx, Option.getD_some]
    exact hle k hk (by omega)
  have hmem := spinInt_mem hm (some v)
  have h1 := hbound (spinInt m (some v))
  have h2 := hbound n
  have h3 := hbound m
  omega

/-- What is no number leaves the row at zero, and so does a number below one. -/
theorem spinInt_pos_iff (hm0 : 1 ≤ m) (v : String) : 0 < spinInt m (some v) ↔
    ∃ x, parseF64 v = some x ∧ (F64.finite 1).le x = true := by
  have hone := le_spinInt hm (some v) le_rfl (by exact_mod_cast hm0)
  rw [Int.cast_one] at hone
  rw [show 0 < spinInt m (some v) ↔ 1 ≤ spinInt m (some v) by omega, hone,
    parseIntDefault, Option.bind_some]
  cases parseF64 v with
  | none => simp
  | some x => simp

theorem spinInt_unset (v : Option String) (h : argIsSet v = none) : spinInt m v = 0 := by
  have hzero : parseIntDefault v (.finite 0) = .finite 0 := by
    cases v with
    | none => rfl
    | some v =>
      obtain rfl : v = "" := by
        by_contra hv
        simp [argIsSet, Option.filter, hv] at h
      rfl
  rw [spinInt, hzero, spinRow, Nat.cast_zero, F64.toI64_clamp_finite hm]
  simp

end Spins

section Texts

variable {n : ℤ} (h : IsI64 n)
include h

theorem isCString_toString : isCString (toString n) = true := by
  rw [isCString, Bool.not_eq_true', ← Bool.not_eq_true, List.contains_iff_mem]
  intro hc
  rcases char_of_parseI64 (parseI64_toString h) _ hc with hd | hd | hd
  · exact absurd hd (by decide)
  · exact absurd hd (by decide)
  · exact absurd hd (by decide)

theorem isCString_intOrEmpty : isCString (intOrEmpty n) = true := by
  rw [intOrEmpty]
  split_ifs
  · exact isCString_toString h
  · rfl

theorem argIsSet_intOrEmpty :
    argIsSet (some (intOrEmpty n)) = if 0 < n then some (toString n) else none := by
  rw [intOrEmpty]
  split_ifs
  · exact argIsSet_some (toString_ne_of_parseI64 h rfl)
  · rfl

theorem isCString_mssfixValue (enabled : Bool) : isCString (mssfixValue enabled n) = true := by
  rw [mssfixValue]
  split_ifs
  · rfl
  · exact isCString_toString h
  · decide

theorem argIsSet_mssfixValue (enabled : Bool) : argIsSet (some (mssfixValue enabled n)) =
    if enabled then some (if 0 < n then toString n else "yes") else none := by
  rw [mssfixValue]
  cases enabled with
  | false => rfl
  | true =>
    simp only [Bool.not_true, Bool.false_eq_true, if_false, if_true]
    split_ifs
    · exact argIsSet_some (toString_ne_of_parseI64 h rfl)
    · decide

end Texts

theorem isI64_spinInt {m : ℕ} (hm : m < 2 ^ 53) (v : Option String) : IsI64 (spinInt m v) := by
  have hlarge : (m : ℤ) < 2 ^ 53 := by exact_mod_cast hm
  obtain ⟨h0, h1⟩ := spinInt_mem hm v
  constructor <;> omega

/-- An integer line is kept exactly when the number is. -/
theorem intValue_spinInt_iff {m : ℕ} (hm : m < 2 ^ 53) (hm0 : 1 ≤ m) (v : Option String) :
    intValue (argIsSet (some (intOrEmpty (spinInt m v)))) = intValue (argIsSet v) ↔
      ∀ w, argIsSet v = some w → SpinKept m w := by
  have hi64 := isI64_spinInt hm v
  have hnew : intValue (argIsSet (some (intOrEmpty (spinInt m v)))) =
      if 0 < spinInt m v then some (toString (spinInt m v)) else none := by
    rw [argIsSet_intOrEmpty hi64, intValue]
    split_ifs
    · rw [Option.filter_some, if_pos (by rw [parseI64_toString hi64]; rfl)]
    · rfl
  rw [hnew]
  cases hv : argIsSet v with
  | none =>
    rw [spinInt_unset hm v hv]
    simp [intValue]
  | some w =>
    obtain ⟨rfl, -⟩ := argIsSet_eq_some.mp hv
    simp only [Option.some.injEq, forall_eq', SpinKept, intValue, Option.filter_some]
    cases hparse : parseI64 w with
    | none =>
      have hpos := spinInt_pos_iff hm hm0 w
      simp only [Option.isSome_none, Bool.false_eq_true, if_false]
      rw [ite_eq_right_iff]
      simp only [reduceCtorEq, imp_false, hpos]
      push Not
      simp
    | some n =>
      have hint := spinInt_of_parseI64 hm hparse
      simp only [Option.isSome_some, if_true]
      constructor
      · intro heq
        have hpos : 0 < spinInt m (some w) := by
          by_contra hneg
          rw [if_neg hneg] at heq
          cases heq
        rw [if_pos hpos] at heq
        have htext : toString (spinInt m (some w)) = w := Option.some_inj.mp heq
        have hn : spinInt m (some w) = n := eq_of_parseI64 hi64 hparse htext
        have hmem := spinInt_mem hm (some w)
        rw [hn] at htext hmem hpos
        exact ⟨hpos, hmem.2, htext⟩
      · rintro ⟨h1, h2, htext⟩
        have hn : spinInt m (some w) = n := by omega
        rw [hn, if_pos (by omega), htext]

/-- A proxy port, which is written as it stands, is kept exactly when it is the text of a port. -/
theorem getD_spinInt_iff (v : Option String) {n : ℕ} (h1 : 1 ≤ n) (h2 : n ≤ 65535) :
    (argIsSet (some (intOrEmpty (spinInt 65535 v)))).getD (toString n) =
        (argIsSet v).getD (toString n) ↔
      ∀ w, argIsSet v = some w → ∃ k : ℕ, 1 ≤ k ∧ k ≤ 65535 ∧ w = toString k := by
  have hlarge : 65535 < 2 ^ 53 := by norm_num
  have hport {k : ℕ} (hk : k ≤ 65535) : parseI64 (toString k) = some (k : ℤ) :=
    parseI64_toString (n := k) (by constructor <;> omega)
  have hmem := spinInt_mem hlarge v
  have hcast : ((spinInt 65535 v).toNat : ℤ) = spinInt 65535 v := Int.toNat_of_nonneg hmem.1
  rw [argIsSet_intOrEmpty (isI64_spinInt hlarge v)]
  cases hv : argIsSet v with
  | none => simp [spinInt_unset hlarge v hv]
  | some w =>
    obtain ⟨rfl, -⟩ := argIsSet_eq_some.mp hv
    simp only [Option.some.injEq, forall_eq', Option.getD_some]
    constructor
    · intro heq
      by_cases hpos : 0 < spinInt 65535 (some w)
      · rw [if_pos hpos, Option.getD_some] at heq
        exact ⟨(spinInt 65535 (some w)).toNat, by omega, by omega,
          heq.symm.trans (congrArg toString hcast.symm)⟩
      · rw [if_neg hpos, Option.getD_none] at heq
        exact ⟨n, h1, h2, heq.symm⟩
    · rintro ⟨k, hk1, hk2, rfl⟩
      have hint : spinInt 65535 (some (toString k)) = k := by
        rw [spinInt_of_parseI64 hlarge (hport hk2)]
        omega
      rw [hint, if_pos (by omega), Option.getD_some]
      rfl

/-! ## What the switch and its byte count write -/

/-- The arguments of the `mssfix` line for a value of the key. -/
def mssfixArgs (v : Option String) : Option (List String) :=
  v.bind fun w ↦ if w = "yes" then some [] else (parseI64 w).map fun n ↦ [toString n]

theorem mssfixCalls_eq (data : VpnData) : mssfixCalls data =
    (mssfixArgs (get data "mssfix")).toList.map fun args ↦ .line ("mssfix" :: args) := by
  rw [mssfixCalls, mssfixArgs]
  cases get data "mssfix" with
  | none => rfl
  | some w =>
    by_cases hw : w = "yes"
    · simp [hw]
    · simp only [hw, if_false, Option.bind_some]
      cases parseI64 w <;> rfl

/-- The byte count is the one of a spin row without the bound at the parse. -/
theorem toI64_mssfixBytes (data : VpnData) :
    (spinRow 0 65535 (mssfixBytesInitial data)).toI64 = spinInt 65535 (data "mssfix") := by
  have hlarge : 65535 < 2 ^ 53 := by norm_num
  have hrow : spinRow 0 65535 (mssfixBytesInitial data) =
      (mssfixBytesInitial data).clamp (.finite 0) (.finite (65535 : ℕ)) := rfl
  have htext : mssfixBytesInitial data =
      (parseIntDefault (data "mssfix") (.finite 0)).max (.finite 0) := by
    rw [mssfixBytesInitial, initialText, parseIntDefault]
    cases data "mssfix" <;> rfl
  have hbound : ∀ k : ℤ, 1 ≤ k → k ≤ (65535 : ℕ) →
      (k ≤ (spinRow 0 65535 (mssfixBytesInitial data)).toI64 ↔
        k ≤ spinInt 65535 (data "mssfix")) := by
    intro k hk hkm
    rw [le_spinInt hlarge _ hk hkm, hrow, F64.le_toI64_clamp hlarge _ hk hkm, htext,
      F64.le_max_zero _ (by exact_mod_cast hk)]
  have hmem := F64.toI64_clamp_mem hlarge (mssfixBytesInitial data)
  have hmem' := spinInt_mem hlarge (data "mssfix")
  rw [← hrow] at hmem
  have h1 := hbound (spinRow 0 65535 (mssfixBytesInitial data)).toI64
  have h2 := hbound (spinInt 65535 (data "mssfix"))
  omega

/-- The switch is on for the flag and for what is above zero. -/
theorem mssfixEnabled_eq (data : VpnData) : (buildWidgetTree data).mssfixEnabled = true ↔
    initialText data "mssfix" = "yes" ∨
      ∃ x, parseF64 (initialText data "mssfix") = some x ∧ (F64.finite 0).lt x = true := by
  change decide (_ ∨ (F64.finite 0).lt (mssfixBytesInitial data) = true) = true ↔ _
  rw [decide_eq_true_iff, mssfixBytesInitial, F64.lt_max_zero]
  cases parseF64 (initialText data "mssfix") with
  | none => simp [F64.lt]
  | some x => simp

theorem mssfixArgs_mssfixValue {n : ℤ} (h : IsI64 n) (enabled : Bool) :
    mssfixArgs (argIsSet (some (mssfixValue enabled n))) =
      if enabled then some (if 0 < n then [toString n] else []) else none := by
  rw [argIsSet_mssfixValue h]
  cases enabled with
  | false => rfl
  | true =>
    rw [if_pos rfl, if_pos rfl, mssfixArgs, Option.bind_some]
    by_cases hn : 0 < n
    · have hne : toString n ≠ "yes" := toString_ne_of_parseI64 h rfl
      rw [if_pos hn, if_pos hn, if_neg hne, parseI64_toString h, Option.map_some]
    · rw [if_neg hn, if_neg hn, if_pos rfl]

/-- The `mssfix` line is kept exactly when the number or the flag is. -/
theorem mssfixArgs_iff (data : VpnData) :
    mssfixArgs (argIsSet (some (mssfixValue (buildWidgetTree data).mssfixEnabled
        (spinInt 65535 (data "mssfix"))))) = mssfixArgs (get data "mssfix") ↔
      ∀ w, get data "mssfix" = some w → MssfixKept w := by
  have hlarge : 65535 < 2 ^ 53 := by norm_num
  rw [mssfixArgs_mssfixValue (isI64_spinInt hlarge _), if_congr (mssfixEnabled_eq data) rfl rfl]
  have htext := argIsSet_initialText data "mssfix"
  cases hv : get data "mssfix" with
  | none =>
    have hempty : initialText data "mssfix" = "" := by
      by_contra hne
      rw [hv, argIsSet_some hne] at htext
      cases htext
    have hoff : ¬(initialText data "mssfix" = "yes" ∨
        ∃ x, parseF64 (initialText data "mssfix") = some x ∧ (F64.finite 0).lt x = true) := by
      rw [hempty]
      rintro (h | ⟨x, hx, -⟩)
      · exact absurd h (by decide)
      · cases hx
    rw [if_neg hoff]
    simp [mssfixArgs]
  | some w =>
    obtain ⟨hw, -⟩ := get_eq_some.mp hv
    have hinit : initialText data "mssfix" = w := by rw [initialText, hw, Option.getD_some]
    rw [hinit, hw]
    simp only [Option.some.injEq, forall_eq', MssfixKept, mssfixArgs, Option.bind_some]
    by_cases hyes : w = "yes"
    · subst hyes
      have hzero : ¬0 < spinInt 65535 (some "yes") := by
        rw [spinInt_pos_iff hlarge (by norm_num)]
        rintro ⟨x, hx, -⟩
        cases hx
      simp [hzero]
    rw [if_neg hyes]
    simp only [hyes, false_or]
    cases hparse : parseI64 w with
    | some n =>
      have hint := spinInt_of_parseI64 hlarge hparse
      obtain ⟨x, hx, hle⟩ := parseF64_of_parseI64 hparse
      simp only [Option.map_some]
      constructor
      · intro heq
        have hpos : 0 < spinInt 65535 (some w) := by
          by_contra hneg
          rw [if_neg hneg] at heq
          split_ifs at heq
          cases heq
        rw [if_pos hpos] at heq
        split_ifs at heq
        have htexts : toString (spinInt 65535 (some w)) = toString n := by simpa using heq
        have hn : spinInt 65535 (some w) = n :=
          eq_of_parseI64 (isI64_spinInt hlarge _) (parseI64_toString (isI64_of_parseI64 hparse))
            htexts
        have hmem := spinInt_mem hlarge (some w)
        omega
      · rintro ⟨h1, h2⟩
        have hn : spinInt 65535 (some w) = n := by omega
        have habove : (F64.finite 0).lt x = true :=
          F64.lt_of_le_pos (a := (1 : ℤ)) (by norm_num) ((hle 1 le_rfl (by norm_num)).mpr h1)
        rw [if_pos ⟨x, hx, habove⟩, hn, if_pos (by omega)]
    | none =>
      rw [Option.map_none, ite_eq_right_iff]
      simp

/-! ## Keys that are kept -/

/-- The keys of the entry rows that are always written. -/
def textKeys : List String :=
  ["remote", "nm-openvpn3-profile", "dev", "data-ciphers", "tls-cipher", "verify-x509-name", "ta",
    "tls-crypt", "tls-crypt-v2", "proxy-server", "http-proxy-username"]

/-- The keys of the choice rows that are always written. -/
def choiceKeys : List String :=
  ["dev-type", "allow-compression", "comp-lzo", "compress", "cipher", "data-ciphers-fallback",
    "auth", "tls-version-min", "tls-version-max", "remote-cert-tls", "ns-cert-type", "ta-dir",
    "proxy-type"]

/-- The keys that Apply may change: those of the spin rows and the switch rows, and those of the
rows that only some types use. -/
def changedKeys : List String :=
  widgetDataKeys.filter (· ∉ "connection-type" :: (textKeys ++ choiceKeys))

section Keys

variable (s : DataItems)

theorem get_unedited_of_mem_textKeys {k : String} (h : k ∈ textKeys) :
    get (unedited s.data) k = get s.data k := by
  refine get_unedited_text s ?_
  revert k
  simp only [textKeys, List.forall_mem_cons]
  exact ⟨rfl, rfl, rfl, rfl, rfl, rfl, rfl, rfl, rfl, rfl, rfl,
    fun _ h ↦ absurd h List.not_mem_nil⟩

theorem get_unedited_of_mem_choiceKeys {k : String} (h : k ∈ choiceKeys) :
    get (unedited s.data) k = get s.data k := by
  have hrow : ∀ k ∈ choiceKeys, ∃ choices : List String, choices[0]? = some "" ∧
      (buildWidgetTree s.data).items.lookup k =
        some (comboRow choices (s.data k)).selectedId := by
    simp only [choiceKeys, List.forall_mem_cons]
    exact ⟨⟨devTypeIds, rfl, rfl⟩, ⟨allowCompressionIds, rfl, rfl⟩, ⟨compLzoIds, rfl, rfl⟩,
      ⟨compressIds, rfl, rfl⟩, ⟨cipherIds, rfl, rfl⟩, ⟨cipherIds, rfl, rfl⟩, ⟨authAlgIds, rfl, rfl⟩,
      ⟨tlsVersionIds, rfl, rfl⟩, ⟨tlsVersionIds, rfl, rfl⟩, ⟨remoteCertTlsIds, rfl, rfl⟩,
      ⟨nsCertTypeIds, rfl, rfl⟩, ⟨keyDirIds, rfl, rfl⟩, ⟨proxyTypeIds, rfl, rfl⟩,
      fun _ h ↦ absurd h List.not_mem_nil⟩
  obtain ⟨choices, hempty, hlookup⟩ := hrow k h
  exact get_unedited_choice s hempty hlookup

/-- The key of a row that only some types use. -/
theorem get_unedited_cond {k : String} {b : Bool}
    (h : (buildWidgetTree s.data).items.lookup k = some (cond b (initialText s.data k))) :
    get (unedited s.data) k = if b then get s.data k else none := by
  cases b with
  | true => exact get_unedited_text s h
  | false => exact get_unedited s.data h rfl

/-- The key of a switch row is set when it was. -/
theorem get_unedited_switch {k : String}
    (h : (buildWidgetTree s.data).items.lookup k =
      some (yesOrEmpty (s.data k = some "yes"))) :
    get (unedited s.data) k = some "yes" ↔ get s.data k = some "yes" := by
  have hstr : isCString (yesOrEmpty (s.data k = some "yes")) = true := by
    rw [yesOrEmpty]
    split_ifs <;> rfl
  rw [get_unedited s.data h hstr, get_eq_some]
  by_cases hyes : s.data k = some "yes"
  · simp [hyes, yesOrEmpty, argIsSet]
  · simp [hyes, yesOrEmpty, argIsSet, Option.filter]

theorem get_unedited_spin {p : String × ℕ} (h : p ∈ ("proxy-port", 65535) :: spinKeys) :
    get (unedited s.data) p.1 = argIsSet (some (intOrEmpty (spinInt p.2 (s.data p.1)))) := by
  have hlookup : (buildWidgetTree s.data).items.lookup p.1 =
      some (intOrEmpty (spinInt p.2 (s.data p.1))) := by
    revert p
    simp only [spinKeys, List.forall_mem_cons]
    exact ⟨rfl, rfl, rfl, rfl, rfl, rfl, rfl, rfl, rfl, fun _ h ↦ absurd h List.not_mem_nil⟩
  have hlarge : ∀ p ∈ ("proxy-port", 65535) :: spinKeys, p.2 < 2 ^ 53 := by decide
  exact get_unedited s.data hlookup (isCString_intOrEmpty (isI64_spinInt (hlarge p h) _))

theorem get_unedited_mssfix : get (unedited s.data) "mssfix" =
    argIsSet (some (mssfixValue (buildWidgetTree s.data).mssfixEnabled
      (spinInt 65535 (s.data "mssfix")))) := by
  have hlookup : (buildWidgetTree s.data).items.lookup "mssfix" =
      some (mssfixValue (buildWidgetTree s.data).mssfixEnabled
        (buildWidgetTree s.data).mssfixBytes.toI64) := rfl
  rw [show (buildWidgetTree s.data).mssfixBytes.toI64 = _ from toI64_mssfixBytes s.data] at hlookup
  exact get_unedited s.data hlookup (isCString_mssfixValue (isI64_spinInt (by norm_num) _) _)

variable {s}
variable {ct : String} (hct : s.data "connection-type" = some ct) (hne : ct ≠ "")
include hct hne

theorem selectedId_contype : (buildWidgetTree s.data).contype.selectedId = ct := by
  change (comboRow contypes (some ((s.data "connection-type").getD "tls"))).selectedId = ct
  rw [hct]
  exact selectedId_comboRow_some (.inr hne)

/-- A key that Apply does not change. -/
theorem get_unedited_of_not_mem {k : String} (h : k ∉ changedKeys) :
    get (unedited s.data) k = get s.data k := by
  by_cases hk : k ∈ widgetDataKeys
  · have hkept : k ∈ "connection-type" :: (textKeys ++ choiceKeys) := by
      by_contra hnot
      exact h (List.mem_filter.mpr ⟨hk, decide_eq_true hnot⟩)
    rw [List.mem_cons, List.mem_append] at hkept
    rcases hkept with rfl | hk | hk
    · have hlookup : (buildWidgetTree s.data).items.lookup "connection-type" =
          some (buildWidgetTree s.data).contype.selectedId := rfl
      rw [selectedId_contype hct hne] at hlookup
      rw [get_unedited s.data hlookup (s.cString _ _ hct), Ovpn.get, hct]
    · exact get_unedited_of_mem_textKeys s hk
    · exact get_unedited_of_mem_choiceKeys s hk
  · rw [Ovpn.get, unedited_of_not_mem s.data hk]
    rfl

/-- The keys that may change are these. -/
theorem get_unedited_kept {k : String}
    (h : k ∉ ["port", "ca", "cert", "key", "static-key", "static-key-direction", "username",
      "proto-tcp", "tunnel-mtu", "mssfix", "fragment-size", "ping", "ping-restart",
      "reneg-seconds", "connect-timeout", "keysize", "tls-version-min-or-highest", "proxy-port",
      "override-route-nopull", "override-force-default-gateway", "override-block-ipv6",
      "override-dns-setup-disabled", "override-dco", "override-log-level"]) :
    get (unedited s.data) k = get s.data k :=
  get_unedited_of_not_mem hct hne fun hk ↦ h ((by decide : changedKeys ⊆ _) hk)

end Keys

/-! ## The numbers of a profile -/

/-- The calls that write a number. -/
def numberCalls (data : VpnData) : List WriterCall :=
  (intPairs.flatMap fun p ↦ lineInt p.2 (get data p.1)) ++ mssfixCalls data ++ proxyCalls data

/-- The other calls of the settings. -/
def otherCalls (data : VpnData) : List WriterCall :=
  let connectionType := get data "connection-type"
  let tls := isTlsLike connectionType
  List.flatten
    [lineFlag "remote-random" (isYes data "remote-random"),
     lineFlag "remote-random-hostname" (isYes data "remote-random-hostname"),
     lineFlag "allow-pull-fqdn" (isYes data "allow-pull-fqdn"),
     lineFlag "tun-ipv6" (isYes data "tun-ipv6"),
     lineFlag "push-peer-info" (isYes data "push-peer-info"),
     certCalls data,
     lineFlag "auth-user-pass" (isPasswordLike connectionType),
     secretCalls data,
     lineStr "cipher" (get data "cipher"),
     lineStr "data-ciphers" (get data "data-ciphers"),
     lineStr "data-ciphers-fallback" (get data "data-ciphers-fallback"),
     lineStr "tls-cipher" (get data "tls-cipher"),
     lineStr "auth" (get data "auth"),
     lineStr "allow-compression" (get data "allow-compression"),
     compressionCalls data,
     lineFlag "float" (isYes data "float"),
     lineStr "mtu-disc" (get data "mtu-disc"),
     callsIf tls (crlVerifyCalls data),
     [.line ["dev", chosenDev data]],
     lineStr "dev-type" (get data "dev-type"),
     [.line ["proto", protoValue data]],
     ifconfigCalls data,
     routeCalls data,
     callsIf tls (tlsCalls data)]

theorem settingCalls_perm (data : VpnData) :
    (settingCalls data).Perm (numberCalls data ++ otherCalls data) := by
  classical
  refine List.perm_iff_count.mpr fun x ↦ ?_
  simp only [settingCalls, numberCalls, otherCalls, intPairs, List.flatMap_cons, List.flatMap_nil,
    List.flatten_cons, List.flatten_nil, List.count_append, List.count_nil]
  omega

/-! ## Blocks that are kept -/

section Blocks

variable {s : DataItems} {ct : String} (hct : s.data "connection-type" = some ct) (hne : ct ≠ "")
include hct hne

theorem get_contype : get s.data "connection-type" = some ct := by
  rw [Ovpn.get, hct, argIsSet_some hne]

theorem get_unedited_contype : get (unedited s.data) "connection-type" = some ct := by
  rw [get_unedited_kept hct hne (by decide), get_contype hct hne]

theorem caValue_unedited : caValue (unedited s.data) = caValue s.data := by
  have hlookup : (buildWidgetTree s.data).items.lookup "ca" =
      some (cond (ContypeFlags.fromId (buildWidgetTree s.data).contype.selectedId).tlsLike
        (initialText s.data "ca")) := rfl
  rw [selectedId_contype hct hne] at hlookup
  rw [caValue, caValue, get_unedited_contype hct hne, get_contype hct hne,
    get_unedited_cond s hlookup]
  split_ifs with htls hflag
  · rfl
  · exact absurd htls (by simpa [isTlsLike, ContypeFlags.fromId, or_assoc] using hflag)
  · rfl

theorem userCertValue_unedited {k : String} (h : k = "cert" ∨ k = "key") :
    userCertValue (unedited s.data) k = userCertValue s.data k := by
  have hlookup : (buildWidgetTree s.data).items.lookup k =
      some (cond (ContypeFlags.fromId (buildWidgetTree s.data).contype.selectedId).needsUserCert
        (initialText s.data k)) := by rcases h with rfl | rfl <;> rfl
  rw [selectedId_contype hct hne] at hlookup
  rw [userCertValue, userCertValue, get_unedited_contype hct hne, get_contype hct hne,
    get_unedited_cond s hlookup]
  split_ifs with hcert hflag
  · rfl
  · exact absurd hcert (by simpa [needsUserCert, ContypeFlags.fromId] using hflag)
  · rfl

/-- A static-key connection keeps its key and the direction. -/
theorem get_unedited_staticKey (hstatic : ct = "static-key") {k : String}
    (h : k = "static-key" ∨ k = "static-key-direction") :
    get (unedited s.data) k = get s.data k := by
  subst hstatic
  have hflag : (ContypeFlags.fromId "static-key").isStaticKey = true := rfl
  rcases h with rfl | rfl
  · have hlookup : (buildWidgetTree s.data).items.lookup "static-key" =
        some (cond (ContypeFlags.fromId (buildWidgetTree s.data).contype.selectedId).isStaticKey
          (initialText s.data "static-key")) := rfl
    rw [selectedId_contype hct hne, hflag] at hlookup
    exact get_unedited_text s hlookup
  · have hlookup : (buildWidgetTree s.data).items.lookup "static-key-direction" =
        some (cond (ContypeFlags.fromId (buildWidgetTree s.data).contype.selectedId).isStaticKey
          (comboRow keyDirIds (s.data "static-key-direction")).selectedId) := rfl
    rw [selectedId_contype hct hne, hflag] at hlookup
    exact get_unedited_choice s rfl hlookup

theorem secretCalls_unedited : secretCalls (unedited s.data) = secretCalls s.data := by
  rw [secretCalls, secretCalls, callsIf, callsIf, get_unedited_contype hct hne,
    get_contype hct hne]
  split_ifs with hstatic
  · have hstatic : ct = "static-key" := by simpa using hstatic
    rw [get_unedited_staticKey hct hne hstatic (.inl rfl),
      get_unedited_staticKey hct hne hstatic (.inr rfl)]
  · rfl

theorem certCalls_unedited : certCalls (unedited s.data) = certCalls s.data := by
  rw [certCalls, certCalls]
  simp only [caValue_unedited hct hne, userCertValue_unedited hct hne, true_or, or_true]

theorem tlsCalls_unedited : tlsCalls (unedited s.data) = tlsCalls s.data := by
  have same := @get_unedited_kept s ct hct hne
  have hhighest := get_unedited_switch s (k := "tls-version-min-or-highest") rfl
  rw [tlsCalls, tlsCalls]
  simp (disch := decide) only [same, hhighest]

omit hct hne in
theorem protoValue_unedited : protoValue (unedited s.data) = protoValue s.data := by
  rw [protoValue, protoValue, if_congr (get_unedited_switch s rfl) rfl rfl]

theorem otherCalls_unedited : otherCalls (unedited s.data) = otherCalls s.data := by
  have same := @get_unedited_kept s ct hct hne
  rw [otherCalls, otherCalls]
  simp only [certCalls_unedited hct hne, secretCalls_unedited hct hne, tlsCalls_unedited hct hne,
    protoValue_unedited]
  simp (disch := decide) only [isYes, compressionCalls, crlVerifyCalls, chosenDev, ifconfigCalls,
    routeCalls, same]

/-- The profile is the same if its numbers are. -/
theorem writerCalls_unedited
    (hspins : ∀ p ∈ spinKeys, intValue (get (unedited s.data) p.1) = intValue (get s.data p.1))
    (hmssfix : mssfixCalls (unedited s.data) = mssfixCalls s.data)
    (hproxy : proxyCalls (unedited s.data) = proxyCalls s.data) :
    writerCalls (unedited s.data) = writerCalls s.data := by
  have same := @get_unedited_kept s ct hct hne
  have hsettings : settingCalls (unedited s.data) = settingCalls s.data := by
    simp only [spinKeys, List.forall_mem_cons] at hspins
    obtain ⟨hport, hmtu, hfragment, hkeysize, hping, hrestart, hreneg, htimeout, -⟩ := hspins
    rw [settingCalls, settingCalls]
    simp only [certCalls_unedited hct hne, secretCalls_unedited hct hne,
      tlsCalls_unedited hct hne, protoValue_unedited, hmssfix, hproxy, lineInt, hport, hmtu,
      hfragment, hkeysize, hping, hrestart, hreneg, htimeout]
    simp (disch := decide) only [isYes, compressionCalls, crlVerifyCalls, chosenDev, ifconfigCalls,
      routeCalls, same]
  rw [writerCalls, writerCalls, hsettings]
  simp (disch := decide) only [same]

/-- If the profile is the same, its numbers are. -/
theorem numberCalls_unedited (h : buildProfileString (unedited s.data) = buildProfileString s.data)
    (hremote : (get s.data "remote").isSome) :
    ((numberCalls (unedited s.data)).map WriterCall.directive).Perm
      ((numberCalls s.data).map WriterCall.directive) := by
  have same := @get_unedited_kept s ct hct hne
  obtain ⟨gateways, hg⟩ := Option.isSome_iff_exists.mp hremote
  have hg' : get (unedited s.data) "remote" = some gateways := by rw [same (by decide), hg]
  obtain ⟨calls, hcalls, hd⟩ := writerCalls_of_remote hg
  obtain ⟨calls', hcalls', hd'⟩ := writerCalls_of_remote hg'
  have htext : writeAll calls' = writeAll calls := by
    simpa [buildProfileString, hcalls, hcalls'] using h
  have hds : calls'.map WriterCall.directive = calls.map WriterCall.directive := by
    rw [← optionsOf_writeAll hcalls', ← optionsOf_writeAll hcalls, htext]
  rw [hd', hd, same (by decide), remoteDirectives, remoteDirectives, hg, hg'] at hds
  have hsettings := List.append_cancel_left (List.append_cancel_right hds)
  have hperm := (settingCalls_perm (unedited s.data)).map WriterCall.directive
  have hperm' := (settingCalls_perm s.data).map WriterCall.directive
  rw [List.map_append, otherCalls_unedited hct hne] at hperm
  rw [List.map_append] at hperm'
  rw [hsettings] at hperm
  exact (List.perm_append_right_iff _).mp (hperm.symm.trans hperm')

end Blocks

/-! ## The directives of the numbers -/

section Numbers

variable (data : VpnData)

theorem mem_numberCalls_iff {x : Directive} : x ∈ (numberCalls data).map WriterCall.directive ↔
    (∃ p ∈ intPairs, ∃ v, intValue (get data p.1) = some v ∧ x = .option p.2 [v]) ∨
      (∃ args, mssfixArgs (get data "mssfix") = some args ∧ x = .option "mssfix" args) ∨
      x ∈ proxyDirectives data := by
  have hints : x ∈ (intPairs.flatMap fun p ↦ lineInt p.2 (get data p.1)).map
      WriterCall.directive ↔
      ∃ p ∈ intPairs, ∃ v, intValue (get data p.1) = some v ∧ x = .option p.2 [v] := by
    simp only [List.map_flatMap, map_directive_lineInt, List.mem_flatMap, optStr, optArgs,
      List.mem_map, Option.mem_toList, eq_comm (a := x)]
  have hmssfix : x ∈ (mssfixCalls data).map WriterCall.directive ↔
      ∃ args, mssfixArgs (get data "mssfix") = some args ∧ x = .option "mssfix" args := by
    rw [mssfixCalls_eq, List.map_map]
    simp only [List.mem_map, Option.mem_toList, eq_comm (a := x)]
    rfl
  rw [numberCalls, List.map_append, List.map_append, map_directive_proxyCalls, List.mem_append,
    List.mem_append, hints, hmssfix, or_assoc]

theorem mem_numberCalls_int_iff {p : String × String} (hp : p ∈ intPairs) (v : String) :
    .option p.2 [v] ∈ (numberCalls data).map WriterCall.directive ↔
      intValue (get data p.1) = some v := by
  have htags : ∀ p ∈ intPairs, p.2 ≠ "mssfix" ∧ p.2 ∉ proxyTags ∧
      ∀ q ∈ intPairs, p.2 = q.2 → p.1 = q.1 := by decide
  obtain ⟨hmss, hproxy, hinj⟩ := htags p hp
  rw [mem_numberCalls_iff]
  constructor
  · rintro (⟨q, hq, w, hw, he⟩ | ⟨args, -, he⟩ | h)
    · obtain ⟨hname, hargs⟩ := Directive.option.inj he
      obtain rfl : v = w := (List.cons.inj hargs).1
      rw [hinj q hq hname, hw]
    · exact absurd (Directive.option.inj he).1 hmss
    · exact absurd (allTagged_proxyDirectives data _ h).name_mem hproxy
  · exact fun hv ↦ .inl ⟨p, hp, v, hv, rfl⟩

theorem mem_numberCalls_mssfix_iff (args : List String) :
    .option "mssfix" args ∈ (numberCalls data).map WriterCall.directive ↔
      mssfixArgs (get data "mssfix") = some args := by
  rw [mem_numberCalls_iff]
  constructor
  · rintro (⟨q, hq, w, -, he⟩ | ⟨args', hargs, he⟩ | h)
    · exact absurd (Directive.option.inj he).1
        ((by decide : ∀ q ∈ intPairs, "mssfix" ≠ q.2) q hq)
    · rw [hargs, (Directive.option.inj he).2]
    · exact absurd (allTagged_proxyDirectives data _ h).name_mem (by decide)
  · exact fun hargs ↦ .inr (.inl ⟨args, hargs, rfl⟩)

/-- The types of a proxy, with the option and the default port of each. -/
def proxyKinds : List (String × String × String) :=
  [("http", "http-proxy", "8080"), ("socks", "socks-proxy", "1080")]

theorem mem_numberCalls_proxy_iff {k : String × String × String} (hk : k ∈ proxyKinds)
    (args : List String) :
    .option k.2.1 args ∈ (numberCalls data).map WriterCall.directive ↔
      get data "proxy-type" = some k.1 ∧ ∃ server, get data "proxy-server" = some server ∧
        args = [server, (get data "proxy-port").getD k.2.2] := by
  have htags : ∀ k ∈ proxyKinds, k.2.1 ≠ "mssfix" ∧ ∀ q ∈ intPairs, k.2.1 ≠ q.2 := by decide
  obtain ⟨hmss, hint⟩ := htags k hk
  have hproxy : .option k.2.1 args ∈ (numberCalls data).map WriterCall.directive ↔
      .option k.2.1 args ∈ proxyDirectives data := by
    rw [mem_numberCalls_iff]
    refine ⟨?_, fun h ↦ .inr (.inr h)⟩
    rintro (⟨q, hq, w, -, he⟩ | ⟨args', -, he⟩ | h)
    · exact absurd (Directive.option.inj he).1 (hint q hq)
    · exact absurd (Directive.option.inj he).1 hmss
    · exact h
  rw [hproxy, proxyDirectives]
  simp only [proxyKinds, List.mem_cons, List.not_mem_nil, or_false] at hk
  cases get data "proxy-type" with
  | none => simp
  | some pt =>
    cases get data "proxy-server" with
    | none => simp
    | some server =>
      by_cases hhttp : pt = "http"
      · subst hhttp
        rcases hk with rfl | rfl <;> simp [optFlag]
      by_cases hsocks : pt = "socks"
      · subst hsocks
        rcases hk with rfl | rfl <;> simp [optFlag]
      · rcases hk with rfl | rfl <;> simp [hhttp, hsocks]

end Numbers

/-! ## The profile -/

section Profile

variable {s : DataItems}

theorem spinKept_iff {p : String × ℕ} (hp : p ∈ spinKeys) :
    intValue (get (unedited s.data) p.1) = intValue (get s.data p.1) ↔
      ∀ v, get s.data p.1 = some v → SpinKept p.2 v := by
  have hbound : ∀ p ∈ spinKeys, p.2 < 2 ^ 53 ∧ 1 ≤ p.2 := by decide
  rw [get_unedited_spin s (List.mem_cons_of_mem _ hp)]
  exact intValue_spinInt_iff (hbound p hp).1 (hbound p hp).2 _

theorem mssfixKept_iff :
    mssfixArgs (get (unedited s.data) "mssfix") = mssfixArgs (get s.data "mssfix") ↔
      ∀ v, get s.data "mssfix" = some v → MssfixKept v := by
  rw [get_unedited_mssfix]
  exact mssfixArgs_iff s.data

theorem proxyPortKept_iff {k : String × String × String} (hk : k ∈ proxyKinds) :
    (get (unedited s.data) "proxy-port").getD k.2.2 = (get s.data "proxy-port").getD k.2.2 ↔
      ∀ v, get s.data "proxy-port" = some v →
        ∃ n : ℕ, 1 ≤ n ∧ n ≤ 65535 ∧ v = toString n := by
  have hport : ∀ k ∈ proxyKinds, k.2.2 = toString 8080 ∨ k.2.2 = toString 1080 := by decide
  rw [get_unedited_spin s (p := ("proxy-port", 65535)) List.mem_cons_self]
  rcases hport k hk with h | h
  · rw [h]
    exact getD_spinInt_iff _ (by norm_num) (by norm_num)
  · rw [h]
    exact getD_spinInt_iff _ (by norm_num) (by norm_num)

variable {ct : String} (hct : s.data "connection-type" = some ct) (hne : ct ≠ "")
include hct hne

theorem proxyCalls_unedited (h : hasProxy s.data = true → ∀ v, get s.data "proxy-port" = some v →
      ∃ n : ℕ, 1 ≤ n ∧ n ≤ 65535 ∧ v = toString n) :
    proxyCalls (unedited s.data) = proxyCalls s.data := by
  have same := @get_unedited_kept s ct hct hne
  rw [proxyCalls, proxyCalls]
  simp (disch := decide) only [same]
  cases htype : get s.data "proxy-type" with
  | none => rfl
  | some pt =>
    cases hserver : get s.data "proxy-server" with
    | none => rfl
    | some server =>
      by_cases hhttp : pt = "http"
      · have hkept := (proxyPortKept_iff (s := s) (k := ("http", "http-proxy", "8080"))
          (by decide)).mpr (h (by simp [hasProxy, htype, hserver, hhttp]))
        simp only [if_pos hhttp, hkept]
      by_cases hsocks : pt = "socks"
      · have hkept := (proxyPortKept_iff (s := s) (k := ("socks", "socks-proxy", "1080"))
          (by decide)).mpr (h (by simp [hasProxy, htype, hserver, hsocks]))
        simp only [if_neg hhttp, if_pos hsocks, hkept]
      · simp only [if_neg hhttp, if_neg hsocks]

/-- The numbers of the profile decide whether it is the same. -/
theorem buildProfileString_unedited_iff (hremote : (get s.data "remote").isSome) :
    buildProfileString (unedited s.data) = buildProfileString s.data ↔ NumbersKept s.data := by
  have same := @get_unedited_kept s ct hct hne
  constructor
  · intro h
    have hperm := numberCalls_unedited hct hne h hremote
    refine ⟨fun p hp ↦ (spinKept_iff hp).mp ?_, mssfixKept_iff.mp ?_, fun hproxy ↦ ?_⟩
    · obtain ⟨q, hq, hqp⟩ : ∃ q ∈ intPairs, q.1 = p.1 :=
        (by decide : ∀ p ∈ spinKeys, ∃ q ∈ intPairs, q.1 = p.1) p hp
      refine Option.ext fun v ↦ ?_
      rw [← hqp, ← mem_numberCalls_int_iff _ hq, ← mem_numberCalls_int_iff _ hq, hperm.mem_iff]
    · refine Option.ext fun args ↦ ?_
      rw [← mem_numberCalls_mssfix_iff, ← mem_numberCalls_mssfix_iff, hperm.mem_iff]
    · simp only [hasProxy, decide_eq_true_eq, Option.isSome_iff_exists] at hproxy
      obtain ⟨htype, server, hserver⟩ := hproxy
      obtain ⟨k, hk, htype⟩ : ∃ k ∈ proxyKinds, get s.data "proxy-type" = some k.1 := by
        rcases htype with h | h
        · exact ⟨("http", "http-proxy", "8080"), by decide, h⟩
        · exact ⟨("socks", "socks-proxy", "1080"), by decide, h⟩
      refine (proxyPortKept_iff hk).mp ?_
      have hmem : .option k.2.1 [server, (get s.data "proxy-port").getD k.2.2] ∈
          (numberCalls s.data).map WriterCall.directive :=
        (mem_numberCalls_proxy_iff s.data hk _).mpr ⟨htype, server, hserver, rfl⟩
      rw [← hperm.mem_iff, mem_numberCalls_proxy_iff _ hk] at hmem
      obtain ⟨-, server', -, hargs⟩ := hmem
      exact (List.cons.inj (List.cons.inj hargs).2).1.symm
  · intro h
    have hcalls := writerCalls_unedited hct hne (fun p hp ↦ (spinKept_iff hp).mpr (h.spins p hp))
      (by rw [mssfixCalls_eq, mssfixCalls_eq, mssfixKept_iff.mpr h.mssfix])
      (proxyCalls_unedited hct hne h.proxyPort)
    rw [buildProfileString, buildProfileString, hcalls]

end Profile

/-- **Apply without an edit leaves the profile as it is exactly when it keeps the numbers** that the
profile shows. -/
theorem unedited_profile_iff (s : DataItems) {ct : String}
    (hct : s.data "connection-type" = some ct) (hmem : ct ∈ contypes)
    (hreq : HasRequiredFields s.data) :
    ∃ data', updateConnection (buildWidgetTree s.data) s.data = .ok data' ∧
      (buildProfileString data' = buildProfileString s.data ↔ NumbersKept s.data) := by
  have hne : ct ≠ "" := by
    rintro rfl
    exact absurd hmem (by decide)
  have hremote : (get s.data "remote").isSome := by
    have htext : initialText s.data "remote" ≠ "" := by
      intro he
      simp only [HasRequiredFields, validateRequiredFields] at hreq
      rw [if_pos (show (s.data "remote").getD "" = "" from he)] at hreq
      cases hreq
    rw [← argIsSet_initialText, argIsSet_some htext]
    rfl
  exact ⟨unedited s.data, applyUnedited_eq_ok hct hne hreq,
    buildProfileString_unedited_iff hct hne hremote⟩

/-- Values that the editor does not know, a text that is no number, and numbers within the rows. -/
private def unknownItems : DataItems := .ofList
  [("connection-type", "password"), ("remote", "gw, gw2:1194"), ("username", "u"), ("ca", "ca.pem"),
    ("cert", "stale.pem"), ("cipher", "CAMELLIA-256-CBC"), ("port", "1194"), ("mssfix", "1400"),
    ("reneg-seconds", "604800"), ("ping", "soon"), ("proxy-type", "http"),
    ("proxy-server", "proxy"), ("proxy-port", "3128"), ("float", "yes")] (by decide) (by decide)

theorem numbersKept_unknownItems : NumbersKept unknownItems.data := by
  refine ⟨?_, ?_, ?_⟩
  · simp only [spinKeys, List.forall_mem_cons]
    refine ⟨?_, ?_, ?_, ?_, ?_, ?_, ?_, ?_, fun _ h ↦ absurd h List.not_mem_nil⟩
    all_goals
      intro v hv
      cases hv
    · exact ⟨by decide, by decide, rfl⟩
    · rintro x hx
      cases hx
    · exact ⟨by decide, by decide, rfl⟩
  · intro v hv
    cases hv
    exact .inr ⟨by decide, by decide⟩
  · intro _ v hv
    cases hv
    exact ⟨3128, by decide, by decide, rfl⟩

theorem unedited_profile_unknownItems : ∃ data',
    updateConnection (buildWidgetTree unknownItems.data) unknownItems.data = .ok data' ∧
      buildProfileString data' = buildProfileString unknownItems.data := by
  have htype : unknownItems.data "connection-type" = some "password" := rfl
  obtain ⟨data', hok, hiff⟩ := unedited_profile_iff unknownItems htype (by decide) rfl
  exact ⟨data', hok, hiff.mpr numbersKept_unknownItems⟩

/-- Rekeying that is switched off. -/
private def noRekeying : DataItems := .ofList
  [("connection-type", "password"), ("remote", "gw"), ("username", "u"), ("reneg-seconds", "0")]
  (by decide) (by decide)

theorem not_unedited_profile : ¬ ∀ (s : DataItems) (ct : String),
    s.data "connection-type" = some ct → ct ∈ contypes →
    HasRequiredFields s.data →
    ∃ data', updateConnection (buildWidgetTree s.data) s.data = .ok data' ∧
      buildProfileString data' = buildProfileString s.data := by
  intro h
  have htype : noRekeying.data "connection-type" = some "password" := rfl
  obtain ⟨data', hok, hsame⟩ := h noRekeying "password" htype (by decide) rfl
  have hdata : data' = unedited noRekeying.data :=
    Except.ok.inj (hok.symm.trans (applyUnedited_eq_ok htype (by decide) rfl))
  rw [hdata, buildProfileString_unedited_iff htype (by decide) rfl] at hsame
  -- The row takes the zero for an unset value.
  have hzero := hsame.spins ("reneg-seconds", timerSecsMax) (by decide) "0" rfl
  exact absurd hzero.1 (by decide)

end Editor

end NmOpenvpn3
