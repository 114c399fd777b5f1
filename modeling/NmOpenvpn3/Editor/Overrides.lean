import NmOpenvpn3.Editor.Edited

/-!
# Overrides

The editor has five switches and a log level that override what a profile says. It writes them into
the settings map, and the service turns them into calls on the imported config, `applyOverrides`.
What the user sets is what the backend is told, `applyOverrides_edited`. A map that was not written
by the editor is a different matter: the row of the log level brings any number within its bounds,
where the service ignores it, and `applyOverrides_unedited_iff` says when that makes no difference.
-/

namespace NmOpenvpn3

namespace Service

open Rust Ovpn

/-- `str::parse::<u8>`, which is `str::parse::<u32>` for what fits. -/
def parseU8 (s : String) : Option ℕ := (parseU32 s).filter (· < 2 ^ 8)

/-- `OVERRIDE_BOOLS`: the keys, and the names that the backend has for the flags. -/
def overrideBools : List (String × String) :=
  [("override-route-nopull", "route-nopull"),
    ("override-force-default-gateway", "force-default-gateway"),
    ("override-block-ipv6", "block-ipv6"),
    ("override-dns-setup-disabled", "dns-setup-disabled"), ("override-dco", "dco")]

/-- The calls of `SetOverride` on a config. -/
inductive SetOverride where
  | bool (name : String) (value : Bool)
  | string (name value : String)
  deriving DecidableEq

/-- The level that is sent, which is the text of the item. -/
def logLevelOverride (level : Option String) : List SetOverride :=
  match level with
  | none => []
  | some level =>
    if level = "" ∨ level = "0" then []
    else match parseU8 level with
      | some n => if 1 ≤ n ∧ n ≤ 6 then [.string "log-level" level] else []
      | none => []

/-- The flags that are set, in the order of `OVERRIDE_BOOLS`. -/
def overrideFlags (data : VpnData) : List SetOverride :=
  (overrideBools.filter fun p ↦ data p.1 = some "yes").map fun p ↦ .bool p.2 true

/-- `apply_overrides`: the calls in their order. A call that fails is only logged. -/
def applyOverrides (data : VpnData) : List SetOverride :=
  overrideFlags data ++ logLevelOverride (data "override-log-level")

/-- A text that is read as an unsigned integer is read as the same integer. -/
theorem parseI64_of_parseU8 {s : String} {n : ℕ} (h : parseU8 s = some n) :
    parseI64 s = some (n : ℤ) := by
  obtain ⟨h, -⟩ := Option.filter_eq_some_iff.mp h
  obtain ⟨hdigits, hlt⟩ := Option.filter_eq_some_iff.mp h
  have hn : IsI64 (n : ℤ) := by
    have : n < 2 ^ 32 := by simpa using hlt
    constructor <;> omega
  rw [parseI64, Option.filter_eq_some_iff]
  refine ⟨?_, by simpa using hn⟩
  cases hl : s.toList with
  | nil =>
    rw [hl] at hdigits
    cases hdigits
  | cons c l =>
    simp only [hl] at hdigits
    by_cases hplus : c = '+'
    · subst hplus
      simp only at hdigits
      simp [hdigits]
    · have hself : parseDigits (c :: l) = some n := by simpa [hplus] using hdigits
      have hminus : c ≠ '-' := by
        rintro rfl
        exact absurd (isDigit_of_parseDigits hself '-' List.mem_cons_self) (by decide)
      simp [hplus, hminus, hself]

theorem parseU8_toString {n : ℕ} (h : n < 2 ^ 8) : parseU8 (toString n) = some n := by
  have hdigits : parseDigits (toString n).toList = some n := by
    rw [Nat.toString_eq_repr, Nat.toList_repr]
    exact parseDigits_toDigits n
  rw [parseU8, parseU32, Option.filter_eq_some_iff, Option.filter_eq_some_iff]
  refine ⟨⟨?_, by simp; omega⟩, by simpa using h⟩
  cases hl : (toString n).toList with
  | nil =>
    rw [hl] at hdigits
    cases hdigits
  | cons c l =>
    have hplus : c ≠ '+' := by
      rintro rfl
      rw [hl] at hdigits
      exact absurd (isDigit_of_parseDigits hdigits '+' List.mem_cons_self) (by decide)
    rw [hl] at hdigits
    simpa [hplus] using hdigits

/-- The levels that are sent. -/
theorem logLevelOverride_some (v : String) : logLevelOverride (some v) =
    if ∃ n, parseU8 v = some n ∧ 1 ≤ n ∧ n ≤ 6 then [.string "log-level" v] else [] := by
  rw [logLevelOverride]
  by_cases hv : v = "" ∨ v = "0"
  · rw [if_pos hv, if_neg]
    rintro ⟨n, hn, h1, -⟩
    obtain rfl | rfl := hv
    · cases hn
    · obtain rfl : 0 = n := Option.some_inj.mp hn
      omega
  · rw [if_neg hv]
    cases parseU8 v with
    | none => simp
    | some n => simp

end Service

namespace Editor

open Rust Ovpn Service Agreement

/-! ## What the user sets -/

section Edited

variable {s : DataItems} {st : EditorState} {settings d : VpnData}

/-- The switches of the flags, with the names that the backend has for them. -/
def EditorState.overrideSwitches (st : EditorState) : List (Bool × String) :=
  [(st.orRouteNopull, "route-nopull"), (st.orForceDefaultGateway, "force-default-gateway"),
    (st.orBlockIpv6, "block-ipv6"), (st.orDnsSetupDisabled, "dns-setup-disabled"),
    (st.orDco, "dco")]

theorem overrideSwitches_eq (hst : Edited s.data st) (h : updateConnection st settings = .ok d) :
    st.overrideSwitches = overrideBools.map fun p ↦ (decide (d p.1 = some "yes"), p.2) := by
  have switch {k : String} {b : Bool} (hlookup : st.items.lookup k = some (yesOrEmpty b)) :
      decide (d k = some "yes") = b := by
    rw [(holds_of_updateConnection hst h).lookup hlookup]
    cases b <;> decide
  simp only [overrideBools, List.map_cons, List.map_nil, switch (k := "override-route-nopull") rfl,
    switch (k := "override-force-default-gateway") rfl, switch (k := "override-block-ipv6") rfl,
    switch (k := "override-dns-setup-disabled") rfl, switch (k := "override-dco") rfl]
  rfl

/-- The row of the log level is a spin row up to `6`. -/
theorem orLogLevel_mem (hst : Edited s.data st) :
    0 ≤ st.orLogLevel.toI64 ∧ st.orLogLevel.toI64 ≤ 6 := by
  obtain ⟨y, hy⟩ : (Kind.spin 6).Edits (s.data "override-log-level") (.spin st.orLogLevel) :=
    (List.forall₂_iff_get.mp hst.rows).2 48 (Nat.lt_succ_self 48) (Nat.lt_succ_self 48)
  rw [hy]
  exact toI64_spinRow_mem (m := 6) (by norm_num) y

/-- A level within the bounds is sent as the row writes it. -/
theorem logLevelOverride_intOrEmpty {n : ℤ} (h : 0 ≤ n ∧ n ≤ 6) :
    logLevelOverride (argIsSet (some (intOrEmpty n))) =
      if 0 < n then [.string "log-level" (toString n)] else [] := by
  rw [argIsSet_intOrEmpty (isI64_of_mem (m := 6) (by norm_num) h)]
  split_ifs with hpos
  · have htext : toString n = toString n.toNat :=
      congrArg toString (Int.toNat_of_nonneg h.1).symm
    rw [logLevelOverride_some, if_pos]
    exact ⟨n.toNat, htext ▸ parseU8_toString (by omega), by omega, by omega⟩
  · rfl

/-- **The backend is told what the user has set.** After Apply the service sets the flags whose
switches are on, and the log level unless it is zero, and nothing else. -/
theorem applyOverrides_edited (hst : Edited s.data st) (h : updateConnection st settings = .ok d) :
    applyOverrides d =
      (st.overrideSwitches.filter Prod.fst).map (fun p ↦ .bool p.2 true) ++
        (if 0 < st.orLogLevel.toI64 then
          [.string "log-level" (toString st.orLogLevel.toI64)] else []) := by
  rw [applyOverrides, overrideFlags,
    (holds_of_updateConnection hst h).lookup (k := "override-log-level") rfl,
    logLevelOverride_intOrEmpty (orLogLevel_mem hst), overrideSwitches_eq hst h, List.filter_map,
    List.map_map]
  rfl

end Edited

/-! ## What Apply may change -/

/-- The row keeps the log level, or it is no level before and after. -/
def LogLevelKept (v : String) : Prop :=
  (∃ n : ℕ, 1 ≤ n ∧ n ≤ 6 ∧ v = toString n) ∨
    ∀ x, parseF64 v = some x → (F64.finite 1).le x = false

theorem logLevelOverride_iff (v : String) :
    (if 0 < spinInt 6 (some v) then
        [SetOverride.string "log-level" (toString (spinInt 6 (some v)))] else []) =
      logLevelOverride (some v) ↔ LogLevelKept v := by
  have hpos := spinInt_pos_iff (m := 6) (by norm_num) (by norm_num) v
  rw [logLevelOverride_some, LogLevelKept]
  by_cases hvalid : ∃ n, parseU8 v = some n ∧ 1 ≤ n ∧ n ≤ 6
  · rw [if_pos hvalid]
    obtain ⟨n, hn, h1, h6⟩ := hvalid
    have hint : spinInt 6 (some v) = n := by
      rw [spinInt_of_parseI64 (by norm_num) (parseI64_of_parseU8 hn)]
      omega
    rw [hint] at hpos ⊢
    rw [if_pos (by omega)]
    constructor
    · intro heq
      have htext : toString (n : ℤ) = v := by simpa using heq
      exact .inl ⟨n, h1, h6, htext.symm⟩
    · rintro (⟨k, -, hk6, rfl⟩ | hnone)
      · rw [parseU8_toString (by omega)] at hn
        obtain rfl := Option.some_inj.mp hn
        rfl
      · obtain ⟨x, hx, hle⟩ := hpos.mp (by omega)
        exact absurd (hle.symm.trans (hnone x hx)) (by simp)
  · rw [if_neg hvalid]
    constructor
    · intro heq
      refine .inr fun x hx ↦ ?_
      rw [← Bool.not_eq_true]
      intro hle
      rw [if_pos (hpos.mpr ⟨x, hx, hle⟩)] at heq
      cases heq
    · rintro (⟨k, hk1, hk6, rfl⟩ | hnone)
      · exact absurd ⟨k, parseU8_toString (by omega), hk1, hk6⟩ hvalid
      · rw [if_neg]
        intro h
        obtain ⟨x, hx, hle⟩ := hpos.mp h
        exact absurd (hle.symm.trans (hnone x hx)) (by simp)

/-- Apply without an edit keeps the flags, and brings the log level within its bounds. -/
theorem applyOverrides_unedited (s : DataItems) {d : VpnData}
    (h : updateConnection (buildWidgetTree s.data) s.data = .ok d) :
    applyOverrides d = overrideFlags s.data ++
      (if 0 < spinInt 6 (s.data "override-log-level") then
        [.string "log-level" (toString (spinInt 6 (s.data "override-log-level")))] else []) := by
  have hlevel : (buildWidgetTree s.data).orLogLevel.toI64 =
      spinInt 6 (s.data "override-log-level") := rfl
  have hswitches : (buildWidgetTree s.data).overrideSwitches =
      overrideBools.map fun p ↦ (decide (s.data p.1 = some "yes"), p.2) := rfl
  rw [applyOverrides_edited (edited_buildWidgetTree s) h, hlevel, hswitches, List.filter_map,
    List.map_map]
  rfl

/-- **Apply without an edit leaves the overrides as they are exactly when the row keeps the log
level**: it is the text of a level, or there is none before and after. Any other text becomes a
level of the row. -/
theorem applyOverrides_unedited_iff (s : DataItems) {d : VpnData}
    (h : updateConnection (buildWidgetTree s.data) s.data = .ok d) :
    (applyOverrides d = applyOverrides s.data ↔
      ∀ v, s.data "override-log-level" = some v → LogLevelKept v) ∧
    ∀ v, s.data "override-log-level" = some v → ¬LogLevelKept v → ∃ n : ℤ, 1 ≤ n ∧ n ≤ 6 ∧
      applyOverrides d = overrideFlags s.data ++ [.string "log-level" (toString n)] := by
  rw [applyOverrides_unedited s h]
  constructor
  · refine (List.append_right_inj _).trans ?_
    cases hv : s.data "override-log-level" with
    | none =>
      rw [spinInt_unset (by norm_num) none rfl]
      simp [logLevelOverride]
    | some v => simpa using logLevelOverride_iff v
  · intro v hv hnot
    -- A text that is not kept is a number from one on, so that the row is not zero.
    have hpos : 0 < spinInt 6 (some v) := by
      rw [spinInt_pos_iff (by norm_num) (by norm_num)]
      by_contra hnone
      refine hnot (.inr fun x hx ↦ ?_)
      rw [← Bool.not_eq_true]
      exact fun hle ↦ hnone ⟨x, hx, hle⟩
    rw [hv, if_pos hpos]
    exact ⟨_, hpos, (spinInt_mem (m := 6) (by norm_num) (some v)).2, rfl⟩

/-- A flag, and a level that is none for the service. -/
private def overrideItems : DataItems := .ofList
  [("connection-type", "static-key"), ("remote", "gw"), ("static-key", "static.key"),
    ("override-dco", "yes"), ("override-log-level", "9")] (by decide) (by decide)

/-- The flag is taken back and another one set, and the level is changed. -/
private def overrideRows : EditorState :=
  { buildWidgetTree overrideItems.data with
    orRouteNopull := true
    orDco := false
    orLogLevel := spinRow 0 6 (.finite 3) }

theorem applyOverrides_edited_overrideItems : ∃ d,
    updateConnection overrideRows overrideItems.data = .ok d ∧
      applyOverrides d = [.bool "route-nopull" true, .string "log-level" "3"] := by
  have hst : Edited overrideItems.data overrideRows := by
    refine ⟨?_, rfl⟩
    have hfirst := List.forall₂_take 43 (edited_buildWidgetTree overrideItems).rows
    rw [← List.take_append_drop 43 fields, ← List.take_append_drop 43 overrideRows.rows]
    exact List.rel_append hfirst (.cons trivial (.cons trivial (.cons trivial (.cons trivial
      (.cons trivial (.cons ⟨.finite 3, rfl⟩ .nil))))))
  have hok : updateConnection overrideRows overrideItems.data =
      .ok (overrideRows.items.foldl (fun d p ↦ setItem d p.1 p.2)
        (replay overrideItems.data overrideItems.data)) := rfl
  have hlevel : overrideRows.orLogLevel.toI64 = 3 := by decide
  refine ⟨_, hok, ?_⟩
  rw [applyOverrides_edited hst hok, hlevel]
  rfl

theorem applyOverrides_unedited_overrideItems : ∃ d,
    updateConnection (buildWidgetTree overrideItems.data) overrideItems.data = .ok d ∧
      applyOverrides d ≠ applyOverrides overrideItems.data := by
  have hok : applyUnedited overrideItems.data = .ok (unedited overrideItems.data) :=
    applyUnedited_eq_ok (show overrideItems.data "connection-type" = some "static-key" from rfl)
      (by decide) rfl
  refine ⟨_, hok, fun heq ↦ ?_⟩
  obtain ⟨n, -, h6, hn⟩ | hnone :=
    (applyOverrides_unedited_iff overrideItems hok).1.mp heq "9" rfl
  · have hvalue := parseU8_toString (n := n) (by omega)
    rw [← hn] at hvalue
    obtain rfl : 9 = n := Option.some_inj.mp hvalue
    omega
  · obtain ⟨x, hx, hle⟩ := parseF64_of_parseI64 (s := "9") (n := 9) (by decide)
    have := (hle 1 le_rfl (by norm_num)).mpr (by norm_num)
    exact absurd (this.symm.trans (hnone x hx)) (by simp)

end Editor

end NmOpenvpn3
