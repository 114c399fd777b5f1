import NmOpenvpn3.ImportExport.Import

/-!
# What an import stores

The import loop overlays what each directive stores on what is already there, so a key holds what
the last directive that stores it stores. Only the two lists are different, since directives append
to them.
-/

namespace NmOpenvpn3

namespace ImportExport

open Rust Ovpn

/-! ## Last write wins -/

/-- The keys that hold lists. -/
def listKeys : List String := ["remote", "nm-openvpn3-extra-routes"]

/-- What a directive stores under a key, as read off the map it leaves when it is the only one. -/
def stored (k : String) (x : Directive) : Option String := (importDirective .init x).data k

/-- What the last directive that stores the key stores. -/
def lastStored (k : String) (ds : List Directive) : Option String :=
  ds.reverse.findSome? (stored k)

section Stored

variable {k : String}

theorem Arm.apply_data (hk : k ∉ listKeys) (arm : Arm) (args : List String) (st : ImportState) :
    (arm.apply args st).data k = ((arm.apply args .init).data k).or (st.data k) := by
  simp only [listKeys, List.mem_cons, List.not_mem_nil, or_false, not_or] at hk
  have hinit : st.data k = (ImportState.init.data k).or (st.data k) := rfl
  cases arm with
  | remote => simp [apply, Dict.insert_of_ne hk.1, ImportState.init]
  | route => simp [apply, Dict.insert_of_ne hk.2, ImportState.init]
  | ignored | authUserPass | keyDirection => rfl
  | value | ca | cert | key | crlVerify => exact Dict.setOpt_overlay hinit _ _
  | valueOr | flag | compLzo | verifyX509Name => exact Dict.insert_overlay hinit _ _
  | tlsVersionMin | secret | tlsAuth =>
    exact Dict.setOpt_overlay (Dict.setOpt_overlay hinit _ _) _ _
  | pkcs12 =>
    exact Dict.setOpt_overlay (Dict.setOpt_overlay (Dict.setOpt_overlay hinit _ _) _ _) _ _
  | proto =>
    simp only [apply]
    cases args[0]? with
    | none => rfl
    | some p =>
      simp only
      split_ifs
      · rfl
      · exact Dict.insert_overlay hinit _ _
  | httpProxy =>
    simp only [apply]
    cases args[0]? with
    | none => rfl
    | some server =>
      exact Dict.setOpt_overlay (Dict.setOpt_overlay
        (Dict.insert_overlay (Dict.insert_overlay hinit _ _) _ _) _ _) _ _
  | socksProxy =>
    simp only [apply]
    cases args[0]? with
    | none => rfl
    | some server =>
      exact Dict.setOpt_overlay (Dict.insert_overlay (Dict.insert_overlay hinit _ _) _ _) _ _
  | ifconfig | keepalive =>
    simp only [apply]
    cases args[0]? with
    | none => rfl
    | some a =>
      cases args[1]? with
      | none => rfl
      | some b => exact Dict.insert_overlay (Dict.insert_overlay hinit _ _) _ _

theorem importDirective_data (hk : k ∉ listKeys) (st : ImportState) (x : Directive) :
    (importDirective st x).data k = (stored k x).or (st.data k) := by
  cases x with
  | blob name body => rfl
  | option name args =>
    rw [stored, importDirective, importDirective]
    cases importArms.lookup name with
    | none => rfl
    | some arm => exact Arm.apply_data hk arm args st

/-- **A key holds what was stored last.** -/
theorem importAll_data (hk : k ∉ listKeys) (ds : List Directive) :
    (importAll .init ds).data k = lastStored k ds := by
  have := foldl_eq_findSome?_or (r := fun st : ImportState ↦ st.data k) (importDirective_data hk)
    ds ImportState.init
  exact this.trans Option.or_none

/-- The arms that may write a key. -/
def armsTouching (k : String) : List (String × Arm) :=
  importArms.filter fun p ↦ p.2.keys.contains k

/-- What stores a key is an option whose arm writes it. -/
theorem stored_eq_some {v : String} {x : Directive} (h : stored k x = some v) :
    ∃ name arm args, x = .option name args ∧ importArms.lookup name = some arm ∧
      (name, arm) ∈ armsTouching k ∧ (arm.apply args .init).data k = some v := by
  cases x with
  | blob name body => cases h
  | option name args =>
    rw [stored, importDirective] at h
    cases harm : importArms.lookup name with
    | none => simp [harm, ImportState.init] at h
    | some arm =>
      rw [harm] at h
      refine ⟨name, arm, args, rfl, harm, List.mem_filter.mpr ⟨mem_of_lookup harm, ?_⟩, h⟩
      rw [List.contains_iff_mem]
      by_contra hk
      rw [Arm.apply_data_of_not_mem hk] at h
      cases h

theorem stored_option {name : String} {arm : Arm} (h : importArms.lookup name = some arm)
    (args : List String) : stored k (.option name args) = (arm.apply args .init).data k := by
  rw [stored, importDirective, h]

/-- An option that no arm for a key reads stores nothing under it. -/
theorem stored_option_eq_none {name : String} (h : ∀ q ∈ armsTouching k, q.1 ≠ name)
    (args : List String) : stored k (.option name args) = none := by
  by_contra hne
  obtain ⟨v, hv⟩ := Option.ne_none_iff_exists'.mp hne
  obtain ⟨name', arm, args', he, -, harm, -⟩ := stored_eq_some hv
  obtain ⟨rfl, -⟩ := Directive.option.inj he
  exact h _ harm rfl

theorem exists_of_lastStored {v : String} {ds : List Directive} (h : lastStored k ds = some v) :
    ∃ x ∈ ds, stored k x = some v := by
  obtain ⟨x, hx, hs⟩ := List.exists_of_findSome?_eq_some h
  exact ⟨x, List.mem_reverse.mp hx, hs⟩

theorem lastStored_isSome_iff {ds : List Directive} :
    (lastStored k ds).isSome ↔ ∃ x ∈ ds, (stored k x).isSome := by
  simp [lastStored, List.findSome?_isSome_iff]

end Stored

/-! ## The lists -/

/-- Append items to an entry, one after the other. -/
def appendAll (sep : String) (entry : Option String) (items : List String) : Option String :=
  items.foldl (fun e item ↦ some (appendEntry sep e item)) entry

theorem appendEntry_ne_empty {sep item : String} (e : Option String) (h : item ≠ "") :
    appendEntry sep e item ≠ "" := by
  rw [appendEntry, Ne, String.append_eq_empty_iff]
  exact fun hc ↦ h hc.2

/-- A list with an item that is not empty is not empty. -/
theorem exists_appendAll {sep : String} {items : List String} {entry : Option String}
    (h : (∃ e, entry = some e ∧ e ≠ "") ∨ ∃ item ∈ items, item ≠ "") :
    ∃ v, appendAll sep entry items = some v ∧ v ≠ "" := by
  induction items generalizing entry with
  | nil => simpa [appendAll] using h
  | cons item items ih =>
    refine ih ?_
    rcases h with ⟨e, rfl, he⟩ | ⟨item', hmem, hne⟩
    · refine .inl ⟨_, rfl, ?_⟩
      rw [appendEntry, Ne, String.append_eq_empty_iff]
      simp [he]
    · rcases List.mem_cons.mp hmem with rfl | hmem
      · exact .inl ⟨_, rfl, appendEntry_ne_empty entry hne⟩
      · exact .inr ⟨item', hmem, hne⟩

/-- The arguments of the options of one name, in their order. -/
def argsOf (name : String) (ds : List Directive) : List (List String) :=
  ds.filterMap fun
    | .option name' args => if name' = name then some args else none
    | .blob _ _ => none

theorem argsOf_cons_self (name : String) (args : List String) (ds : List Directive) :
    argsOf name (.option name args :: ds) = args :: argsOf name ds :=
  List.filterMap_cons_some (if_pos rfl)

theorem argsOf_cons_of_ne {name : String} {x : Directive} (h : ∀ args, x ≠ .option name args)
    (ds : List Directive) : argsOf name (x :: ds) = argsOf name ds := by
  refine List.filterMap_cons_none ?_
  cases x with
  | option name' args =>
    refine if_neg ?_
    rintro rfl
    exact h args rfl
  | blob name' body => rfl

theorem mem_argsOf {name : String} {ds : List Directive} {args : List String} :
    args ∈ argsOf name ds ↔ .option name args ∈ ds := by
  rw [argsOf, List.mem_filterMap]
  constructor
  · rintro ⟨x, hx, hargs⟩
    cases x with
    | option name' args' =>
      simp only at hargs
      split_ifs at hargs with hname
      cases hargs
      exact hname ▸ hx
    | blob name' body => simp at hargs
  · exact fun h ↦ ⟨_, h, if_pos rfl⟩

theorem argsOf_map {α : Type*} (name : String) (f : α → List String) (l : List α) :
    argsOf name (l.map fun a ↦ .option name (f a)) = l.map f := by
  induction l with
  | nil => rfl
  | cons a l ih => rw [List.map_cons, argsOf_cons_self, ih, List.map_cons]

theorem argsOf_append (name : String) (ds ds' : List Directive) :
    argsOf name (ds ++ ds') = argsOf name ds ++ argsOf name ds' :=
  List.filterMap_append

/-- A key that one arm appends to holds the items of all options with that arm. -/
theorem importAll_data_list {k n sep : String} {item : List String → String}
    (hown : ∀ args st, (importDirective st (.option n args)).data k =
      some (appendEntry sep (st.data k) (item args)))
    (hother : ∀ p ∈ armsTouching k, p.1 = n) (ds : List Directive) (st : ImportState) :
    (importAll st ds).data k = appendAll sep (st.data k) ((argsOf n ds).map item) := by
  induction ds generalizing st with
  | nil => rfl
  | cons x ds ih =>
    rw [importAll_cons, ih]
    by_cases hx : ∃ args, x = .option n args
    · obtain ⟨args, rfl⟩ := hx
      rw [hown, argsOf_cons_self]
      rfl
    · -- Another directive has an arm that does not touch the key, or none.
      rw [not_exists] at hx
      rw [argsOf_cons_of_ne hx]
      congr 1
      cases x with
      | blob name' body => rfl
      | option name' args =>
        rw [importDirective]
        cases harm : importArms.lookup name' with
        | none => rfl
        | some arm =>
          refine Arm.apply_data_of_not_mem (fun hk ↦ hx args ?_) args st
          have hname : name' = n :=
            hother _ (List.mem_filter.mpr ⟨mem_of_lookup harm, by simpa using hk⟩)
          rw [hname]

theorem importAll_data_remote (ds : List Directive) : (importAll .init ds).data "remote" =
    appendAll "," none ((argsOf "remote" ds).map remoteEntry) :=
  importAll_data_list (n := "remote") (fun _ st ↦ Dict.insert_self st.data _ _) (by decide) ds
    .init

theorem importAll_data_routes (ds : List Directive) :
    (importAll .init ds).data "nm-openvpn3-extra-routes" =
      appendAll "\n" none ((argsOf "route" ds).map routeLine) :=
  importAll_data_list (n := "route") (fun _ st ↦ Dict.insert_self st.data _ _) (by decide) ds
    .init

/-! ## The flags -/

/-- The arms that set a flag. -/
def flagArms : List Arm :=
  [.authUserPass, .ca, .cert, .key, .pkcs12, .secret, .tlsAuth, .keyDirection]

theorem Arm.apply_of_not_mem_flagArms {arm : Arm} (h : arm ∉ flagArms) (args : List String)
    (st : ImportState) : arm.apply args st = { st with data := (arm.apply args st).data } := by
  cases arm with
  | authUserPass | ca | cert | key | pkcs12 | secret | tlsAuth | keyDirection =>
    exact absurd (by decide) h
  | ignored | value | valueOr | flag | remote | compLzo | verifyX509Name | tlsVersionMin |
    crlVerify | route => rfl
  | proto =>
    simp only [apply]
    cases args[0]? with
    | none => rfl
    | some p => simp only; split_ifs <;> rfl
  | httpProxy | socksProxy => simp only [apply]; cases args[0]? <;> rfl
  | ifconfig | keepalive => simp only [apply]; cases args[0]? <;> cases args[1]? <;> rfl

/-- A directive fills a slot, as an inline blob or with a path. -/
def fills (slot key : String) : Directive → Bool
  | .blob name _ => name == slot
  | .option name args => (stored key (.option name args)).isSome

/-- A slot whose key is set is filled. -/
theorem any_fills_of_stored {slot key : String} {ds : List Directive}
    (h : (lastStored key ds).isSome) : ds.any (fills slot key) = true := by
  obtain ⟨x, hx, hs⟩ := lastStored_isSome_iff.mp h
  refine List.any_eq_true.mpr ⟨x, hx, ?_⟩
  cases x with
  | blob name body => cases hs
  | option name args => exact hs

/-- The directive is an option of the given name. -/
def isOption (name : String) : Directive → Bool
  | .blob _ _ => false
  | .option name' _ => name' == name

theorem argsOf_filter (name : String) (ds : List Directive) :
    argsOf name (ds.filter (isOption name)) = argsOf name ds := by
  rw [argsOf, List.filterMap_filter, argsOf]
  congr 1
  funext x
  cases x with
  | blob name' body => rfl
  | option name' args => by_cases h : name' = name <;> simp [isOption, h]

/-- What one directive makes of the flags. -/
theorem importDirective_flags (st : ImportState) (x : Directive) :
    (importDirective st x).haveCert = (fills "cert" "cert" x || st.haveCert) ∧
      (importDirective st x).haveKey = (fills "key" "key" x || st.haveKey) ∧
      (importDirective st x).haveSecret = (fills "secret" "static-key" x || st.haveSecret) ∧
      (importDirective st x).haveTlsAuth = (isOption "tls-auth" x || st.haveTlsAuth) := by
  cases x with
  | blob name body => simp [importDirective, importBlob, fills, isOption, Bool.or_comm]
  | option name args =>
    simp only [fills, isOption, stored, importDirective]
    cases harm : importArms.lookup name with
    | none =>
      have hname : name ≠ "tls-auth" := by
        rintro rfl
        cases harm
      simp [ImportState.init, hname]
    | some arm =>
      -- Both facts about the table of arms are read off it.
      have hkeys : ∀ p ∈ importArms, p.2 ∉ flagArms →
          "cert" ∉ p.2.keys ∧ "key" ∉ p.2.keys ∧ "static-key" ∉ p.2.keys ∧ p.1 ≠ "tls-auth" := by
        decide
      have hname : ∀ p ∈ importArms, p.2 ∈ flagArms → (p.1 = "tls-auth" ↔ p.2 = .tlsAuth) := by
        decide
      by_cases hflag : arm ∈ flagArms
      · have hn := hname _ (mem_of_lookup harm) hflag
        simp only [flagArms, List.mem_cons, List.not_mem_nil, or_false] at hflag
        rcases hflag with rfl | rfl | rfl | rfl | rfl | rfl | rfl | rfl <;>
          simp (disch := decide) [Arm.apply, ImportState.init, Dict.setOpt_self, Dict.setOpt_of_ne,
            hn, Bool.or_comm]
      · obtain ⟨hcert, hkey, hsecret, hn⟩ := hkeys _ (mem_of_lookup harm) hflag
        simp only [Arm.apply_data_of_not_mem hcert, Arm.apply_data_of_not_mem hkey,
          Arm.apply_data_of_not_mem hsecret]
        rw [Arm.apply_of_not_mem_flagArms hflag]
        simp [ImportState.init, hn]

theorem importAll_flags (ds : List Directive) :
    (importAll .init ds).haveCert = ds.any (fills "cert" "cert") ∧
      (importAll .init ds).haveKey = ds.any (fills "key" "key") ∧
      (importAll .init ds).haveSecret = ds.any (fills "secret" "static-key") ∧
      (importAll .init ds).haveTlsAuth = ds.any (isOption "tls-auth") := by
  have hor : ∀ b, (b || false) = b := Bool.or_false
  refine ⟨?_, ?_, ?_, ?_⟩
  · exact (foldl_eq_any_or (r := ImportState.haveCert)
      (fun st x ↦ (importDirective_flags st x).1) ds .init).trans (hor _)
  · exact (foldl_eq_any_or (r := ImportState.haveKey)
      (fun st x ↦ (importDirective_flags st x).2.1) ds .init).trans (hor _)
  · exact (foldl_eq_any_or (r := ImportState.haveSecret)
      (fun st x ↦ (importDirective_flags st x).2.2.1) ds .init).trans (hor _)
  · exact (foldl_eq_any_or (r := ImportState.haveTlsAuth)
      (fun st x ↦ (importDirective_flags st x).2.2.2) ds .init).trans (hor _)

theorem importDirective_haveAuthUserPass (st : ImportState) (x : Directive) :
    (importDirective st x).haveAuthUserPass =
      (isOption "auth-user-pass" x || st.haveAuthUserPass) := by
  cases x with
  | blob name body => simp [importDirective, importBlob, isOption]
  | option name args =>
    simp only [isOption, importDirective]
    cases harm : importArms.lookup name with
    | none =>
      have hname : name ≠ "auth-user-pass" := by
        rintro rfl
        cases harm
      simp [hname]
    | some arm =>
      have hname : ∀ p ∈ importArms, p.1 = "auth-user-pass" ↔ p.2 = .authUserPass := by
        decide
      have hn : name = "auth-user-pass" ↔ arm = .authUserPass := hname _ (mem_of_lookup harm)
      by_cases hflag : arm ∈ flagArms
      · simp only [flagArms, List.mem_cons, List.not_mem_nil, or_false] at hflag
        rcases hflag with rfl | rfl | rfl | rfl | rfl | rfl | rfl | rfl <;>
          simp [Arm.apply, hn]
      · have hno : name ≠ "auth-user-pass" := fun h ↦ hflag (by rw [hn.mp h]; decide)
        simp only
        rw [Arm.apply_of_not_mem_flagArms hflag, beq_eq_false_iff_ne.mpr hno, Bool.false_or]

theorem importAll_haveAuthUserPass (ds : List Directive) :
    (importAll .init ds).haveAuthUserPass = ds.any (isOption "auth-user-pass") :=
  (foldl_eq_any_or (r := ImportState.haveAuthUserPass) importDirective_haveAuthUserPass ds
    .init).trans (Bool.or_false _)

/-- The direction that a `key-direction` gives. -/
def directionOf : Directive → Option String
  | .blob _ _ => none
  | .option name args => if name = "key-direction" then args[0]? else none

/-- The direction of the last `key-direction`. -/
def standaloneDirection (ds : List Directive) : Option String :=
  ds.reverse.findSome? directionOf

theorem importDirective_keyDirection (st : ImportState) (x : Directive) :
    (importDirective st x).keyDirection = (directionOf x).or st.keyDirection := by
  cases x with
  | blob name body => rfl
  | option name args =>
    simp only [directionOf, importDirective]
    cases harm : importArms.lookup name with
    | none =>
      have hname : name ≠ "key-direction" := by
        rintro rfl
        cases harm
      rw [if_neg hname, Option.none_or]
    | some arm =>
      have hname : ∀ p ∈ importArms, p.1 = "key-direction" ↔ p.2 = .keyDirection := by
        decide
      have hn : name = "key-direction" ↔ arm = .keyDirection := hname _ (mem_of_lookup harm)
      by_cases hflag : arm ∈ flagArms
      · simp only [flagArms, List.mem_cons, List.not_mem_nil, or_false] at hflag
        rcases hflag with rfl | rfl | rfl | rfl | rfl | rfl | rfl | rfl <;>
          simp [Arm.apply, hn]
      · have hno : name ≠ "key-direction" := fun h ↦ hflag (by rw [hn.mp h]; decide)
        simp only
        rw [Arm.apply_of_not_mem_flagArms hflag, if_neg hno, Option.none_or]

theorem importAll_keyDirection (ds : List Directive) :
    (importAll .init ds).keyDirection = standaloneDirection ds :=
  (foldl_eq_findSome?_or (r := ImportState.keyDirection) importDirective_keyDirection ds
    .init).trans Option.or_none

/-! ## The imported map -/

/-- The keys that are set after the loop. -/
def lateKeys : List String := ["connection-type", "ta-dir", "static-key-direction"]

theorem resolveKeyDirection_of_ne {k : String} (h1 : k ≠ "ta-dir") (h2 : k ≠ "static-key-direction")
    (st : ImportState) : resolveKeyDirection st k = st.data k := by
  rw [resolveKeyDirection]
  cases st.keyDirection with
  | none => rfl
  | some dir =>
    simp only
    split_ifs
    · exact Dict.orInsert_of_ne h1 _ _
    · exact Dict.orInsert_of_ne h2 _ _
    · rfl

/-- A direction that was not there is set only next to its key. -/
theorem isSome_resolveKeyDirection {k : String} {st : ImportState}
    (h : (resolveKeyDirection st k).isSome) :
    (st.data k).isSome ∨ k = "ta-dir" ∧ st.haveTlsAuth = true ∨
      k = "static-key-direction" ∧ st.haveSecret = true := by
  rw [resolveKeyDirection] at h
  cases hd : st.keyDirection with
  | none => exact .inl (by simpa only [hd] using h)
  | some dir =>
    simp only [hd] at h
    split_ifs at h with hta hsecret
    · by_cases hk : k = "ta-dir"
      · exact .inr (.inl ⟨hk, hta⟩)
      · exact .inl (by rwa [Dict.orInsert_of_ne hk] at h)
    · by_cases hk : k = "static-key-direction"
      · exact .inr (.inr ⟨hk, hsecret⟩)
      · exact .inl (by rwa [Dict.orInsert_of_ne hk] at h)
    · exact .inl h

theorem asNmData_of_not_mem {c : OvpnConfig} {k : String} (h : k ∉ lateKeys) :
    asNmData c k = (importAll .init c.directives).data k := by
  simp only [lateKeys, List.mem_cons, List.not_mem_nil, or_false, not_or] at h
  rw [asNmData, Dict.insert_of_ne h.1, resolveKeyDirection_of_ne h.2.1 h.2.2]

theorem asNmData_eq_lastStored {c : OvpnConfig} {k : String} (h : k ∉ lateKeys)
    (hk : k ∉ listKeys) : asNmData c k = lastStored k c.directives := by
  rw [asNmData_of_not_mem h, importAll_data hk]

theorem asNmData_connectionType (c : OvpnConfig) : asNmData c "connection-type" =
    some (inferConnectionType (importAll .init c.directives)) :=
  Dict.insert_self _ _ _

/-- The directions: an argument of the key's own option comes before a standalone
`key-direction`. -/
theorem asNmData_directions (c : OvpnConfig) :
    asNmData c "ta-dir" = (lastStored "ta-dir" c.directives).or
        (if c.directives.any (isOption "tls-auth") then standaloneDirection c.directives
          else none) ∧
      asNmData c "static-key-direction" = (lastStored "static-key-direction" c.directives).or
        (if !c.directives.any (isOption "tls-auth") &&
            c.directives.any (fills "secret" "static-key") then standaloneDirection c.directives
          else none) := by
  obtain ⟨-, -, hsecret, hta⟩ := importAll_flags c.directives
  rw [← importAll_data (by decide), ← importAll_data (by decide), ← hsecret, ← hta,
    ← importAll_keyDirection]
  simp only [asNmData, Dict.insert_of_ne (show "ta-dir" ≠ "connection-type" by decide),
    Dict.insert_of_ne (show "static-key-direction" ≠ "connection-type" by decide)]
  generalize importAll .init c.directives = st
  have hne : "ta-dir" ≠ "static-key-direction" := by decide
  rw [resolveKeyDirection]
  cases st.keyDirection with
  | none => simp
  | some dir =>
    cases st.haveTlsAuth with
    | true => simp [Dict.orInsert_self, Dict.orInsert_of_ne hne.symm]
    | false =>
      cases st.haveSecret with
      | true => simp [Dict.orInsert_self, Dict.orInsert_of_ne hne]
      | false => simp

/-! ## Validated values -/

/-- The gated options whose first argument is stored under the same name. -/
def gatedNames : List String :=
  ["port", "remote-cert-tls", "ns-cert-type", "tls-version-min", "tls-version-max"]

/-- The values that the exporter writes behind a gate pass it. -/
structure PassesGates (data : VpnData) : Prop where
  gated : ∀ name ∈ gatedNames, ∀ v, get data name = some v → ∀ rest,
    validateDirective (.option name (v :: rest)) = .ok ()
  compLzo : ∀ v, get data "comp-lzo" = some v → compLzoWire v ∈ ["yes", "no", "adaptive"]
  mtuDisc : get data "mtu-disc" = none

theorem validateDirective_of_lookup {name : String} (h : gates.lookup name = none)
    (args : List String) : validateDirective (.option name args) = .ok () := by
  rw [validateDirective, h]

theorem validate_fromNmData {data : VpnData} (h : PassesGates data) :
    (fromNmData data).validate = .ok () := by
  have free : ∀ {T : List String}, (∀ name ∈ T, gates.lookup name = none) →
      ∀ x, IsTagged T x → validateDirective x = .ok () := by
    rintro tags ht x ⟨name, args, rfl, hname⟩
    exact validateDirective_of_lookup (ht name hname) args
  -- Options without a gate are accepted; the gated ones are accepted by hypothesis.
  have optGated : ∀ name ∈ gatedNames, ∀ rest,
      Every (validateDirective · = .ok ()) (optArgs name (get data name) rest) := by
    intro name hname rest x hx
    obtain ⟨v, hv, rfl⟩ := List.mem_map.mp hx
    exact h.gated name hname v (Option.mem_toList.mp hv) rest
  have optPairs : ∀ pairs : List (String × String), (∀ p ∈ pairs, gates.lookup p.2 = none ∨
      p.1 = p.2 ∧ p.2 ∈ gatedNames ∨ p.1 = "mtu-disc") →
      Every (validateDirective · = .ok ()) (pairDirectives data pairs) := by
    intro pairs hpairs x hx
    obtain ⟨p, hp, hx⟩ := List.mem_flatMap.mp hx
    rcases hpairs p hp with hg | ⟨he, hg⟩ | hg
    · exact free (T := [p.2]) (by simpa using hg) x (allTagged_optArgs (by simp) _ _ x hx)
    · rw [he] at hx
      exact optGated p.2 hg [] x hx
    · rw [hg, h.mtuDisc] at hx
      simp [optStr, optArgs] at hx
  rw [OvpnConfig.validate, validateAll_eq_ok]
  refine fromNmData_forall (free (by decide)) (optPairs pairsStr (by decide)) ?_ ?_
    (optGated _ (by decide) _) (optPairs tlsPairs (by decide)) ?_
    (fun x hx ↦ free (by decide) x (allTagged_proxyDirectives data x hx))
    (fun x hx ↦ free (by decide) x (allTagged_tailDirectives x hx))
  · intro x hx
    rw [compressionDirectives, gated, List.mem_ite_nil_right, List.mem_append] at hx
    rcases hx.2 with hx | hx
    · obtain ⟨w, hw, rfl⟩ := List.mem_map.mp hx
      obtain ⟨v, hv, rfl⟩ := Option.map_eq_some_iff.mp (Option.mem_toList.mp hw)
      have := h.compLzo v hv
      simp only [List.mem_cons, List.not_mem_nil, or_false] at this
      rcases this with hw | hw | hw <;> rw [hw] <;> decide
    · exact free (T := ["compress"]) (by decide) x (allTagged_optYes (by decide) _ x hx)
  · intro x hx
    obtain ⟨name, args, rfl, hname | hname⟩ := lookup_of_mem_routeDirectives
      (fun p hp ↦ List.all_eq_true.mp
        ((by decide : ∀ p ∈ gates, p.1.toList.all isAscii = true) p hp)) x hx
    · exact validateDirective_of_lookup
        ((by decide : ∀ name ∈ routeFamily, gates.lookup name = none) name hname) args
    · exact validateDirective_of_lookup hname args
  · unfold protoValue
    split_ifs <;> decide

/-- A key that one option stores as it is. -/
theorem exists_option_of_value {c : OvpnConfig} {k v : String} (h : asNmData c k = some v)
    (hk : k ∉ lateKeys) (hl : k ∉ listKeys)
    (harms : ∀ p ∈ armsTouching k,
      p.1 = k ∧ (p.2 = .value k ∨ p = ("tls-version-min", .tlsVersionMin))) :
    ∃ args, .option k args ∈ c.directives ∧ args.head? = some v := by
  rw [asNmData_eq_lastStored hk hl] at h
  obtain ⟨x, hx, hs⟩ := exists_of_lastStored h
  obtain ⟨name, arm, args, rfl, -, harm, hv⟩ := stored_eq_some hs
  obtain ⟨hname, htwo⟩ := harms _ harm
  obtain rfl : name = k := hname
  refine ⟨args, hx, ?_⟩
  rw [List.head?_eq_getElem?]
  rcases htwo with hvalue | hmin
  · obtain rfl : arm = .value name := hvalue
    simpa only [Arm.apply, Dict.setOpt_self, ImportState.init, Dict.empty_apply,
      Option.or_none] using hv
  · obtain ⟨rfl, rfl⟩ := Prod.mk.inj hmin
    simpa (disch := decide) only [Arm.apply, Dict.setOpt_of_ne, Dict.setOpt_self, ImportState.init,
      Dict.empty_apply, Option.or_none] using hv

/-- **What was imported from a validated config passes the gates when it is exported.** -/
theorem passesGates_asNmData {c : OvpnConfig} (h : c.validate = .ok ()) :
    PassesGates (asNmData c) := by
  rw [OvpnConfig.validate, validateAll_eq_ok] at h
  refine ⟨?_, ?_, ?_⟩
  · intro name hname v hv rest
    have hside : ∀ name ∈ gatedNames, name ∉ lateKeys ∧ name ∉ listKeys ∧
        ∀ p ∈ armsTouching name,
          p.1 = name ∧ (p.2 = .value name ∨ p = ("tls-version-min", .tlsVersionMin)) := by
      decide
    obtain ⟨hk, hl, harms⟩ := hside name hname
    obtain ⟨args, hx, ha⟩ := exists_option_of_value (get_eq_some.mp hv).1 hk hl harms
    -- These gates look at the first argument only.
    obtain ⟨args', rfl⟩ : ∃ args', args = v :: args' := List.head?_eq_some_iff.mp ha
    have hok := h _ hx
    simp only [gatedNames, List.mem_cons, List.not_mem_nil, or_false] at hname
    rcases hname with rfl | rfl | rfl | rfl | rfl <;> exact hok
  · intro v hv
    have hv' := (get_eq_some.mp hv).1
    rw [asNmData_eq_lastStored (by decide) (by decide)] at hv'
    obtain ⟨x, hx, hs⟩ := exists_of_lastStored hv'
    obtain ⟨name, arm, args, rfl, -, harm, hd⟩ := stored_eq_some hs
    have harms : ∀ p ∈ armsTouching "comp-lzo", p = ("comp-lzo", .compLzo) := by decide
    obtain ⟨rfl, rfl⟩ := Prod.mk.inj (harms _ harm)
    simp only [Arm.apply, Dict.insert_self, Option.some_inj] at hd
    have hok := h _ hx
    have hmem : args[0]?.getD "yes" ∈ ["yes", "no", "adaptive"] := by
      cases args with
      | nil => decide
      | cons a args =>
        by_contra hno
        have hlook : gates.lookup "comp-lzo" =
            some (.optionalOneOf ["yes", "no", "adaptive"] "yes|no|adaptive") := rfl
        rw [validateDirective, hlook] at hok
        simp only [Gate.check, List.head?_cons] at hok
        rw [if_neg (by simpa using hno)] at hok
        cases hok
    simp only [List.mem_cons, List.not_mem_nil, or_false] at hmem
    rw [← hd]
    rcases hmem with hm | hm | hm <;> rw [hm] <;> decide
  · have hnone : asNmData c "mtu-disc" = none := by
      rw [asNmData_eq_lastStored (by decide) (by decide)]
      by_contra hne
      obtain ⟨v, hv⟩ := Option.ne_none_iff_exists'.mp hne
      obtain ⟨x, -, hs⟩ := exists_of_lastStored hv
      obtain ⟨name, arm, args, -, -, harm, -⟩ := stored_eq_some hs
      have harms : armsTouching "mtu-disc" = [] := by decide
      rw [harms] at harm
      cases harm
    rw [Ovpn.get, hnone]
    rfl

end ImportExport

end NmOpenvpn3
