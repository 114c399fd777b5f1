import NmOpenvpn3.Agreement.Lists
import NmOpenvpn3.ImportExport.Reimport

/-!
# The certificate name through import and emission

A `verify-x509-name` has a name and an optional type. The importer stores both in one text, the type
in front of a colon, and the emitters take the type off again where it is one of openvpn's keywords.
So a name without a type that begins like a type comes back as another check: the emitted directive
names a type that the file does not have, and the rest of the name.

`x509_survives_iff` says which checks of a file come back.
-/

namespace NmOpenvpn3

namespace Agreement

open Rust Ovpn ImportExport Service

/-- The name types. -/
def nameTypes : List String := ["subject", "name", "name-prefix"]

/-- The check of a certificate name. -/
structure NameCheck where
  name : String
  type : Option String
  name_ne : name ≠ ""
  type_mem : ∀ t, type = some t → t ∈ nameTypes

/-- The arguments of its directive. -/
def NameCheck.args (n : NameCheck) : List String := n.name :: n.type.toList

/-- A name without a type that begins with a type and a colon. -/
def NameCheck.looksTyped (n : NameCheck) : Bool :=
  n.type.isNone && nameTypes.any fun t ↦ (t.toList ++ [':']).isPrefixOf n.name.toList

/-! ## One text for name and type -/

theorem verifyX509Args_of_append {ty : String} (h : ty ∈ nameTypes) (name : List Char) :
    verifyX509Args (String.ofList (ty.toList ++ ':' :: name)) = [String.ofList name, ty] := by
  have hall : ∀ t ∈ nameTypes, ':' ∉ t.toList := by decide
  rw [verifyX509Args, String.toList_ofList, splitOnce_append (hall ty h)]
  simp only [String.ofList_toList]
  exact if_pos (by simpa [nameTypes] using h)

theorem NameCheck.x509Value_ne (n : NameCheck) : x509Value n.args ≠ "" := by
  obtain ⟨name, type, hname, -⟩ := n
  cases type with
  | none => exact hname
  | some t => simp [NameCheck.args, x509Value]

/-- A check that does not look like another one comes back from its text. -/
theorem NameCheck.verifyX509Args_eq (n : NameCheck) (h : n.looksTyped = false) :
    verifyX509Args (x509Value n.args) = n.args := by
  obtain ⟨name, type, hname, htype⟩ := n
  cases type with
  | some t =>
    have hvalue : x509Value [name, t] = String.ofList (t.toList ++ ':' :: name.toList) := by
      rw [← String.toList_inj]
      simp [x509Value]
    rw [NameCheck.args, Option.toList_some, hvalue, verifyX509Args_of_append (htype t rfl),
      String.ofList_toList]
  | none =>
    have hvalue : x509Value [name] = name := rfl
    rw [NameCheck.args, Option.toList_none, hvalue, verifyX509Args]
    cases hsplit : splitOnce ':' name.toList with
    | none => rfl
    | some p =>
      obtain ⟨ty, rest⟩ := p
      obtain ⟨-, hv⟩ := eq_append_of_splitOnce hsplit
      refine if_neg fun hty ↦ ?_
      have hmem : String.ofList ty ∈ nameTypes := by simpa [nameTypes] using hty
      simp only [NameCheck.looksTyped, Option.isNone_none, Bool.true_and,
        List.any_eq_false] at h
      refine h _ hmem (List.isPrefixOf_iff_prefix.mpr ⟨rest, ?_⟩)
      rw [hv, String.toList_ofList, List.append_assoc, List.singleton_append]

/-- A check that looks like another one does not come back from any text. -/
theorem NameCheck.ne_verifyX509Args (n : NameCheck) (h : n.looksTyped = true) (v : String) :
    verifyX509Args v ≠ n.args := by
  obtain ⟨name, type, hname, htype⟩ := n
  rw [NameCheck.looksTyped, Bool.and_eq_true, Option.isNone_iff_eq_none, List.any_eq_true] at h
  obtain ⟨rfl, t, ht, hprefix⟩ := h
  obtain ⟨rest, hrest⟩ := List.isPrefixOf_iff_prefix.mp hprefix
  intro heq
  change verifyX509Args v = [name] at heq
  -- The text would be the name itself, which is taken apart.
  obtain rfl : v = name := by
    rw [← x509Value_verifyX509Args v, heq]
    rfl
  have hname' : v = String.ofList (t.toList ++ ':' :: rest) := by
    rw [← String.toList_inj, ← hrest]
    simp
  rw [hname', verifyX509Args_of_append ht] at heq
  simp at heq

/-! ## The directive in the emitted texts -/

section Emitters

variable (data : VpnData)

theorem not_isOption_of_isTagged {name : String} {tags : List String} {x : Directive}
    (h : IsTagged tags x) (hname : name ∉ tags) : ¬isOption name x = true := by
  obtain ⟨tag, args, rfl, htag⟩ := h
  rw [isOption, beq_iff_eq]
  rintro rfl
  exact hname htag

/-- A block under other names holds no directive of this one. -/
theorem filter_isOption_eq_nil {name : String} {tags : List String} {ds : List Directive}
    (h : AllTagged tags ds) (hname : name ∉ tags) : ds.filter (isOption name) = [] :=
  h.filter_eq_nil fun _ htag _ ↦ beq_eq_false_iff_ne.mpr fun he ↦ hname (he ▸ htag)

theorem filter_x509_routeDirectives :
    (routeDirectives data).filter (isOption "verify-x509-name") = [] := by
  refine List.filter_eq_nil_iff.mpr fun x hx ↦ ?_
  obtain ⟨name, args, rfl, hname⟩ := name_of_mem_routeDirectives x hx
  rw [isOption, beq_iff_eq]
  rintro rfl
  exact absurd (hname (List.all_eq_true.mp (by decide))) (by decide)

theorem filter_x509_verifyX509Directives :
    (verifyX509Directives data).filter (isOption "verify-x509-name") =
      verifyX509Directives data := by
  refine List.filter_eq_self.mpr fun x hx ↦ ?_
  obtain ⟨x509, -, rfl⟩ := List.mem_map.mp hx
  rfl

/-- The name checks among the blocks that both emitters write. -/
theorem filter_x509_commonDirectives :
    (commonDirectives data).filter (isOption "verify-x509-name") =
      gated (isTlsLike (get data "connection-type")) (verifyX509Directives data) := by
  have hnone {tags : List String} {ds : List Directive} (h : AllTagged tags ds)
      (hname : "verify-x509-name" ∉ tags) := filter_isOption_eq_nil h hname
  have flag (name : String) (b : Bool) (h : "verify-x509-name" ∉ [name]) :=
    hnone (allTagged_optFlag (List.mem_singleton_self name) b) h
  have args (name : String) (v : Option String) (rest : List String)
      (h : "verify-x509-name" ∉ [name]) :=
    hnone (allTagged_optArgs (List.mem_singleton_self name) v rest) h
  have yes (name : String) (v : Option String) (h : "verify-x509-name" ∉ [name]) :=
    hnone (allTagged_optYes (List.mem_singleton_self name) v) h
  have one (name : String) (as : List String) (h : "verify-x509-name" ∉ [name]) :=
    hnone (allTagged_singleton (List.mem_singleton_self name) as) h
  have tagged : AllTagged (tlsPairs.map Prod.snd) (pairDirectives data tlsPairs) :=
    allTagged_pairDirectives (fun p hp ↦ List.mem_map_of_mem hp) data
  have pairs := hnone tagged (by decide)
  rw [commonDirectives]
  simp (disch := decide) only [List.flatten_cons, List.flatten_nil, List.filter_append,
    filter_gated, gated_nil, optStr, secretDirectives, compressionDirectives,
    tlsVersionMinDirectives, flag, args, yes, one, pairs, filter_x509_routeDirectives,
    filter_x509_verifyX509Directives,
    hnone (allTagged_remoteDirectives data), hnone (allTagged_ifconfigDirectives data),
    hnone (allTagged_crlVerifyDirectives data), hnone (allTagged_proxyDirectives data),
    hnone allTagged_tailDirectives, List.nil_append, List.append_nil]

theorem filter_x509_exportOwn : (exportOwn data).filter (isOption "verify-x509-name") = [] := by
  have tagged : AllTagged (intPairs.map Prod.snd) (pairDirectives data intPairs) :=
    allTagged_pairDirectives (fun p hp ↦ List.mem_map_of_mem hp) data
  rw [exportOwn, List.filter_append, List.filter_append,
    filter_isOption_eq_nil (allTagged_certDirectives data) (by decide),
    filter_isOption_eq_nil tagged (by decide),
    filter_isOption_eq_nil (allTagged_optYes (List.mem_singleton_self "mssfix") _) (by decide)]
  rfl

theorem filter_x509_connectOwn : (connectOwn data).filter (isOption "verify-x509-name") = [] := by
  have hne : ∀ p ∈ intPairs, p.2 ≠ "verify-x509-name" := by decide
  refine List.filter_eq_nil_iff.mpr fun x hx ↦ ?_
  rcases mem_connectOwn hx with ⟨-, h⟩ | ⟨p, hp, v, -, rfl⟩ | ⟨-, h⟩
  · exact not_isOption_of_isTagged h (by decide)
  · rw [isOption, beq_iff_eq]
    exact hne p hp
  · exact not_isOption_of_isTagged h (by decide)

variable {data}

/-- The checks of an emitted text are those of the block of the name check. -/
theorem mem_x509_iff {own ds : List Directive} (hperm : ds.Perm (own ++ commonDirectives data))
    (hown : own.filter (isOption "verify-x509-name") = [])
    (htls : isTlsLike (get data "connection-type") = true) (args : List String) :
    .option "verify-x509-name" args ∈ ds ↔
      ∃ v, get data "verify-x509-name" = some v ∧ verifyX509Args v = args := by
  have hfilter : (ds.filter (isOption "verify-x509-name")).Perm (verifyX509Directives data) := by
    refine (hperm.filter _).trans (.of_eq ?_)
    rw [List.filter_append, hown, filter_x509_commonDirectives, gated, if_pos htls,
      List.nil_append]
  have hself : isOption "verify-x509-name" (.option "verify-x509-name" args) = true :=
    beq_self_eq_true _
  have hmem := hfilter.mem_iff (a := .option "verify-x509-name" args)
  rw [List.mem_filter, and_iff_left hself] at hmem
  simp [hmem, verifyX509Directives]

end Emitters

/-! ## From the file to the emitted texts -/

/-- The last check of the file is the one that is stored. -/
theorem asNmData_x509 (c : OvpnConfig) : asNmData c "verify-x509-name" =
    (argsOf "verify-x509-name" c.directives).getLast?.map x509Value := by
  rw [asNmData_eq_lastStored (by decide) (by decide), argsOf, List.getLast?_filterMap, lastStored,
    List.map_findSome?]
  refine findSome?_congr fun x hx ↦ ?_
  cases x with
  | blob name body => rfl
  | option name args =>
    by_cases hname : name = "verify-x509-name"
    · subst hname
      have harm : importArms.lookup "verify-x509-name" = some .verifyX509Name := by rfl
      rw [stored_option harm]
      simp [Arm.apply]
    · have harms : ∀ p ∈ armsTouching "verify-x509-name", p.1 = "verify-x509-name" := by decide
      simp only [Function.comp_apply, if_neg hname, Option.map_none]
      exact stored_option_eq_none (fun p hp he ↦ hname (he.symm.trans (harms p hp))) args

/-- Both emitted texts of the imported config hold the check with its own arguments. -/
def CheckSurvives (c : OvpnConfig) (args : List String) : Prop :=
  .option "verify-x509-name" args ∈ (fromNmData (asNmData c)).directives ∧
    ∀ profile, buildProfileString (asNmData c) = .ok profile →
      .option "verify-x509-name" args ∈ optionsOf profile

/-- **A name check comes back exactly when** it does not look like a typed one and no later check of
the file takes its place. -/
theorem x509_survives_iff (c : OvpnConfig) (n : NameCheck)
    (hmem : .option "verify-x509-name" n.args ∈ c.directives)
    (htls : isTlsLike (get (asNmData c) "connection-type") = true) :
    CheckSurvives c n.args ↔ n.looksTyped = false ∧
      ∀ last, (argsOf "verify-x509-name" c.directives).getLast? = some last →
        x509Value last = x509Value n.args := by
  obtain ⟨last, hlast⟩ : ∃ last, (argsOf "verify-x509-name" c.directives).getLast? = some last := by
    exact ⟨_, List.getLast?_eq_some_getLast (List.ne_nil_of_mem (mem_argsOf.mpr hmem))⟩
  have hkey : (∃ v, get (asNmData c) "verify-x509-name" = some v ∧ verifyX509Args v = n.args) ↔
      n.looksTyped = false ∧ x509Value last = x509Value n.args := by
    simp only [get_eq_some, asNmData_x509, hlast, Option.map_some, Option.some.injEq]
    constructor
    · rintro ⟨v, ⟨rfl, -⟩, hargs⟩
      refine ⟨eq_false_of_ne_true fun h ↦ n.ne_verifyX509Args h _ hargs, ?_⟩
      rw [← hargs, x509Value_verifyX509Args]
    · rintro ⟨hplain, hvalue⟩
      refine ⟨_, ⟨rfl, ?_⟩, by rw [hvalue, n.verifyX509Args_eq hplain]⟩
      rw [hvalue]
      exact n.x509Value_ne
  have hexport := mem_x509_iff (fromNmData_perm _) (filter_x509_exportOwn _) htls n.args
  simp only [hlast, Option.some.injEq, forall_eq']
  rw [← hkey, ← hexport, CheckSurvives, and_iff_left_iff_imp]
  intro hexported profile hprofile
  obtain ⟨calls, hcalls, rfl⟩ := buildProfileString_eq_ok hprofile
  rw [optionsOf_writeAll hcalls]
  exact (mem_x509_iff (writerCalls_perm hcalls) (filter_x509_connectOwn _) htls n.args).mpr
    (hexport.mp hexported)

/-- A check with a type, of a name with a colon. -/
private def typedCheck : NameCheck where
  name := "CN=a:b"
  type := some "name"
  name_ne := by decide
  type_mem t ht := Option.some_inj.mp ht ▸ by decide

theorem x509_survives_typedCheck : CheckSurvives
    ⟨[.option "remote" ["gw"], .option "verify-x509-name" typedCheck.args]⟩ typedCheck.args := by
  refine (x509_survives_iff _ typedCheck (by simp) (by rfl)).mpr ⟨by decide, ?_⟩
  rintro last ⟨⟩
  rfl

/-- A name that begins like a typed one is emitted as another name, with that type. -/
theorem not_x509_survives : ¬ ∀ (c : OvpnConfig) (n : NameCheck),
    .option "verify-x509-name" n.args ∈ c.directives →
      isTlsLike (get (asNmData c) "connection-type") = true → CheckSurvives c n.args := by
  intro h
  have := h ⟨[.option "remote" ["gw"], .option "verify-x509-name" ["name:gw.example.com"]]⟩
    ⟨"name:gw.example.com", none, by decide, fun _ ht ↦ nomatch ht⟩ (by simp [NameCheck.args])
    (by rfl)
  have hplain := ((x509_survives_iff _ _ (by simp [NameCheck.args]) (by rfl)).mp this).1
  exact absurd hplain (by decide)

end Agreement

end NmOpenvpn3
