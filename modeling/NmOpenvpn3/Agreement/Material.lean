import NmOpenvpn3.Agreement.Lists
import NmOpenvpn3.Agreement.Inline
import NmOpenvpn3.ImportExport.Connection

/-!
# Inline key material through both emitters

An import writes the bodies of inline blobs to files and stores the path of each file under the name
of its blob. The emitters look for paths under keys of their own, and three of these have other
names. `blob_reaches_iff` says for which blobs of which files both emitters refer to the file.
-/

namespace NmOpenvpn3

namespace Agreement

open Rust Ovpn ImportExport Service

/-! ## References -/

/-- A directive of the given name refers to a file. -/
def RefersTo (name p : String) (ds : List Directive) : Prop :=
  ∃ rest, .option name (p :: rest) ∈ ds

/-- A file is referred to under its name. For a bundle its three parts will do as well. -/
def Named (name p : String) (ds : List Directive) : Prop :=
  RefersTo name p ds ∨ name = "pkcs12" ∧ ∀ part ∈ ["ca", "cert", "key"], RefersTo part p ds

/-- Both emitters refer to a file under its name. -/
structure Reaches (data : VpnData) (name p : String) : Prop where
  exported : Named name p (fromNmData data).directives
  connected : ∃ profile, buildProfileString data = .ok profile ∧ Named name p (optionsOf profile)

/-- The connection types for which the exporter writes an option of the given name for a path. -/
def exportsPath (connectionType : Option String) (name : String) : Bool :=
  if name = "secret" then connectionType == some "static-key"
  else if name ∈ ["cert", "key", "pkcs12"] then needsUserCert connectionType
  else isTlsLike connectionType

section References

variable {name p : String} {ds ds' : List Directive}

theorem refersTo_append :
    RefersTo name p (ds ++ ds') ↔ RefersTo name p ds ∨ RefersTo name p ds' := by
  simp only [RefersTo, List.mem_append, exists_or]

theorem refersTo_gated {b : Bool} :
    RefersTo name p (gated b ds) ↔ b = true ∧ RefersTo name p ds := by
  cases b <;> simp [gated, RefersTo]

theorem refersTo_optArgs {v : Option String} {rest : List String} :
    RefersTo name p (optArgs name v rest) ↔ v = some p := by
  cases v <;> simp [optArgs, RefersTo, eq_comm]

theorem not_refersTo_of_allTagged {tags : List String} (h : AllTagged tags ds)
    (hname : name ∉ tags) : ¬RefersTo name p ds := by
  rintro ⟨rest, hx⟩
  exact hname (h _ hx).name_mem

theorem RefersTo.perm (h : ds.Perm ds') : RefersTo name p ds ↔ RefersTo name p ds' :=
  exists_congr fun _ ↦ h.mem_iff

end References

/-! ## The blocks of key material -/

/-- An option with the name of an inline blob. -/
def isMaterial : Directive → Bool
  | .option name _ => inlineBlobNames.contains name
  | .blob _ _ => false

/-- The key material that both emitters write in the same way. -/
def materialDirectives (data : VpnData) : List Directive :=
  let tls := isTlsLike (get data "connection-type")
  List.flatten
    [secretDirectives data,
     gated tls (optArgs "tls-auth" (get data "ta") (get data "ta-dir").toList),
     gated tls (optStr "tls-crypt" (get data "tls-crypt")),
     gated tls (optStr "tls-crypt-v2" (get data "tls-crypt-v2")),
     gated tls (optStr "extra-certs" (get data "extra-certs")),
     gated tls (crlVerifyDirectives data)]

theorem refersTo_filter {name p : String} (hname : name ∈ inlineBlobNames) {ds : List Directive} :
    RefersTo name p (ds.filter isMaterial) ↔ RefersTo name p ds := by
  refine exists_congr fun rest ↦ ?_
  rw [List.mem_filter, and_iff_left]
  simpa [isMaterial] using hname

section Filter

variable {tags : List String} {ds : List Directive}

theorem filter_isMaterial_eq_nil (h : AllTagged tags ds)
    (hno : ∀ tag ∈ tags, inlineBlobNames.contains tag = false) : ds.filter isMaterial = [] :=
  h.filter_eq_nil fun name hname _ ↦ hno name hname

theorem filter_isMaterial_eq_self (h : AllTagged tags ds)
    (hyes : ∀ tag ∈ tags, inlineBlobNames.contains tag = true) : ds.filter isMaterial = ds :=
  h.filter_eq_self fun name hname _ ↦ hyes name hname

end Filter

theorem filter_isMaterial_routeDirectives (data : VpnData) :
    (routeDirectives data).filter isMaterial = [] := by
  have hnames : ∀ name ∈ inlineBlobNames, "route".toList.isPrefixOf name.toList = false := by
    decide
  refine List.filter_eq_nil_iff.mpr
    (every_routeDirectives (P := fun x ↦ ¬isMaterial x = true) ?_)
  intro routes line name args hl hw _ hmat
  have hname : name ∈ inlineBlobNames := List.contains_iff_mem.mp hmat
  have hprefix := List.isPrefixOf_iff_prefix.mpr (route_prefix_of_mem_safeRouteLines hl hw)
  rw [hnames name hname] at hprefix
  cases hprefix

theorem filter_commonDirectives (data : VpnData) :
    (commonDirectives data).filter isMaterial = materialDirectives data := by
  have flag := fun name b (h : inlineBlobNames.contains name = false) ↦
    filter_isMaterial_eq_nil (allTagged_optFlag (List.mem_singleton_self name) b) (by simpa using h)
  have args := fun name v rest (h : inlineBlobNames.contains name = false) ↦
    filter_isMaterial_eq_nil (allTagged_optArgs (List.mem_singleton_self name) v rest)
      (by simpa using h)
  have yes := fun name v (h : inlineBlobNames.contains name = false) ↦
    filter_isMaterial_eq_nil (allTagged_optYes (List.mem_singleton_self name) v) (by simpa using h)
  have one := fun name as (h : inlineBlobNames.contains name = false) ↦
    filter_isMaterial_eq_nil (allTagged_singleton (List.mem_singleton_self name) as)
      (by simpa using h)
  have kept := fun name v rest (h : inlineBlobNames.contains name = true) ↦
    filter_isMaterial_eq_self (allTagged_optArgs (List.mem_singleton_self name) v rest)
      (by simpa using h)
  rw [commonDirectives, materialDirectives]
  simp (disch := decide) only [List.flatten_cons, List.flatten_nil, List.filter_append,
    filter_gated, gated_nil, optStr, secretDirectives, compressionDirectives,
    tlsVersionMinDirectives, pairDirectives, tlsPairs, List.flatMap_cons, List.flatMap_nil, flag,
    args, yes, one, kept, filter_isMaterial_routeDirectives,
    filter_isMaterial_eq_nil (allTagged_remoteDirectives data) (by decide),
    filter_isMaterial_eq_nil (allTagged_ifconfigDirectives data) (by decide),
    filter_isMaterial_eq_nil (allTagged_verifyX509Directives data) (by decide),
    filter_isMaterial_eq_self (allTagged_crlVerifyDirectives data) (by decide),
    filter_isMaterial_eq_nil (allTagged_proxyDirectives data) (by decide),
    filter_isMaterial_eq_nil allTagged_tailDirectives (by decide), List.nil_append,
    List.append_nil]

/-- The certificates, as a bundle or one by one. -/
def certBlock (bundled : Bool) (data : VpnData) : List Directive :=
  if bundled then [.option "pkcs12" [(userCertValue data "cert").getD ""]]
  else optStr "ca" (caValue data) ++ optStr "cert" (userCertValue data "cert") ++
    optStr "key" (userCertValue data "key")

/-- The exporter writes a bundle. -/
def exportsBundle (data : VpnData) : Bool :=
  pkcs12Collapse (caValue data) (userCertValue data "cert") (userCertValue data "key")

/-- The connect path writes a bundle. -/
def connectsBundle (data : VpnData) : Bool :=
  pkcs12CollapseConnect (userCertValue data "cert") (userCertValue data "key")

section Emitted

variable {name p : String} (hname : name ∈ inlineBlobNames) {data : VpnData}

include hname

/-- Integers have other names. -/
theorem refersTo_blocks {certs ints mssfix : List Directive}
    (hints : AllTagged (intPairs.map Prod.snd) ints) (hmssfix : AllTagged ["mssfix"] mssfix) :
    RefersTo name p (certs ++ ints ++ mssfix ++ commonDirectives data) ↔
      RefersTo name p (certs ++ materialDirectives data) := by
  have htags : ∀ n ∈ inlineBlobNames, n ∉ intPairs.map Prod.snd ∧ n ∉ ["mssfix"] := by decide
  obtain ⟨hno, hno'⟩ := htags name hname
  have hcommon : RefersTo name p (materialDirectives data) ↔
      RefersTo name p (commonDirectives data) := by
    rw [← filter_commonDirectives]
    exact refersTo_filter hname
  simp only [refersTo_append]
  rw [or_iff_left (not_refersTo_of_allTagged hmssfix hno'),
    or_iff_left (not_refersTo_of_allTagged hints hno), hcommon]

/-- What the exporter refers to under the name of an inline blob. -/
theorem refersTo_fromNmData : RefersTo name p (fromNmData data).directives ↔
    RefersTo name p (certBlock (exportsBundle data) data ++ materialDirectives data) := by
  rw [RefersTo.perm (fromNmData_perm data), exportOwn]
  exact refersTo_blocks hname
    (allTagged_pairDirectives (fun q hq ↦ List.mem_map_of_mem hq) data)
    (allTagged_optYes (List.mem_singleton_self "mssfix") _)

/-- What the connect path refers to under the name of an inline blob. -/
theorem refersTo_optionsOf {calls : List WriterCall} (hcalls : writerCalls data = .ok calls) :
    RefersTo name p (optionsOf (writeAll calls)) ↔
      RefersTo name p (certBlock (connectsBundle data) data ++ materialDirectives data) := by
  rw [optionsOf_writeAll hcalls, RefersTo.perm (writerCalls_perm hcalls), connectOwn]
  refine refersTo_blocks hname (fun x hx ↦ ?_) (allTagged_mssfixDirectivesConnect data)
  obtain ⟨q, hq, hx⟩ := List.mem_flatMap.mp hx
  exact allTagged_optArgs (List.mem_map_of_mem hq) _ _ x hx

end Emitted

/-! ## Where the emitters look for a path -/

/-- The names whose path is not kept under a key of the same name. -/
def renamedKeys : List (String × List String) :=
  [("secret", ["static-key"]), ("tls-auth", ["ta"]),
    ("crl-verify", ["crl-verify-file", "crl-verify-dir"])]

/-- The keys in which the emitters look for the path of an option. -/
def pathKeys (name : String) : List String := (renamedKeys.lookup name).getD [name]

/-- The path for an option. -/
def pathFor (data : VpnData) (name : String) : Option String :=
  (pathKeys name).findSome? (get data)

section Paths

variable {name p : String} {data : VpnData} {bundled : Bool}

theorem pathFor_eq_get {k : String} (h : pathKeys name = [k]) : pathFor data name = get data k := by
  rw [pathFor, h, List.findSome?_cons]
  cases get data k <;> rfl

theorem not_refersTo_optArgs {n : String} (h : name ≠ n) (v : Option String) (rest : List String) :
    ¬RefersTo name p (optArgs n v rest) :=
  not_refersTo_of_allTagged (allTagged_optArgs (List.mem_singleton_self n) v rest)
    (by simpa using h)

theorem refersTo_certBlock (hname : name ∈ ["ca", "cert", "key"]) :
    RefersTo name p (certBlock bundled data) ↔ bundled = false ∧
      exportsPath (get data "connection-type") name = true ∧ pathFor data name = some p := by
  cases bundled with
  | true =>
    have hne : name ≠ "pkcs12" := by
      rintro rfl
      exact absurd hname (by decide)
    simp [certBlock, RefersTo, hne]
  | false =>
    simp only [certBlock, Bool.false_eq_true, if_false, true_and, refersTo_append, optStr]
    simp only [List.mem_cons, List.not_mem_nil, or_false] at hname
    rcases hname with rfl | rfl | rfl
    · simp (disch := decide) only [not_refersTo_optArgs, refersTo_optArgs, or_false]
      simp [caValue, exportsPath, pathFor_eq_get (show pathKeys "ca" = ["ca"] from rfl)]
    · simp (disch := decide) only [not_refersTo_optArgs, refersTo_optArgs, or_false, false_or]
      simp [userCertValue_eq_some, exportsPath,
        pathFor_eq_get (show pathKeys "cert" = ["cert"] from rfl)]
    · simp (disch := decide) only [not_refersTo_optArgs, refersTo_optArgs, false_or]
      simp [userCertValue_eq_some, exportsPath,
        pathFor_eq_get (show pathKeys "key" = ["key"] from rfl)]

theorem refersTo_certBlock_pkcs12 : RefersTo "pkcs12" p (certBlock bundled data) ↔
    bundled = true ∧ (userCertValue data "cert").getD "" = p := by
  cases bundled with
  | true => simp [certBlock, RefersTo, eq_comm]
  | false =>
    have hparts : AllTagged ["ca", "cert", "key"] (certBlock false data) :=
      allTagged_append (allTagged_append (allTagged_optArgs (by decide) _ _)
        (allTagged_optArgs (by decide) _ _)) (allTagged_optArgs (by decide) _ _)
    exact iff_of_false (not_refersTo_of_allTagged hparts (by decide))
      fun h ↦ Bool.false_ne_true h.1

theorem refersTo_crlVerifyDirectives : RefersTo "crl-verify" p (crlVerifyDirectives data) ↔
    pathFor data "crl-verify" = some p := by
  have hkeys : pathFor data "crl-verify" =
      (get data "crl-verify-file").or (get data "crl-verify-dir") := by
    change List.findSome? _ ["crl-verify-file", "crl-verify-dir"] = _
    rw [List.findSome?_cons, List.findSome?_cons]
    cases get data "crl-verify-file" <;> cases get data "crl-verify-dir" <;> rfl
  rw [hkeys, crlVerifyDirectives]
  cases get data "crl-verify-file" <;> cases get data "crl-verify-dir" <;>
    simp [RefersTo, eq_comm]

/-- The names of the key material that both emitters write in the same way. -/
def materialNames : List String :=
  ["secret", "tls-auth", "tls-crypt", "tls-crypt-v2", "extra-certs", "crl-verify"]

theorem refersTo_materialDirectives (hname : name ∈ materialNames) :
    RefersTo name p (materialDirectives data) ↔
      exportsPath (get data "connection-type") name = true ∧ pathFor data name = some p := by
  have hcrl : name ≠ "crl-verify" → ¬RefersTo name p (crlVerifyDirectives data) := fun hne ↦
    not_refersTo_of_allTagged (allTagged_crlVerifyDirectives data) (by simpa using hne)
  have hnil : ¬RefersTo name p [] := fun ⟨_, h⟩ ↦ List.not_mem_nil h
  simp only [materialDirectives, secretDirectives, List.flatten_cons, List.flatten_nil, optStr,
    refersTo_append, refersTo_gated, hnil, or_false]
  simp only [materialNames, List.mem_cons, List.not_mem_nil, or_false] at hname
  rcases hname with rfl | rfl | rfl | rfl | rfl | rfl
  · simp (disch := decide) only [not_refersTo_optArgs, refersTo_optArgs, hcrl, and_false, or_false]
    simp [exportsPath, pathFor_eq_get (show pathKeys "secret" = ["static-key"] from rfl)]
  · simp (disch := decide) only [not_refersTo_optArgs, refersTo_optArgs, hcrl, and_false, or_false,
      false_or]
    simp [exportsPath, pathFor_eq_get (show pathKeys "tls-auth" = ["ta"] from rfl)]
  · simp (disch := decide) only [not_refersTo_optArgs, refersTo_optArgs, hcrl, and_false, or_false,
      false_or]
    simp [exportsPath, pathFor_eq_get (show pathKeys "tls-crypt" = ["tls-crypt"] from rfl)]
  · simp (disch := decide) only [not_refersTo_optArgs, refersTo_optArgs, hcrl, and_false, or_false,
      false_or]
    simp [exportsPath, pathFor_eq_get (show pathKeys "tls-crypt-v2" = ["tls-crypt-v2"] from rfl)]
  · simp (disch := decide) only [not_refersTo_optArgs, refersTo_optArgs, hcrl, and_false, or_false,
      false_or]
    simp [exportsPath, pathFor_eq_get (show pathKeys "extra-certs" = ["extra-certs"] from rfl)]
  · simp (disch := decide) only [not_refersTo_optArgs, and_false, false_or,
      refersTo_crlVerifyDirectives]
    simp [exportsPath]

theorem allTagged_certBlock :
    AllTagged ["pkcs12", "ca", "cert", "key"] (certBlock bundled data) := by
  rw [certBlock]
  split_ifs
  · exact allTagged_singleton (by decide) _
  · exact allTagged_append (allTagged_append (allTagged_optArgs (by decide) _ _)
      (allTagged_optArgs (by decide) _ _)) (allTagged_optArgs (by decide) _ _)

theorem allTagged_materialDirectives : AllTagged materialNames (materialDirectives data) := by
  have append := @allTagged_append materialNames
  have gated := @allTagged_gated materialNames
  have args := @allTagged_optArgs materialNames
  exact append (gated _ (args (by decide) _ _)) <| append (gated _ (args (by decide) _ _)) <|
    append (gated _ (args (by decide) _ _)) <| append (gated _ (args (by decide) _ _)) <|
    append (gated _ (args (by decide) _ _)) <|
    append (gated _ ((allTagged_crlVerifyDirectives data).mono (by decide))) allTagged_nil

/-- An emitter refers to the path for an option, but a bundle displaces its parts. -/
theorem refersTo_iff (hname : name ∈ inlineBlobNames) (hne : name ≠ "pkcs12") :
    RefersTo name p (certBlock bundled data ++ materialDirectives data) ↔
      (name ∈ ["ca", "cert", "key"] → bundled = false) ∧
        exportsPath (get data "connection-type") name = true ∧ pathFor data name = some p := by
  have hsplit : ∀ n ∈ inlineBlobNames, n ≠ "pkcs12" →
      (n ∈ ["ca", "cert", "key"] ∧ n ∉ materialNames) ∨ (n ∉ ["pkcs12", "ca", "cert", "key"] ∧
        n ∉ ["ca", "cert", "key"] ∧ n ∈ materialNames) := by decide
  rw [refersTo_append]
  rcases hsplit name hname hne with ⟨hpart, hno⟩ | ⟨hno, hpart, hmat⟩
  · rw [or_iff_left (not_refersTo_of_allTagged allTagged_materialDirectives hno),
      refersTo_certBlock hpart]
    simp only [hpart, true_imp_iff]
  · rw [or_iff_right (not_refersTo_of_allTagged allTagged_certBlock hno),
      refersTo_materialDirectives hmat]
    simp only [hpart, false_imp_iff, true_and]

theorem refersTo_pkcs12_iff :
    RefersTo "pkcs12" p (certBlock bundled data ++ materialDirectives data) ↔
      bundled = true ∧ (userCertValue data "cert").getD "" = p := by
  rw [refersTo_append, or_iff_left (not_refersTo_of_allTagged allTagged_materialDirectives
    (by decide)), refersTo_certBlock_pkcs12]

/-- A connection of the given type with the same path everywhere. -/
def samePath (connectionType : Option String) (p : String) : VpnData := fun k ↦
  if k = "connection-type" then connectionType else some p

theorem get_samePath {connectionType : Option String} {k : String} (hk : k ≠ "connection-type")
    (hp : p ≠ "") : get (samePath connectionType p) k = some p := by
  rw [get_eq_some, samePath, if_neg hk]
  exact ⟨rfl, hp⟩

theorem get_samePath_connectionType {connectionType : Option String}
    (h : exportsPath connectionType name = true) :
    get (samePath connectionType p) "connection-type" = connectionType := by
  have hset : ∀ t ∈ [some "tls", some "password", some "password-tls", some "static-key"],
      argIsSet t = t := by decide
  refine hset connectionType ?_
  rw [exportsPath] at h
  split_ifs at h <;> simp [isTlsLike, needsUserCert] at h ⊢ <;> tauto

/-- **The types for which the exporter writes an option** are those for which there is a path that
it refers to under the name. -/
theorem exportsPath_iff (hname : name ∈ inlineBlobNames) (connectionType : Option String) :
    exportsPath connectionType name = true ↔ ∃ data p, get data "connection-type" = connectionType ∧
      RefersTo name p (fromNmData data).directives := by
  constructor
  · intro h
    have htype := fun p ↦ get_samePath_connectionType (p := p) h
    by_cases hpkcs : name = "pkcs12"
    · -- A path that looks like a bundle is written as one.
      subst hpkcs
      have huser : ∀ k ≠ "connection-type",
          userCertValue (samePath connectionType "a.p12") k = some "a.p12" := fun k hk ↦
        userCertValue_eq_some.mpr ⟨by rwa [htype], get_samePath hk (by decide)⟩
      have hca : caValue (samePath connectionType "a.p12") = some "a.p12" := by
        rw [caValue, htype, if_pos (isTlsLike_of_needsUserCert h)]
        exact get_samePath (by decide) (by decide)
      refine ⟨samePath connectionType "a.p12", "a.p12", htype _, (refersTo_fromNmData hname).mpr ?_⟩
      refine refersTo_pkcs12_iff.mpr ⟨pkcs12Collapse_iff.mpr ⟨"a.p12", hca, huser _ (by decide),
        huser _ (by decide), by decide⟩, by rw [huser _ (by decide)]; rfl⟩
    · have hkeys : ∀ n ∈ inlineBlobNames, ∃ k ∈ (pathKeys n).head?, k ≠ "connection-type" := by
        decide
      obtain ⟨k, hhead, hk⟩ := hkeys name hname
      obtain ⟨keys, hcons⟩ := List.head?_eq_some_iff.mp hhead
      refine ⟨samePath connectionType "a", "a", htype _, (refersTo_fromNmData hname).mpr ?_⟩
      refine (refersTo_iff hname hpkcs).mpr ⟨fun _ ↦ ?_, by rwa [htype], ?_⟩
      · rw [exportsBundle, ← Bool.not_eq_true, pkcs12Collapse_iff]
        rintro ⟨q, -, hcert, -, hq⟩
        have hget := (userCertValue_eq_some.mp hcert).2
        rw [get_samePath (by decide) (by decide)] at hget
        obtain rfl := Option.some_inj.mp hget
        cases hq
      · rw [pathFor, hcons, List.findSome?_cons, get_samePath hk (by decide)]
  · rintro ⟨data, p, rfl, hp⟩
    rw [refersTo_fromNmData hname] at hp
    by_cases hpkcs : name = "pkcs12"
    · subst hpkcs
      obtain ⟨hbundle, -⟩ := refersTo_pkcs12_iff.mp hp
      obtain ⟨q, -, hcert, -⟩ := pkcs12Collapse_iff.mp hbundle
      exact (userCertValue_eq_some.mp hcert).1
    · exact ((refersTo_iff hname hpkcs).mp hp).2.1

end Paths

/-! ## The files of inline blobs -/

/-- A certificate and a key that come in one bundle, by path. -/
def BundleByPath (ds : List Directive) : Prop :=
  ∃ p, isPkcs12Path p = true ∧
    ∀ slot ∈ ["cert", "key"], lastBlob slot ds = none ∧ pathGiven slot ds = some p

/-- When the file of an inline blob arrives at both emitters. -/
structure Arrives (env : ImportEnv) (name : String) (ds : List Directive) : Prop where
  /-- There is a profile at all. -/
  remote : HasRemote ds
  /-- No later blob takes the place of a certificate or key, -/
  slot : name ∈ ["ca", "cert", "key"] → lastBlob name ds = some name
  /-- nor that of a part of a bundle. -/
  bundle : name = "pkcs12" → ∀ part ∈ ["ca", "cert", "key"], lastBlob part ds = some name
  /-- The authority is not ignored for a bundle. -/
  authority : name = "ca" → ¬BundleByPath ds
  /-- An option gives the very path of the blob, where the blob is stored under another key. -/
  renamed : (renamedKeys.lookup name).isSome →
    (pathKeys name).findSome? (pathGiven · ds) = some (env.blobPath name)

section Connection

variable {env : ImportEnv} {c : OvpnConfig} (h : Storable env c.directives)

theorem named_congr {name p : String} {ds ds' : List Directive} (hname : name ∈ inlineBlobNames)
    (h : ∀ n ∈ inlineBlobNames, RefersTo n p ds ↔ RefersTo n p ds') :
    Named name p ds ↔ Named name p ds' := by
  have hparts : ∀ part ∈ ["ca", "cert", "key"], part ∈ inlineBlobNames := by decide
  exact or_congr (h name hname) <| and_congr_right fun _ ↦
    forall₂_congr fun part hpart ↦ h part (hparts part hpart)

include h

theorem reaches_iff {name p : String} (hname : name ∈ inlineBlobNames) :
    Reaches (connectionData env c) name p ↔ HasRemote c.directives ∧
      ∀ bundled ∈ [exportsBundle (connectionData env c), connectsBundle (connectionData env c)],
        Named name p (certBlock bundled (connectionData env c) ++
          materialDirectives (connectionData env c)) := by
  have hexport : Named name p (fromNmData (connectionData env c)).directives ↔
      Named name p (certBlock (exportsBundle (connectionData env c)) (connectionData env c) ++
        materialDirectives (connectionData env c)) :=
    named_congr hname fun n hn ↦ refersTo_fromNmData hn
  simp only [List.forall_mem_cons, List.not_mem_nil, false_imp_iff, implies_true, and_true]
  rw [← hexport, ← exists_get_connectionData_remote h]
  constructor
  · rintro ⟨hexported, profile, hprofile, hnamed⟩
    obtain ⟨calls, hcalls, rfl⟩ := buildProfileString_eq_ok hprofile
    exact ⟨exists_remote_of_writerCalls hcalls, hexported,
      (named_congr hname fun n hn ↦ refersTo_optionsOf hn hcalls).mp hnamed⟩
  · rintro ⟨⟨gateways, hg⟩, hexported, hnamed⟩
    obtain ⟨calls, hcalls, -⟩ := writerCalls_of_remote hg
    refine ⟨hexported, writeAll calls, by rw [buildProfileString, hcalls]; rfl, ?_⟩
    exact (named_congr hname fun n hn ↦ refersTo_optionsOf hn hcalls).mpr hnamed

/-- A certificate or key that comes from a blob is no bundle. -/
theorem not_isPkcs12Path_of_lastBlob {slot p : String} (hslot : slot ∈ ["ca", "cert", "key"])
    (hblob : (lastBlob slot c.directives).isSome)
    (hget : get (connectionData env c) slot = some p) : isPkcs12Path p = false := by
  have hkeys : ∀ slot ∈ ["ca", "cert", "key"],
      slot ∉ surroundingKeys ++ lateKeys ++ listKeys := by decide
  obtain ⟨n, hn⟩ := Option.isSome_iff_exists.mp hblob
  rw [get_connectionData h (hkeys slot hslot), hn, Option.map_some, Option.some_or] at hget
  rw [← Option.some_inj.mp hget]
  exact isPkcs12Path_blobPath env n

theorem exportsBundle_eq_false {slot : String} (hslot : slot ∈ ["ca", "cert", "key"])
    (hblob : (lastBlob slot c.directives).isSome) :
    exportsBundle (connectionData env c) = false := by
  rw [exportsBundle, ← Bool.not_eq_true, pkcs12Collapse_iff]
  rintro ⟨p, hca, hcert, hkey, hp⟩
  rw [caValue, Option.ite_none_right_eq_some] at hca
  have hget : get (connectionData env c) slot = some p := by
    simp only [List.mem_cons, List.not_mem_nil, or_false] at hslot
    rcases hslot with rfl | rfl | rfl
    · exact hca.2
    · exact (userCertValue_eq_some.mp hcert).2
    · exact (userCertValue_eq_some.mp hkey).2
  rw [not_isPkcs12Path_of_lastBlob h hslot hblob hget] at hp
  cases hp

theorem connectsBundle_iff
    (htls : isTlsLike (get (connectionData env c) "connection-type") = true) :
    connectsBundle (connectionData env c) = true ↔ BundleByPath c.directives := by
  have hkeys : ∀ slot ∈ ["cert", "key"], slot ∉ surroundingKeys ++ lateKeys ++ listKeys ∧
      slot ∈ ["ca", "cert", "key"] := by decide
  rw [connectsBundle, pkcs12CollapseConnect_iff]
  constructor
  · rintro ⟨p, hcert, hkey, hp⟩
    refine ⟨p, hp, fun slot hslot ↦ ?_⟩
    have hget : get (connectionData env c) slot = some p := by
      simp only [List.mem_cons, List.not_mem_nil, or_false] at hslot
      rcases hslot with rfl | rfl
      · exact (userCertValue_eq_some.mp hcert).2
      · exact (userCertValue_eq_some.mp hkey).2
    cases hblob : lastBlob slot c.directives with
    | some n =>
      have hno := not_isPkcs12Path_of_lastBlob h (hkeys slot hslot).2 (by rw [hblob]; rfl) hget
      rw [hp] at hno
      cases hno
    | none =>
      rw [get_connectionData h (hkeys slot hslot).1, hblob, Option.map_none, Option.none_or] at hget
      exact ⟨rfl, hget⟩
  · rintro ⟨p, hp, hslots⟩
    have hget : ∀ slot ∈ ["cert", "key"], get (connectionData env c) slot = some p := by
      intro slot hslot
      obtain ⟨hblob, hgiven⟩ := hslots slot hslot
      rw [get_connectionData h (hkeys slot hslot).1, hblob, hgiven]
      rfl
    -- With a certificate and a key, the type without them is a static key.
    have hgives : ∀ slot ∈ ["cert", "key"], c.directives.any (gives slot) = true := by
      intro slot hslot
      have hlist : ∀ slot ∈ ["cert", "key"], slot ∉ listKeys := by decide
      have hstored : lastStored slot c.directives = some p := by
        rw [lastStored, funext (stored_eq_given (hlist slot hslot))]
        exact (Option.filter_eq_some_iff.mp (hslots slot hslot).2).1
      rw [← funext (fills_eq_gives hslot)]
      exact any_fills_of_stored (by rw [hstored]; rfl)
    have huser : needsUserCert (get (connectionData env c) "connection-type") = true := by
      rw [get_connectionData_connectionType h, asNmData_connectionType_eq, hgives _ (by decide),
        hgives _ (by decide)] at htls ⊢
      cases hsecret : c.directives.any setsSecret with
      | true =>
        rw [hsecret] at htls
        cases htls
      | false => cases c.directives.any (isOption "auth-user-pass") <;> rfl
    exact ⟨p, userCertValue_eq_some.mpr ⟨huser, hget _ (by decide)⟩,
      userCertValue_eq_some.mpr ⟨huser, hget _ (by decide)⟩, hp⟩

/-- The path of a certificate, of its key or of the authority is that of the last blob there. -/
theorem pathFor_eq_some_iff {name slot : String}
    (hslot : slot ∉ surroundingKeys ++ lateKeys ++ listKeys) (hkeys : pathKeys slot = [slot])
    (hblob : (lastBlob slot c.directives).isSome) :
    pathFor (connectionData env c) slot = some (env.blobPath name) ↔
      lastBlob slot c.directives = some name := by
  obtain ⟨n, hn⟩ := Option.isSome_iff_exists.mp hblob
  rw [pathFor_eq_get hkeys, get_connectionData h hslot, hn, Option.map_some, Option.some_or,
    Option.some_inj, Option.some_inj, blobPath_inj]

/-- No blob is stored where the emitters look for a path under another name. -/
theorem pathFor_renamed {name : String} (hname : (renamedKeys.lookup name).isSome) :
    pathFor (connectionData env c) name =
      (pathKeys name).findSome? (pathGiven · c.directives) := by
  obtain ⟨keys, hlook⟩ := Option.isSome_iff_exists.mp hname
  have hkeys : ∀ p ∈ renamedKeys, ∀ k ∈ p.2, k ∉ surroundingKeys ++ lateKeys ++ listKeys ∧
      ∀ n ∈ inlineBlobNames, storesUnder k n = false := by decide
  rw [pathFor]
  refine findSome?_congr fun k hk ↦ ?_
  rw [pathKeys, hlook, Option.getD_some] at hk
  obtain ⟨l, l', hl, -⟩ := List.lookup_eq_some_iff.mp hlook
  have hmem : (name, keys) ∈ renamedKeys := hl ▸ List.mem_append_right _ List.mem_cons_self
  obtain ⟨hout, hno⟩ := hkeys _ hmem k hk
  rw [get_connectionData h hout, lastBlob_eq_none h hno]
  rfl

/-- A bundle reaches an emitter as its parts. -/
theorem named_pkcs12_iff {body : String} (hblob : .blob "pkcs12" body ∈ c.directives)
    (hexports : needsUserCert (get (connectionData env c) "connection-type") = true) :
    Named "pkcs12" (env.blobPath "pkcs12") (certBlock false (connectionData env c) ++
        materialDirectives (connectionData env c)) ↔
      ∀ part ∈ ["ca", "cert", "key"], lastBlob part c.directives = some "pkcs12" := by
  have hparts : ∀ part ∈ ["ca", "cert", "key"], part ∈ inlineBlobNames ∧ part ≠ "pkcs12" ∧
      part ∉ surroundingKeys ++ lateKeys ++ listKeys ∧ pathKeys part = [part] ∧
        storesUnder part "pkcs12" = true := by decide
  rw [Named, or_iff_right (fun hr ↦ Bool.false_ne_true (refersTo_pkcs12_iff.mp hr).1),
    and_iff_right rfl]
  refine forall₂_congr fun part hpart ↦ ?_
  obtain ⟨hin, hne, hout, hkeys, hstores⟩ := hparts part hpart
  have hexported : exportsPath (get (connectionData env c) "connection-type") part = true := by
    simp only [List.mem_cons, List.not_mem_nil, or_false] at hpart
    rcases hpart with rfl | rfl | rfl
    · exact isTlsLike_of_needsUserCert hexports
    · exact hexports
    · exact hexports
  rw [refersTo_iff hin hne, and_iff_right fun _ ↦ rfl, and_iff_right hexported,
    pathFor_eq_some_iff h hout hkeys (isSome_lastBlob hblob hstores)]

theorem reaches_iff_of_ne {name p : String} (hname : name ∈ inlineBlobNames) (hne : name ≠ "pkcs12")
    (hexports : exportsPath (get (connectionData env c) "connection-type") name = true) :
    Reaches (connectionData env c) name p ↔ HasRemote c.directives ∧
      (name ∈ ["ca", "cert", "key"] → exportsBundle (connectionData env c) = false ∧
        connectsBundle (connectionData env c) = false) ∧
      pathFor (connectionData env c) name = some p := by
  have hnamed : ∀ ds, Named name p ds ↔ RefersTo name p ds := fun ds ↦
    or_iff_left fun hp ↦ hne hp.1
  simp only [reaches_iff h hname, List.forall_mem_cons, List.not_mem_nil, false_imp_iff,
    implies_true, and_true, hnamed, refersTo_iff hname hne, hexports, true_and]
  tauto

/-- Of the parts of a bundle by path none is a blob. -/
theorem connectsBundle_eq_false {slot : String} (hslot : slot ∈ ["cert", "key"])
    (hblob : (lastBlob slot c.directives).isSome)
    (htls : isTlsLike (get (connectionData env c) "connection-type") = true) :
    connectsBundle (connectionData env c) = false := by
  rw [← Bool.not_eq_true, connectsBundle_iff h htls]
  rintro ⟨p, -, hslots⟩
  rw [(hslots slot hslot).1] at hblob
  cases hblob

theorem reaches_pkcs12_iff {body : String} (hblob : .blob "pkcs12" body ∈ c.directives)
    (hexports : needsUserCert (get (connectionData env c) "connection-type") = true) :
    Reaches (connectionData env c) "pkcs12" (env.blobPath "pkcs12") ↔
      HasRemote c.directives ∧
        ∀ part ∈ ["ca", "cert", "key"], lastBlob part c.directives = some "pkcs12" := by
  have hpart : (lastBlob "cert" c.directives).isSome := isSome_lastBlob hblob (by decide)
  rw [reaches_iff h (by decide), exportsBundle_eq_false h (by decide) hpart,
    connectsBundle_eq_false h (by decide) hpart (isTlsLike_of_needsUserCert hexports)]
  simp only [List.forall_mem_cons (a := false), List.not_mem_nil, false_imp_iff, implies_true,
    and_true, named_pkcs12_iff h hblob hexports, and_self]

theorem reaches_part_iff {name body : String} (hname : name ∈ ["ca", "cert", "key"])
    (hblob : .blob name body ∈ c.directives)
    (hexports : exportsPath (get (connectionData env c) "connection-type") name = true) :
    Reaches (connectionData env c) name (env.blobPath name) ↔
      HasRemote c.directives ∧ (name = "ca" → ¬BundleByPath c.directives) ∧
        lastBlob name c.directives = some name := by
  have hparts : ∀ n ∈ ["ca", "cert", "key"], n ∈ inlineBlobNames ∧ n ≠ "pkcs12" ∧
      n ∉ surroundingKeys ++ lateKeys ++ listKeys ∧ pathKeys n = [n] ∧
        (n ≠ "ca" → n ∈ ["cert", "key"]) := by decide
  obtain ⟨hin, hne, hout, hkeys, hrest⟩ := hparts name hname
  have hlast : (lastBlob name c.directives).isSome := isSome_lastBlob hblob (by simp [storesUnder])
  have htls : isTlsLike (get (connectionData env c) "connection-type") = true := by
    simp only [List.mem_cons, List.not_mem_nil, or_false] at hname
    rcases hname with rfl | rfl | rfl
    · exact hexports
    · exact isTlsLike_of_needsUserCert hexports
    · exact isTlsLike_of_needsUserCert hexports
  rw [reaches_iff_of_ne h hin hne hexports, exportsBundle_eq_false h hname hlast,
    pathFor_eq_some_iff h hout hkeys hlast]
  refine and_congr_right fun _ ↦ and_congr_left fun _ ↦ ?_
  by_cases hca : name = "ca"
  · rw [← connectsBundle_iff h htls, Bool.not_eq_true]
    exact ⟨fun hb _ ↦ (hb hname).2, fun hc _ ↦ ⟨rfl, hc hca⟩⟩
  · rw [connectsBundle_eq_false h (hrest hca) hlast htls]
    exact iff_of_true (fun _ ↦ ⟨rfl, rfl⟩) fun he ↦ absurd he hca

/-- What decides for each kind of blob. -/
theorem reaches_iff_arrives {name body : String} (hblob : .blob name body ∈ c.directives)
    (hexports : exportsPath (get (connectionData env c) "connection-type") name = true) :
    Reaches (connectionData env c) name (env.blobPath name) ↔ Arrives env name c.directives := by
  have hkinds : ∀ n ∈ inlineBlobNames, n = "pkcs12" ∧ renamedKeys.lookup n = none ∨
      n ∈ ["ca", "cert", "key"] ∧ n ≠ "pkcs12" ∧ renamedKeys.lookup n = none ∨
      n ∉ ["ca", "cert", "key"] ∧ n ≠ "pkcs12" ∧ n ≠ "ca" ∧ ((renamedKeys.lookup n).isSome ∨
        renamedKeys.lookup n = none ∧ n ∉ surroundingKeys ++ lateKeys ++ listKeys ∧
          pathKeys n = [n]) := by decide
  have hname := h.known name body hblob
  rcases hkinds name hname with ⟨rfl, hown⟩ | ⟨hpart, hne, hown⟩ | ⟨hpart, hne, hca, hkey⟩
  · rw [reaches_pkcs12_iff h hblob hexports]
    refine ⟨?_, fun ha ↦ ⟨ha.remote, ha.bundle rfl⟩⟩
    rintro ⟨hr, hb⟩
    exact ⟨hr, fun he ↦ absurd he (by decide), fun _ ↦ hb, fun he ↦ absurd he (by decide),
      by simp [hown]⟩
  · rw [reaches_part_iff h hpart hblob hexports]
    refine ⟨?_, fun ha ↦ ⟨ha.remote, ha.authority, ha.slot hpart⟩⟩
    rintro ⟨hr, hb, hl⟩
    exact ⟨hr, fun _ ↦ hl, fun he ↦ absurd he hne, hb, by simp [hown]⟩
  · rw [reaches_iff_of_ne h hname hne hexports]
    have hfields : ∀ {P : Prop}, HasRemote c.directives ∧ (name ∈ ["ca", "cert", "key"] → P) ∧
        pathFor (connectionData env c) name = some (env.blobPath name) ↔
          HasRemote c.directives ∧
            pathFor (connectionData env c) name = some (env.blobPath name) := by simp [hpart]
    rw [hfields]
    rcases hkey with hkey | ⟨hown, hout, hkeys⟩
    · rw [pathFor_renamed h hkey]
      refine ⟨?_, fun ha ↦ ⟨ha.remote, ha.renamed hkey⟩⟩
      rintro ⟨hr, hp⟩
      exact ⟨hr, fun he ↦ absurd he hpart, fun he ↦ absurd he hne, fun he ↦ absurd he hca,
        fun _ ↦ hp⟩
    · -- No other blob is stored under the name.
      have hlast : lastBlob name c.directives = some name := by
        obtain ⟨n, hn⟩ := Option.isSome_iff_exists.mp
          (isSome_lastBlob hblob (show storesUnder name name = true by simp [storesUnder]))
        have hs := lastBlob_eq_some hn
        have hslot : ["ca", "cert", "key"].contains name = false := by simpa using hpart
        rw [storesUnder, hslot, Bool.and_false, Bool.or_false, beq_iff_eq] at hs
        rw [hn, hs]
      rw [pathFor_eq_some_iff h hout hkeys (by rw [hlast]; rfl)]
      refine ⟨?_, fun ha ↦ ⟨ha.remote, hlast⟩⟩
      rintro ⟨hr, -⟩
      exact ⟨hr, fun he ↦ absurd he hpart, fun he ↦ absurd he hne, fun he ↦ absurd he hca,
        by simp [hown]⟩

end Connection

/-- **An inline blob reaches both emitters** exactly when it arrives: the file names a remote, no
other blob or bundle displaces it, and under the three names that the emitters keep elsewhere an
option of the file repeats the path. -/
theorem blob_reaches_iff {env : ImportEnv} {text name body : String} {c : OvpnConfig}
    (hparse : OvpnConfig.parse text = .ok c) (hblob : .blob name body ∈ c.directives)
    (hstored : isCString (env.blobPath name) = true) :
    ∃ data, ovpnTextToConnection env text = .ok data ∧
      (exportsPath (get data "connection-type") name = true →
        (Reaches data name (env.blobPath name) ↔ Arrives env name c.directives)) := by
  have hknown : ∀ name body, .blob name body ∈ c.directives → name ∈ inlineBlobNames :=
    fun name body hb ↦ (wasRead_of_parse hparse _ hb).1
  refine ⟨connectionData env c, by rw [ovpnTextToConnection, hparse], fun hexports ↦ ?_⟩
  exact reaches_iff_arrives (.of_path hknown (hknown _ _ hblob) hstored) hblob hexports

/-- A place to import to. -/
private def sampleEnv : ImportEnv := ⟨"vpn", none, "/etc/certs", fun _ ↦ none, Char.isAlphanum⟩

/-- An inline authority. -/
private def authorityConfig : OvpnConfig := ⟨[.option "remote" ["gw"], .blob "ca" "cert\n"]⟩

theorem blob_reaches_authority : ∃ data,
    ovpnTextToConnection sampleEnv "remote gw\n<ca>\ncert\n</ca>\n" = .ok data ∧
      Reaches data "ca" (sampleEnv.blobPath "ca") := by
  have hparse : OvpnConfig.parse "remote gw\n<ca>\ncert\n</ca>\n" = .ok authorityConfig := by rfl
  have hblob : .blob "ca" "cert\n" ∈ authorityConfig.directives := by decide
  have hstored : isCString (sampleEnv.blobPath "ca") = true := by decide
  obtain ⟨data, hdata, hiff⟩ := blob_reaches_iff hparse hblob hstored
  obtain rfl : connectionData sampleEnv authorityConfig = data := by
    rw [ovpnTextToConnection, hparse] at hdata
    exact Except.ok.inj hdata
  refine ⟨_, hdata, (hiff (by decide)).mpr ⟨⟨?_, ?_⟩, ?_, ?_, ?_, ?_⟩⟩
  · exact ⟨["gw"], by decide, by decide⟩
  · have hargs : argsOf "remote" authorityConfig.directives = [["gw"]] := by rfl
    rw [hargs]
    decide
  · exact fun _ ↦ by rfl
  · exact fun he ↦ absurd he (by decide)
  · rintro - ⟨p, -, hslots⟩
    obtain ⟨-, hgiven⟩ := hslots "cert" (by decide)
    have hnone : pathGiven "cert" authorityConfig.directives = none := by rfl
    rw [hnone] at hgiven
    cases hgiven
  · exact fun he ↦ absurd he (by decide)

/-- Without a path for an option neither emitter writes it. -/
theorem not_named_of_pathFor {data : VpnData} {name p gateways : String}
    (hname : name ∈ inlineBlobNames) (hne : name ≠ "pkcs12") (hpath : pathFor data name = none)
    (hg : get data "remote" = some gateways) :
    ¬Named name p (fromNmData data).directives ∧
      ∃ profile, buildProfileString data = .ok profile ∧ ¬Named name p (optionsOf profile) := by
  have hno : ∀ bundled, ¬RefersTo name p (certBlock bundled data ++ materialDirectives data) := by
    intro bundled hr
    have hsome := ((refersTo_iff hname hne).mp hr).2.2
    rw [hpath] at hsome
    cases hsome
  obtain ⟨calls, hcalls, -⟩ := writerCalls_of_remote hg
  refine ⟨?_, writeAll calls, by rw [buildProfileString, hcalls]; rfl, ?_⟩
  · rintro (hr | ⟨he, -⟩)
    · exact hno _ ((refersTo_fromNmData hname).mp hr)
    · exact hne he
  · rintro (hr | ⟨he, -⟩)
    · exact hno _ ((refersTo_optionsOf hname hcalls).mp hr)
    · exact hne he

/-- A file with one inline blob, for whose stored path the exporter would write an option, and no
emitter refers to it. -/
def Lost (env : ImportEnv) (text name : String) : Prop :=
  ∃ data, ovpnTextToConnection env text = .ok data ∧ data name = some (env.blobPath name) ∧
    exportsPath (get data "connection-type") name = true ∧
    ¬Named name (env.blobPath name) (fromNmData data).directives ∧
    ∃ profile, buildProfileString data = .ok profile ∧
      ¬Named name (env.blobPath name) (optionsOf profile)

/-- The files of an inline static key, of a `tls-auth` key and of a revocation list are lost. -/
theorem blobs_lost : Lost sampleEnv "remote gw\n<secret>\nkey\n</secret>\n" "secret" ∧
    Lost sampleEnv "remote gw\n<tls-auth>\nkey\n</tls-auth>\n" "tls-auth" ∧
    Lost sampleEnv "remote gw\n<crl-verify>\ncrl\n</crl-verify>\n" "crl-verify" := by
  have hremote : ∀ x, x ∈ [Directive.blob "secret" "key\n", .blob "tls-auth" "key\n",
      .blob "crl-verify" "crl\n"] →
      get (connectionData sampleEnv ⟨[.option "remote" ["gw"], x]⟩) "remote" = some "gw" := by
    decide
  refine ⟨⟨connectionData sampleEnv ⟨[.option "remote" ["gw"], .blob "secret" "key\n"]⟩, by rfl,
      by decide, by decide, not_named_of_pathFor (by decide) (by decide)
        (by decide) (hremote _ (by decide))⟩,
    ⟨connectionData sampleEnv ⟨[.option "remote" ["gw"], .blob "tls-auth" "key\n"]⟩, by rfl,
      by decide, by decide, not_named_of_pathFor (by decide) (by decide)
        (by decide) (hremote _ (by decide))⟩,
    ⟨connectionData sampleEnv ⟨[.option "remote" ["gw"], .blob "crl-verify" "crl\n"]⟩, by rfl,
      by decide, by decide, not_named_of_pathFor (by decide) (by decide)
        (by decide) (hremote _ (by decide))⟩⟩

end Agreement

end NmOpenvpn3
