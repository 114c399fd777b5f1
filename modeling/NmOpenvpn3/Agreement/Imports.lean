import NmOpenvpn3.Agreement.Emitters
import NmOpenvpn3.ImportExport.Lists

/-!
# Agreement on imported profiles

Whether the two emitters agree on everything that was imported. The PKCS#12 edge was taken to be out
of reach of an import, because the `pkcs12` option sets the certificate authority, the certificate
and the key together. But `cert` and `key` may name a bundle themselves: `imported_agree_iff` says
for which texts the emitters agree, and the last section shows a text for which they do not.
-/

namespace NmOpenvpn3

namespace Agreement

open Rust Ovpn ImportExport Service

/-! ## Effective arguments -/

/-- How an option gives a value: by an argument, which may have a default. -/
inductive ArgRead where
  | nth (i : ℕ)
  | nthOr (i : ℕ) (default : String)
  deriving DecidableEq

def ArgRead.read (args : List String) : ArgRead → Option String
  | .nth i => args[i]?
  | .nthOr i v => some (args[i]?.getD v)

/-- The value that the last of several options gives. -/
def lastOf (reads : List (String × ArgRead)) (ds : List Directive) : Option String :=
  ds.reverse.findSome? fun
    | .option name args => (reads.lookup name).bind (ArgRead.read args)
    | .blob _ _ => none

/-- The options that name a certificate authority, a certificate or a key. -/
def bundleReads (name : String) : List (String × ArgRead) := [(name, .nth 0), ("pkcs12", .nth 0)]

/-- The options that give the integers, by their keys. -/
def intReads : List (String × List (String × ArgRead)) :=
  [("reneg-seconds", [("reneg-sec", .nth 0)]),
   ("max-routes", []),
   ("keysize", [("keysize", .nth 0)]),
   ("tunnel-mtu", [("tun-mtu", .nth 0)]),
   ("connect-timeout", [("connect-timeout", .nth 0), ("server-poll-timeout", .nth 0)]),
   ("fragment-size", [("fragment", .nth 0)]),
   ("port", [("port", .nth 0)]),
   ("ping", [("ping", .nth 0), ("keepalive", .nth 0)]),
   ("ping-exit", [("ping-exit", .nth 0)]),
   ("ping-restart", [("ping-restart", .nth 0), ("keepalive", .nth 1)])]

/-- The option that gives `mssfix`. -/
def mssfixReads : List (String × ArgRead) := [("mssfix", .nthOr 0 "yes")]

/-- All of these, by the keys they are stored under. -/
def readTable : List (String × List (String × ArgRead)) :=
  [("ca", bundleReads "ca"), ("cert", bundleReads "cert"), ("key", bundleReads "key"),
    ("mssfix", mssfixReads)] ++ intReads

/-- How an arm reads what it stores under a key. -/
def readOf (k : String) : Arm → Option ArgRead
  | .value _ | .ca | .cert | .key | .pkcs12 => some (.nth 0)
  | .valueOr _ v => some (.nthOr 0 v)
  | .keepalive => some (.nth (if k = "ping" then 0 else 1))
  | _ => none

theorem read_of_readOf {k : String} {arm : Arm} {r : ArgRead} (h : readOf k arm = some r)
    (hk : k ∈ arm.keys) {args : List String} (hkeep : arm = .keepalive → args[1]?.isSome) :
    (arm.apply args .init).data k = r.read args := by
  cases arm with
  | value k' | ca | cert | key =>
    obtain rfl := Option.some_inj.mp h
    obtain rfl : k = _ := by simpa [Arm.keys] using hk
    simp [Arm.apply, Dict.setOpt_self, ImportState.init, ArgRead.read]
  | valueOr k' v =>
    obtain rfl := Option.some_inj.mp h
    obtain rfl : k = k' := by simpa [Arm.keys] using hk
    simp [Arm.apply, ArgRead.read]
  | pkcs12 =>
    obtain rfl := Option.some_inj.mp h
    simp only [Arm.keys, List.mem_cons, List.not_mem_nil, or_false] at hk
    rcases hk with rfl | rfl | rfl <;>
      simp (disch := decide) [Arm.apply, Dict.setOpt_self, Dict.setOpt_of_ne, ImportState.init,
        ArgRead.read]
  | keepalive =>
    obtain rfl := Option.some_inj.mp h
    obtain ⟨b, hb⟩ := Option.isSome_iff_exists.mp (hkeep rfl)
    obtain ⟨a, ha⟩ : ∃ a, args[0]? = some a := by
      cases args with
      | nil => simp at hb
      | cons a args => exact ⟨a, rfl⟩
    simp only [Arm.keys, List.mem_cons, List.not_mem_nil, or_false] at hk
    rcases hk with rfl | rfl <;>
      simp (disch := decide) [Arm.apply, Dict.insert_of_ne, ha, hb, ArgRead.read]
  | ignored | authUserPass | flag | proto | remote | compLzo | verifyX509Name | tlsVersionMin |
    secret | tlsAuth | keyDirection | crlVerify | httpProxy | socksProxy | ifconfig | route =>
    cases h

/-- An option stores under a key of the table what the table reads from its arguments. -/
theorem stored_option_eq {k : String} {reads : List (String × ArgRead)}
    (htable : (k, reads) ∈ readTable) {name : String} {args : List String}
    (hkeep : name = "keepalive" → args[1]?.isSome) :
    stored k (.option name args) = (reads.lookup name).bind (ArgRead.read args) := by
  have hnames : ∀ p ∈ readTable, ∀ r ∈ p.2,
      (importArms.lookup r.1).any (·.keys.contains p.1) = true := by decide
  have harms : ∀ p ∈ readTable, ∀ q ∈ armsTouching p.1,
      readOf p.1 q.2 = p.2.lookup q.1 ∧ (p.2.lookup q.1).isSome ∧
        (q.2 = .keepalive → q.1 = "keepalive") := by decide
  by_cases hq : ∃ arm, importArms.lookup name = some arm ∧ k ∈ arm.keys
  · obtain ⟨arm, hlook, hk⟩ := hq
    obtain ⟨hread, hsome, hka⟩ := harms _ htable (name, arm)
      (List.mem_filter.mpr ⟨mem_of_lookup hlook, by simpa using hk⟩)
    obtain ⟨r, hr⟩ := Option.isSome_iff_exists.mp hsome
    simp only at hread hr
    rw [hr] at hread
    rw [stored_option hlook, hr, Option.bind_some]
    exact read_of_readOf hread hk fun he ↦ hkeep (hka he)
  · -- No arm of this option touches the key, so the table does not read it either.
    have hnone : reads.lookup name = none := by
      by_contra hne
      obtain ⟨r, hr⟩ := Option.ne_none_iff_exists'.mp hne
      obtain ⟨l, l', hl, -⟩ := List.lookup_eq_some_iff.mp hr
      have hmem : (name, r) ∈ reads := hl ▸ List.mem_append_right _ List.mem_cons_self
      obtain ⟨arm, hlook, hk⟩ := (Option.any_eq_true ..).mp (hnames _ htable _ hmem)
      exact hq ⟨arm, hlook, by simpa using hk⟩
    rw [hnone, Option.bind_none]
    by_contra hne
    obtain ⟨v, hv⟩ := Option.ne_none_iff_exists'.mp hne
    obtain ⟨name', arm, args', he, hlook, harm, -⟩ := stored_eq_some hv
    obtain ⟨rfl, -⟩ := Directive.option.inj he
    exact hq ⟨arm, hlook, by simpa using (List.mem_filter.mp harm).2⟩

/-- **What is stored last is what the last of the options gives.** -/
theorem lastStored_eq_lastOf {k : String} {reads : List (String × ArgRead)}
    (htable : (k, reads) ∈ readTable) {ds : List Directive}
    (hkeep : ∀ args, .option "keepalive" args ∈ ds → args[1]?.isSome) :
    lastStored k ds = lastOf reads ds := by
  have hone : ∀ x ∈ ds, stored k x = match x with
      | .option name args => (reads.lookup name).bind (ArgRead.read args)
      | .blob _ _ => none := by
    intro x hx
    cases x with
    | blob name body => rfl
    | option name args =>
      refine stored_option_eq htable ?_
      rintro rfl
      exact hkeep args hx
  rw [lastStored, lastOf]
  exact findSome?_congr fun x hx ↦ hone x (List.mem_reverse.mp hx)

/-! ## The condition -/

/-- An option or an inline blob that sets a static key. -/
def setsSecret : Directive → Bool
  | .blob name _ => name == "secret"
  | .option name args => name == "secret" && !args.isEmpty

/-- A certificate and a key in one bundle, given by options other than the ones that give the
certificate authority, and no static key beside them. -/
structure SplitBundle (ds : List Directive) : Prop where
  noSecret : ∀ x ∈ ds, setsSecret x = false
  bundle : ∃ p, lastOf (bundleReads "cert") ds = some p ∧ lastOf (bundleReads "key") ds = some p ∧
    isPkcs12Path p = true ∧ lastOf (bundleReads "ca") ds ≠ some p

/-- The integers in effect parse, and `mssfix` is a flag or what an integer prints. For canonical
decimal integers this asks only that an `i64` holds them. -/
structure IntsParse (ds : List Directive) : Prop where
  keys : ∀ p ∈ intReads, ∀ v, lastOf p.2 ds = some v → v ≠ "" → (parseI64 v).isSome
  mssfix : ∀ v, lastOf mssfixReads ds = some v → v ≠ "" →
    v = "yes" ∨ ∃ n, parseI64 v = some n ∧ toString n = v

section Imported

variable {c : OvpnConfig} (hvalid : c.validate = .ok ())

include hvalid

/-- A validated `keepalive` has both of its arguments. -/
theorem keepalive_args {args : List String} (h : .option "keepalive" args ∈ c.directives) :
    args[1]?.isSome := by
  rw [OvpnConfig.validate, validateAll_eq_ok] at hvalid
  have hok := hvalid _ h
  rcases args with _ | ⟨a, _ | ⟨b, args⟩⟩
  · cases hok
  · cases hok
  · rfl

/-- The imported value of a key of the table. -/
theorem asNmData_eq_lastOf {k : String} {reads : List (String × ArgRead)}
    (htable : (k, reads) ∈ readTable) : asNmData c k = lastOf reads c.directives := by
  have hside : ∀ p ∈ readTable, p.1 ∉ lateKeys ∧ p.1 ∉ listKeys := by decide
  obtain ⟨h1, h2⟩ := hside _ htable
  rw [asNmData_eq_lastStored h1 h2]
  exact lastStored_eq_lastOf htable fun args h ↦ keepalive_args hvalid h

theorem intsKept_asNmData_iff : IntsKept (asNmData c) ↔ IntsParse c.directives := by
  have hmss : asNmData c "mssfix" = lastOf mssfixReads c.directives :=
    asNmData_eq_lastOf hvalid (by decide)
  have hint : ∀ p ∈ intReads, asNmData c p.1 = lastOf p.2 c.directives :=
    fun p hp ↦ asNmData_eq_lastOf hvalid (List.mem_append_right _ hp)
  constructor
  · rintro ⟨hkeys, hmssfix⟩
    refine ⟨fun p hp v hv hne ↦ ?_, fun v hv hne ↦ ?_⟩
    · have hk : p.1 ∈ intKeys := (by decide : ∀ p ∈ intReads, p.1 ∈ intKeys) p hp
      exact hkeys p.1 hk v (get_eq_some.mpr ⟨(hint p hp).trans hv, hne⟩)
    · exact hmssfix v (get_eq_some.mpr ⟨hmss.trans hv, hne⟩)
  · rintro ⟨hkeys, hmssfix⟩
    refine ⟨fun k hk v hv ↦ ?_, fun v hv ↦ ?_⟩
    · obtain ⟨p, hp, rfl⟩ : ∃ p ∈ intReads, p.1 = k :=
        (by decide : ∀ k ∈ intKeys, ∃ p ∈ intReads, p.1 = k) k hk
      obtain ⟨hd, hne⟩ := get_eq_some.mp hv
      exact hkeys p hp v ((hint p hp).symm.trans hd) hne
    · obtain ⟨hd, hne⟩ := get_eq_some.mp hv
      exact hmssfix v (hmss.symm.trans hd) hne

omit hvalid

theorem fills_secret (x : Directive) : fills "secret" "static-key" x = setsSecret x := by
  cases x with
  | blob name body => rfl
  | option name args =>
    by_cases hname : name = "secret"
    · subst hname
      rw [fills, stored_option (show importArms.lookup "secret" = some .secret by decide),
        setsSecret]
      simp (disch := decide) only [Arm.apply, Dict.setOpt_of_ne, Dict.setOpt_self, ImportState.init,
        Dict.empty_apply, Option.or_none]
      cases args <;> rfl
    · rw [fills, setsSecret, beq_eq_false_iff_ne.mpr hname, Bool.false_and,
        Option.isSome_eq_false_iff, Option.isNone_iff_eq_none]
      have harms : ∀ q ∈ armsTouching "static-key", q.1 = "secret" := by decide
      exact stored_option_eq_none (fun q hq he ↦ hname (he.symm.trans (harms q hq))) args

/-- With a certificate and a key the connection is a TLS connection, unless there is a static
key. -/
theorem connectionType_iff (hcert : (asNmData c "cert").isSome) (hkey : (asNmData c "key").isSome) :
    (get (asNmData c) "connection-type" = some "tls" ∨
      get (asNmData c) "connection-type" = some "password-tls") ↔
        ∀ x ∈ c.directives, setsSecret x = false := by
  obtain ⟨hc, hk, hs, -⟩ := importAll_flags c.directives
  rw [asNmData_eq_lastStored (by decide) (by decide)] at hcert hkey
  rw [any_fills_of_stored hcert] at hc
  rw [any_fills_of_stored hkey] at hk
  rw [funext fills_secret] at hs
  rw [Ovpn.get, asNmData_connectionType, inferConnectionType, hc, hk, hs]
  by_cases hany : c.directives.any setsSecret = true
  · -- A static key comes before everything else.
    rw [if_pos hany]
    obtain ⟨x, hx, hsx⟩ := List.any_eq_true.mp hany
    refine iff_of_false (by decide) fun hno ↦ ?_
    rw [hno x hx] at hsx
    cases hsx
  · rw [if_neg hany]
    refine iff_of_true ?_ fun x hx ↦ ?_
    · cases (importAll .init c.directives).haveAuthUserPass
      · exact .inl rfl
      · exact .inr rfl
    · by_contra hsx
      exact hany (List.any_eq_true.mpr ⟨x, hx, Bool.not_eq_false _ ▸ hsx⟩)

include hvalid

/-- The edge of the imported map, seen on the options. -/
theorem pkcs12Edge_asNmData_iff : Pkcs12Edge (asNmData c) ↔ SplitBundle c.directives := by
  have hread : ∀ name ∈ ["ca", "cert", "key"],
      asNmData c name = lastOf (bundleReads name) c.directives := by
    intro name hname
    refine asNmData_eq_lastOf hvalid ?_
    simp only [List.mem_cons, List.not_mem_nil, or_false] at hname
    rcases hname with rfl | rfl | rfl <;> decide
  -- The path of a bundle is never empty, so that a lookup does not drop it.
  have hget : ∀ name ∈ ["ca", "cert", "key"], ∀ p, isPkcs12Path p = true →
      (get (asNmData c) name = some p ↔ lastOf (bundleReads name) c.directives = some p) := by
    intro name hname p hp
    rw [get_eq_some, hread name hname]
    exact and_iff_left (ne_empty_of_isPkcs12Path hp)
  have hsome : ∀ {name p}, get (asNmData c) name = some p → (asNmData c name).isSome := by
    intro name p h
    rw [(get_eq_some.mp h).1]
    rfl
  constructor
  · rintro ⟨hct, p, hcert, hkey, hp, hca⟩
    exact ⟨(connectionType_iff (hsome hcert) (hsome hkey)).mp hct, p,
      (hget "cert" (by decide) p hp).mp hcert, (hget "key" (by decide) p hp).mp hkey, hp,
      fun h ↦ hca ((hget "ca" (by decide) p hp).mpr h)⟩
  · rintro ⟨hsecret, p, hcert, hkey, hp, hca⟩
    have hcert' := (hget "cert" (by decide) p hp).mpr hcert
    have hkey' := (hget "key" (by decide) p hp).mpr hkey
    exact ⟨(connectionType_iff (hsome hcert') (hsome hkey')).mpr hsecret, p, hcert', hkey', hp,
      fun h ↦ hca ((hget "ca" (by decide) p hp).mp h)⟩

omit hvalid in
/-- A remote with a host is an entry of the imported list. -/
theorem exists_remote (hremote : ∃ args, .option "remote" args ∈ c.directives ∧
    ∃ host, args[0]? = some host ∧ host ≠ "") :
    ∃ gateways, get (asNmData c) "remote" = some gateways := by
  obtain ⟨args, hx, host, hhost, hne⟩ := hremote
  have hitem : ∃ item ∈ (argsOf "remote" c.directives).map remoteEntry, item ≠ "" :=
    ⟨remoteEntry args, List.mem_map_of_mem (mem_argsOf.mpr hx), remoteEntry_ne_empty hhost hne⟩
  obtain ⟨v, hv, hvne⟩ := exists_appendAll
    (show (∃ e, none = some e ∧ e ≠ "") ∨ _ from .inr hitem)
  refine ⟨v, get_eq_some.mpr ⟨?_, hvne⟩⟩
  rw [asNmData_of_not_mem (by decide), importAll_data_remote, hv]

end Imported

/-! ## Agreement -/

/-- The profile is built, and both texts parse to the same multiset of directives. -/
def SameDirectives (data : VpnData) : Prop :=
  ∃ profile ds ds', buildProfileString data = .ok profile ∧ ParsesTo profile ds ∧
    ParsesTo (fromNmData data).emit ds' ∧ ds.Perm ds'

/-- For a map with a remote whose export is valid, this is the condition of
`directives_perm_iff`. -/
theorem sameDirectives_iff {data : VpnData}
    (hremote : ∃ gateways, get data "remote" = some gateways)
    (hexport : (fromNmData data).validate = .ok ()) :
    SameDirectives data ↔ ¬Pkcs12Edge data ∧ IntsKept data := by
  obtain ⟨gateways, hg⟩ := hremote
  obtain ⟨calls, hcalls, -⟩ := writerCalls_of_remote hg
  have hbuild : buildProfileString data = .ok (writeAll calls) := by
    rw [buildProfileString, hcalls]
    rfl
  rw [← directives_perm_iff hcalls]
  constructor
  · -- What the texts parse to is what was written to them.
    rintro ⟨profile, ds, ds', hprofile, hds, hds', hperm⟩
    obtain rfl : writeAll calls = profile := Except.ok.inj (hbuild.symm.trans hprofile)
    rw [ParsesTo, parse_writeAll hcalls] at hds
    rw [ParsesTo, parse_emit (isOrdinary_fromNmData _), hexport] at hds'
    have hd' : (fromNmData data).directives = ds' :=
      congrArg OvpnConfig.directives (Except.ok.inj hds')
    have hd : calls.map WriterCall.directive = ds := by
      cases hv : OvpnConfig.validate ⟨calls.map WriterCall.directive⟩ with
      | error e => simp [hv, Except.map] at hds
      | ok u =>
        rw [hv] at hds
        exact congrArg OvpnConfig.directives (Except.ok.inj hds)
    rwa [hd, hd']
  · -- The validation does not look at the order, so the profile is as valid as the export.
    intro hperm
    have hconnect : OvpnConfig.validate ⟨calls.map WriterCall.directive⟩ = .ok () :=
      (validateAll_perm hperm).mpr hexport
    refine ⟨writeAll calls, _, _, hbuild, ?_, ?_, hperm⟩
    · rw [ParsesTo, parse_writeAll hcalls, hconnect]
      rfl
    · rw [ParsesTo, parse_emit (isOrdinary_fromNmData _), hexport]
      rfl

/-- **Agreement on what was imported**: after importing a text that names a remote, both emitters
write the same multiset of directives exactly when the text does not split a bundle and its integers
parse. -/
theorem imported_agree_iff {text : String} {c : OvpnConfig}
    (hparse : OvpnConfig.parse text = .ok c)
    (hremote : ∃ args, .option "remote" args ∈ c.directives ∧
      ∃ host, args[0]? = some host ∧ host ≠ "") :
    SameDirectives (asNmData c) ↔ ¬SplitBundle c.directives ∧ IntsParse c.directives := by
  have hvalid := validate_of_parse hparse
  rw [sameDirectives_iff (exists_remote hremote)
      (validate_fromNmData (passesGates_asNmData hvalid)),
    pkcs12Edge_asNmData_iff hvalid, intsKept_asNmData_iff hvalid]

/-- A profile whose bundle is imported by the `pkcs12` option. -/
private def bundleText : String :=
  "client\nremote vpn.example.org\npkcs12 user.p12\nkeepalive 10 60\n"

private def bundleConfig : OvpnConfig := ⟨
  [.option "client" [], .option "remote" ["vpn.example.org"], .option "pkcs12" ["user.p12"],
    .option "keepalive" ["10", "60"]]⟩

theorem imported_agree_bundleText : SameDirectives (asNmData bundleConfig) := by
  refine (imported_agree_iff
    (show OvpnConfig.parse bundleText = .ok bundleConfig by decide)
    ⟨["vpn.example.org"], by decide, "vpn.example.org", rfl, by decide⟩).mpr ⟨?_, ?_, ?_⟩
  · rintro ⟨-, p, hcert, -, -, hca⟩
    have : lastOf (bundleReads "ca") bundleConfig.directives =
        lastOf (bundleReads "cert") bundleConfig.directives := by decide
    exact hca (this.trans hcert)
  · have hall : ∀ p ∈ intReads, lastOf p.2 bundleConfig.directives = none ∨
        lastOf p.2 bundleConfig.directives = some "10" ∨
        lastOf p.2 bundleConfig.directives = some "60" := by decide
    intro p hp v hv _
    rcases hall p hp with h | h | h <;> rw [h] at hv <;> cases hv <;> decide
  · intro v hv
    have hnone : lastOf mssfixReads bundleConfig.directives = none := by decide
    rw [hnone] at hv
    cases hv

/-- A profile that names the bundle by `cert` and `key`, without a certificate authority. -/
private def splitConfig : OvpnConfig := ⟨
  [.option "client" [], .option "remote" ["vpn.example.org"], .option "cert" ["user.p12"],
    .option "key" ["user.p12"]]⟩

theorem imported_disagree_splitConfig :
    OvpnConfig.parse "client\nremote vpn.example.org\ncert user.p12\nkey user.p12\n" =
      .ok splitConfig ∧ ¬SameDirectives (asNmData splitConfig) := by
  have hparse : OvpnConfig.parse
      "client\nremote vpn.example.org\ncert user.p12\nkey user.p12\n" = .ok splitConfig := by
    decide
  have hremote : get (asNmData splitConfig) "remote" = some "vpn.example.org" := by decide
  refine ⟨hparse, ?_⟩
  rw [sameDirectives_iff ⟨_, hremote⟩
    (validate_fromNmData (passesGates_asNmData (validate_of_parse hparse)))]
  exact fun h ↦ h.1 ⟨.inl (by decide), "user.p12", by decide, by decide,
    by decide, by decide⟩

end Agreement

end NmOpenvpn3
