import NmOpenvpn3.ImportExport.Imported

/-!
# Repeated options

A file may repeat an option, and the last occurrence should decide. The import loop lets the last
*write* of each key decide instead, and an occurrence need not write every key that another
occurrence of the same option writes. So a part of an overridden occurrence survives exactly when it
is the last directive of all to give a key, and gives it something new: `keepLast_import_iff`.
-/

namespace NmOpenvpn3

namespace ImportExport

open Rust Ovpn

/-! ## What an option gives -/

/-- A key with a value that may be there. -/
def entry (k : String) (v : Option String) : List (String × String) :=
  (v.map fun v ↦ (k, v)).toList

/-- The keys that an arm gives, with their values. The lists are not values. -/
def Arm.entries (args : List String) : Arm → List (String × String)
  | .ignored | .authUserPass | .keyDirection | .remote | .route => []
  | .value k => entry k args[0]?
  | .valueOr k v => [(k, args[0]?.getD v)]
  | .flag k => [(k, "yes")]
  | .proto =>
    if args[0]?.any fun p ↦ !"udp".toList.isPrefixOf p.toList then [("proto-tcp", "yes")] else []
  | .compLzo =>
    [("comp-lzo", if args[0]?.getD "yes" = "no" then "no-by-default" else args[0]?.getD "yes")]
  | .verifyX509Name => [("verify-x509-name", x509Value args)]
  | .tlsVersionMin =>
    entry "tls-version-min" args[0]? ++
      if args[1]? = some "or-highest" then [("tls-version-min-or-highest", "yes")] else []
  | .ca => entry "ca" args[0]?
  | .cert => entry "cert" args[0]?
  | .key => entry "key" args[0]?
  | .pkcs12 => entry "ca" args[0]? ++ entry "cert" args[0]? ++ entry "key" args[0]?
  | .secret => entry "static-key" args[0]? ++ entry "static-key-direction" args[1]?
  | .tlsAuth => entry "ta" args[0]? ++ entry "ta-dir" args[1]?
  | .crlVerify => entry (crlVerifyKey args) args[0]?
  | .httpProxy =>
    match args with
    | [] => []
    | server :: rest => [("proxy-type", "http"), ("proxy-server", server)] ++
        entry "proxy-port" rest[0]? ++ entry "http-proxy-auth-file" rest[1]?
  | .socksProxy =>
    match args with
    | [] => []
    | server :: rest =>
      [("proxy-type", "socks"), ("proxy-server", server)] ++ entry "proxy-port" rest[0]?
  | .ifconfig =>
    match args with
    | l :: r :: _ => [("local-ip", l), ("remote-ip", r)]
    | _ => []
  | .keepalive =>
    match args with
    | a :: b :: _ => [("ping", a), ("ping-restart", b)]
    | _ => []

/-- What a directive gives for a key. -/
def given (k : String) : Directive → Option String
  | .blob _ _ => none
  | .option name args => (importArms.lookup name).bind fun arm ↦ (arm.entries args).lookup k

theorem lookup_cons_eq (k k' v : String) (l : List (String × String)) :
    ((k', v) :: l).lookup k = if k = k' then some v else l.lookup k := by
  rw [List.lookup_cons]
  by_cases hk : k = k'
  · rw [if_pos hk, beq_iff_eq.mpr hk]
  · rw [if_neg hk, beq_eq_false_iff_ne.mpr hk]

theorem lookup_entry_append (k k' : String) (v : Option String) (l : List (String × String)) :
    (entry k' v ++ l).lookup k = if k = k' then v.or (l.lookup k) else l.lookup k := by
  cases v with
  | none => simp [entry]
  | some v => exact lookup_cons_eq k k' v l

theorem lookup_entry (k k' : String) (v : Option String) :
    (entry k' v).lookup k = if k = k' then v else none := by
  have := lookup_entry_append k k' v []
  rwa [List.append_nil, List.lookup_nil, Option.or_none] at this

theorem setOpt_eq_ite (data : VpnData) (k k' : String) (v : Option String) :
    data.setOpt k' v k = if k = k' then v.or (data k) else data k := by
  by_cases hk : k = k'
  · rw [if_pos hk, hk, Dict.setOpt_self]
  · rw [if_neg hk, Dict.setOpt_of_ne hk]

/-- What an arm stores is what it gives. -/
theorem Arm.apply_data_eq_entries {k : String} (hk : k ∉ listKeys) (arm : Arm)
    (args : List String) : (arm.apply args .init).data k = (arm.entries args).lookup k := by
  simp only [listKeys, List.mem_cons, List.not_mem_nil, or_false, not_or] at hk
  cases arm with
  | ignored | authUserPass | keyDirection => rfl
  | remote => simp [apply, entries, Dict.insert_of_ne hk.1, ImportState.init]
  | route => simp [apply, entries, Dict.insert_of_ne hk.2, ImportState.init]
  | value | ca | cert | key | crlVerify =>
    simp [apply, entries, setOpt_eq_ite, lookup_entry, ImportState.init]
  | valueOr | flag | compLzo | verifyX509Name =>
    simp [apply, entries, Dict.insert, ImportState.init]
  | tlsVersionMin =>
    simp only [apply, entries, setOpt_eq_ite, lookup_entry_append, ImportState.init]
    grind [lookup_cons_eq, Dict.empty]
  | pkcs12 | secret | tlsAuth =>
    simp only [apply, entries, setOpt_eq_ite, lookup_entry_append, lookup_entry, ImportState.init,
      List.append_assoc]
    grind [Dict.empty]
  | proto =>
    simp only [apply, entries]
    cases args[0]? with
    | none => rfl
    | some p =>
      simp only [Option.any_some, Bool.not_eq_eq_eq_not, Bool.not_true]
      cases "udp".toList.isPrefixOf p.toList with
      | true => rfl
      | false => simp [Dict.insert, ImportState.init]
  | httpProxy =>
    rcases args with _ | ⟨server, rest⟩
    · rfl
    · simp only [apply, entries, setOpt_eq_ite, lookup_entry_append, lookup_entry,
        lookup_cons_eq, Dict.insert, ImportState.init, List.getElem?_cons_zero, List.cons_append,
        List.getElem?_cons_succ, List.nil_append]
      grind [Dict.empty]
  | socksProxy =>
    rcases args with _ | ⟨server, rest⟩
    · rfl
    · simp only [apply, entries, setOpt_eq_ite, lookup_entry,
        lookup_cons_eq, Dict.insert, ImportState.init, List.getElem?_cons_zero, List.cons_append,
        List.getElem?_cons_succ, List.nil_append]
      grind [Dict.empty]
  | ifconfig | keepalive =>
    rcases args with _ | ⟨a, _ | ⟨b, rest⟩⟩
    · rfl
    · rfl
    · simp only [apply, entries, lookup_cons_eq, Dict.insert, ImportState.init,
        List.getElem?_cons_zero, List.getElem?_cons_succ]
      grind [Dict.empty]

/-- An arm gives its own keys only. -/
theorem Arm.mem_keys_of_mem_entries {arm : Arm} {args : List String} {p : String × String}
    (h : p ∈ arm.entries args) : p.1 ∈ arm.keys := by
  have hentry : ∀ {k v}, p ∈ entry k v → p.1 = k := by
    intro k v hp
    obtain ⟨v, -, rfl⟩ := Option.map_eq_some_iff.mp (Option.mem_toList.mp hp)
    rfl
  cases arm with
  | ignored | authUserPass | keyDirection | remote | route => cases h
  | value | ca | cert | key => exact List.mem_singleton.mpr (hentry h)
  | valueOr | flag | compLzo | verifyX509Name =>
    exact List.mem_singleton.mpr (congrArg Prod.fst (List.mem_singleton.mp h))
  | proto =>
    rw [entries, List.mem_ite_nil_right] at h
    exact List.mem_singleton.mpr (congrArg Prod.fst (List.mem_singleton.mp h.2))
  | crlVerify =>
    have := hentry h
    rw [crlVerifyKey] at this
    split_ifs at this <;> simp [keys, this]
  | tlsVersionMin =>
    rw [entries, List.mem_append, List.mem_ite_nil_right, List.mem_singleton] at h
    rcases h with h | ⟨-, rfl⟩
    · simp [keys, hentry h]
    · simp [keys]
  | pkcs12 =>
    simp only [entries, List.mem_append] at h
    rcases h with (h | h) | h <;> simp [keys, hentry h]
  | secret | tlsAuth =>
    rw [entries, List.mem_append] at h
    rcases h with h | h <;> simp [keys, hentry h]
  | httpProxy =>
    rcases args with _ | ⟨server, rest⟩
    · cases h
    · simp only [entries, List.mem_append, List.mem_cons, List.not_mem_nil, or_false] at h
      rcases h with ((rfl | rfl) | h) | h
      · simp [keys]
      · simp [keys]
      · simp [keys, hentry h]
      · simp [keys, hentry h]
  | socksProxy =>
    rcases args with _ | ⟨server, rest⟩
    · cases h
    · simp only [entries, List.mem_append, List.mem_cons, List.not_mem_nil, or_false] at h
      rcases h with (rfl | rfl) | h
      · simp [keys]
      · simp [keys]
      · simp [keys, hentry h]
  | ifconfig | keepalive =>
    rcases args with _ | ⟨a, _ | ⟨b, rest⟩⟩
    · cases h
    · cases h
    · simp only [entries, List.mem_cons, List.not_mem_nil, or_false] at h
      rcases h with rfl | rfl <;> simp [keys]

theorem stored_eq_given {k : String} (hk : k ∉ listKeys) (x : Directive) :
    stored k x = given k x := by
  cases x with
  | blob name body => rfl
  | option name args =>
    rw [stored, importDirective, given]
    cases importArms.lookup name with
    | none => rfl
    | some arm => exact Arm.apply_data_eq_entries hk arm args

/-- A list is never given as a value. -/
theorem not_mem_listKeys_of_given {k v : String} {x : Directive} (h : given k x = some v) :
    k ∉ listKeys := by
  have harms : ∀ p ∈ importArms, p.2 = .remote ∨ p.2 = .route ∨ ∀ k ∈ listKeys, k ∉ p.2.keys := by
    decide
  cases x with
  | blob name body => cases h
  | option name args =>
    obtain ⟨arm, hlook, hv⟩ := Option.bind_eq_some_iff.mp h
    obtain ⟨l, l', hl, -⟩ := List.lookup_eq_some_iff.mp hv
    have hmem : (k, v) ∈ arm.entries args := hl ▸ List.mem_append_right _ List.mem_cons_self
    rcases harms _ (mem_of_lookup hlook) with harm | harm | harm
    · obtain rfl : arm = .remote := harm
      cases hmem
    · obtain rfl : arm = .route := harm
      cases hmem
    · exact fun hk ↦ harm k hk (Arm.mem_keys_of_mem_entries hmem)

/-- The connection type is given by no option. -/
theorem given_connectionType (x : Directive) : given "connection-type" x = none := by
  have harms : armsTouching "connection-type" = [] := by decide
  rw [← stored_eq_given (by decide)]
  by_contra hne
  obtain ⟨v, hv⟩ := Option.ne_none_iff_exists'.mp hne
  obtain ⟨_, _, _, -, -, harm, -⟩ := stored_eq_some hv
  rw [harms] at harm
  cases harm

/-! ## The imported map, key by key -/

/-- The direction that a standalone `key-direction` leaves under a key. -/
def resolved (k : String) (ds : List Directive) : Option String :=
  if k = "ta-dir" ∧ ds.any (isOption "tls-auth") = true ∨
      k = "static-key-direction" ∧ ds.any (isOption "tls-auth") = false ∧
        ds.any (fills "secret" "static-key") = true then standaloneDirection ds
  else none

theorem asNmData_eq_or {k : String} (hct : k ≠ "connection-type") (hk : k ∉ listKeys)
    (ds : List Directive) : asNmData ⟨ds⟩ k =
      (ds.reverse.findSome? (given k)).or (resolved k ds) := by
  rw [← funext (stored_eq_given hk)]
  change _ = (lastStored k ds).or (resolved k ds)
  obtain ⟨hta, hstatic⟩ := asNmData_directions ⟨ds⟩
  by_cases h1 : k = "ta-dir"
  · subst h1
    rw [hta]
    congr 1
    simp [resolved]
  · by_cases h2 : k = "static-key-direction"
    · subst h2
      rw [hstatic]
      congr 1
      simp [resolved]
    · rw [asNmData_eq_lastStored (by simp [lateKeys, hct, h1, h2]) hk]
      simp [resolved, h1, h2]

/-! ## Keeping the last occurrence -/

section KeepLast

variable (n : String) (ds : List Directive)

theorem any_isOption_keepLast (m : String) :
    (keepLast (isOption n) ds).any (isOption m) = ds.any (isOption m) := by
  by_cases hm : m = n
  · subst hm
    exact any_keepLast_self ds
  · refine any_keepLast_of_not (fun x hx ↦ ?_) ds
    cases x with
    | blob name body => rfl
    | option name args =>
      obtain rfl : name = m := by simpa [isOption] using hx
      simpa [isOption] using hm

theorem argsOf_keepLast {m : String} (hm : m ≠ n) :
    argsOf m (keepLast (isOption n) ds) = argsOf m ds := by
  rw [← argsOf_filter, filter_keepLast, argsOf_filter]
  intro x hx
  cases x with
  | blob name body => rfl
  | option name args =>
    obtain rfl : name = m := by simpa [isOption] using hx
    simpa [isOption] using hm

/-- A slot stays filled as long as its key stays set. -/
theorem any_fills_keepLast {slot key : String}
    (h : lastStored key (keepLast (isOption n) ds) = lastStored key ds) :
    (keepLast (isOption n) ds).any (fills slot key) = ds.any (fills slot key) := by
  rw [Bool.eq_iff_iff]
  constructor
  · intro hany
    obtain ⟨x, hx, hf⟩ := List.any_eq_true.mp hany
    exact List.any_eq_true.mpr ⟨x, (keepLast_sublist _ ds).mem hx, hf⟩
  · intro hany
    obtain ⟨x, hx, hf⟩ := List.any_eq_true.mp hany
    cases x with
    | blob name body => exact List.any_eq_true.mpr ⟨_, (mem_keepLast_of_not rfl).mpr hx, hf⟩
    | option name args =>
      refine any_fills_of_stored ?_
      rw [h]
      exact lastStored_isSome_iff.mpr ⟨_, hx, hf⟩

/-- The flags stay as long as the keys of the slots do. -/
theorem connectionType_keepLast (h : ∀ k ∈ ["cert", "key", "static-key"],
    lastStored k (keepLast (isOption n) ds) = lastStored k ds) :
    asNmData ⟨keepLast (isOption n) ds⟩ "connection-type" =
      asNmData ⟨ds⟩ "connection-type" := by
  obtain ⟨hcert, hkey, hsecret, -⟩ := importAll_flags ds
  obtain ⟨hcert', hkey', hsecret', -⟩ := importAll_flags (keepLast (isOption n) ds)
  rw [any_fills_keepLast n ds (h "cert" (by decide))] at hcert'
  rw [any_fills_keepLast n ds (h "key" (by decide))] at hkey'
  rw [any_fills_keepLast n ds (h "static-key" (by decide))] at hsecret'
  simp only [asNmData_connectionType, inferConnectionType, hcert, hkey, hsecret, hcert', hkey',
    hsecret', importAll_haveAuthUserPass, any_isOption_keepLast, ite_self]

/-- Nothing of the lists is deleted. -/
theorem lists_keepLast {k : String} (hk : k ∈ listKeys) (hremote : n ≠ "remote")
    (hroute : n ≠ "route") : asNmData ⟨keepLast (isOption n) ds⟩ k = asNmData ⟨ds⟩ k := by
  simp only [listKeys, List.mem_cons, List.not_mem_nil, or_false] at hk
  rcases hk with rfl | rfl
  · rw [asNmData_of_not_mem (by decide), asNmData_of_not_mem (by decide), importAll_data_remote,
      importAll_data_remote, argsOf_keepLast n ds hremote.symm]
  · rw [asNmData_of_not_mem (by decide), asNmData_of_not_mem (by decide), importAll_data_routes,
      importAll_data_routes, argsOf_keepLast n ds hroute.symm]

/-- A validated `key-direction` has its argument, so the last one decides. -/
theorem standaloneDirection_keepLast (h : validateAll ds = .ok ()) :
    standaloneDirection (keepLast (isOption n) ds) = standaloneDirection ds := by
  rcases exposed_or (isOption n) directionOf ds with ⟨pre, v, a, post, rfl, hp, hv, hany, hnone⟩ | h
  · exfalso
    rw [validateAll_eq_ok] at h
    obtain ⟨b, hb, hbn⟩ := List.any_eq_true.mp hany
    have hok := h b (List.mem_append_right _ (List.mem_cons_of_mem _ hb))
    have hno := hnone b hb
    cases a with
    | blob name body => cases hv
    | option name args =>
      obtain rfl : name = n := by simpa [isOption] using hp
      rw [directionOf] at hv
      split_ifs at hv with hname
      cases b with
      | blob name' body => cases hbn
      | option name' args' =>
        obtain rfl : name' = name := by simpa [isOption] using hbn
        subst hname
        cases args' with
        | nil => cases hok
        | cons dir args' => simp [directionOf] at hno
  · exact h

end KeepLast

/-! ## The last occurrence decides -/

/-- What is there for a key without the options of a name: what the directives `pre` of other names
give, or else the direction that a standalone `key-direction` leaves there. -/
def beneath (n k : String) (pre ds : List Directive) : Option String :=
  ((pre.filter fun x ↦ !isOption n x).reverse.findSome? (given k)).or
    (if k = "ta-dir" ∨ k = "static-key-direction" ∧ ds.any (isOption "tls-auth") = false then
      standaloneDirection ds
    else none)

/-- Where an overridden occurrence of an option is the last directive to give a key, the key would
have the same value without it. -/
def NothingSurvives (n : String) (ds : List Directive) : Prop :=
  ∀ k pre v, Exposed (isOption n) (given k) ds pre v → beneath n k pre ds = some v

/-- The direction beneath an exposed one is the one that the import would resolve. -/
theorem beneath_eq_or {n k v : String} {pre ds : List Directive}
    (h : Exposed (isOption n) (given k) ds pre v) : beneath n k pre ds =
      ((keepLast (isOption n) ds).reverse.findSome? (given k)).or (resolved k ds) := by
  rw [h.last_written.2, beneath, resolved]
  congr 1
  obtain ⟨a, post, rfl, -, hv, -, -⟩ := h
  -- What gives a direction is an option with two arguments, which also fills its slot.
  obtain ⟨name, arm, args, rfl, hlook, harm, hd⟩ := stored_eq_some
    ((stored_eq_given (not_mem_listKeys_of_given hv) a).trans hv)
  have hta : k = "ta-dir" →
      (pre ++ .option name args :: post).any (isOption "tls-auth") = true := by
    rintro rfl
    have harms : ∀ q ∈ armsTouching "ta-dir", q.1 = "tls-auth" := by decide
    have hname : name = "tls-auth" := harms _ harm
    simp [isOption, hname]
  have hsecret : k = "static-key-direction" →
      (pre ++ .option name args :: post).any (fills "secret" "static-key") = true := by
    rintro rfl
    have harms : ∀ q ∈ armsTouching "static-key-direction", q.2 = .secret := by decide
    obtain rfl : arm = .secret := harms _ harm
    simp (disch := decide) only [Arm.apply, Dict.setOpt_self, Dict.setOpt_of_ne, ImportState.init,
      Dict.empty_apply, Option.or_none] at hd
    refine List.any_eq_true.mpr
      ⟨_, List.mem_append_right _ List.mem_cons_self, ?_⟩
    rw [fills, stored_option hlook]
    simp (disch := decide) only [Arm.apply, Dict.setOpt_self, Dict.setOpt_of_ne, ImportState.init,
      Dict.empty_apply, Option.or_none]
    cases args with
    | nil => cases hd
    | cons path args => rfl
  refine if_congr ⟨?_, ?_⟩ rfl rfl
  · rintro (hk | ⟨hk, hno⟩)
    · exact .inl ⟨hk, hta hk⟩
    · exact .inr ⟨hk, hno, hsecret hk⟩
  · rintro (⟨hk, -⟩ | ⟨hk, hno, -⟩)
    · exact .inl hk
    · exact .inr ⟨hk, hno⟩

/-- **The last occurrence decides**, exactly where nothing of the overridden ones survives. -/
theorem keepLast_import_iff {text : String} {c : OvpnConfig}
    (hparse : OvpnConfig.parse text = .ok c) {n : String} (hremote : n ≠ "remote")
    (hroute : n ≠ "route") :
    asNmData ⟨keepLast (isOption n) c.directives⟩ = asNmData c ↔
      NothingSurvives n c.directives := by
  have hvalid := validate_of_parse hparse
  obtain ⟨ds⟩ := c
  have hdir := standaloneDirection_keepLast n ds hvalid
  -- As long as the static key stays, the directions are resolved alike.
  have hresolved : ∀ k, lastStored "static-key" (keepLast (isOption n) ds) =
      lastStored "static-key" ds → resolved k (keepLast (isOption n) ds) = resolved k ds := by
    intro k hkey
    simp only [resolved, any_isOption_keepLast, any_fills_keepLast n ds hkey, hdir]
  constructor
  · intro heq k pre v hexp
    obtain ⟨a, -, -, -, hv, -, -⟩ := id hexp
    have hk := not_mem_listKeys_of_given hv
    have hct : k ≠ "connection-type" := by
      rintro rfl
      rw [given_connectionType] at hv
      cases hv
    have hstatic := congrFun heq "static-key"
    rw [asNmData_eq_lastStored (by decide) (by decide),
      asNmData_eq_lastStored (by decide) (by decide)] at hstatic
    have hkey := congrFun heq k
    rw [asNmData_eq_or hct hk, asNmData_eq_or hct hk, hresolved k hstatic, ← beneath_eq_or hexp,
      hexp.last_written.1] at hkey
    exact hkey
  · intro h
    have hkeys : ∀ k, ((keepLast (isOption n) ds).reverse.findSome? (given k)).or (resolved k ds) =
        (ds.reverse.findSome? (given k)).or (resolved k ds) := by
      intro k
      rcases exposed_or (isOption n) (given k) ds with ⟨pre, v, hexp⟩ | hsame
      · rw [← beneath_eq_or hexp, h k pre v hexp, hexp.last_written.1]
        rfl
      · rw [hsame]
    have hplain : ∀ k ∉ listKeys, k ∉ lateKeys →
        lastStored k (keepLast (isOption n) ds) = lastStored k ds := by
      intro k hk hlate
      simp only [lateKeys, List.mem_cons, List.not_mem_nil, or_false, not_or] at hlate
      have := hkeys k
      rw [resolved, if_neg (by simp [hlate]), Option.or_none, Option.or_none,
        ← funext (stored_eq_given hk)] at this
      exact this
    have hstatic := hplain "static-key" (by decide) (by decide)
    ext1 k
    by_cases hct : k = "connection-type"
    · subst hct
      refine connectionType_keepLast n ds fun k hk ↦ hplain k ?_ ?_
      · exact (by decide : ∀ k ∈ ["cert", "key", "static-key"], k ∉ listKeys) k hk
      · exact (by decide : ∀ k ∈ ["cert", "key", "static-key"], k ∉ lateKeys) k hk
    · by_cases hk : k ∈ listKeys
      · exact lists_keepLast n ds hk hremote hroute
      · rw [asNmData_eq_or hct hk, asNmData_eq_or hct hk, hresolved k hstatic, hkeys k]

/-- A key whose direction is overridden by none, next to a standalone direction that says the
same. -/
private def rekeyedConfig : OvpnConfig := ⟨
  [.option "tls-auth" ["old.key", "1"], .option "key-direction" ["1"],
    .option "tls-auth" ["new.key"]]⟩

theorem keepLast_import_rekeyed :
    asNmData ⟨keepLast (isOption "tls-auth") rekeyedConfig.directives⟩ =
      asNmData rekeyedConfig := by
  refine (keepLast_import_iff
    (show OvpnConfig.parse "tls-auth old.key 1\nkey-direction 1\ntls-auth new.key\n" =
      .ok rekeyedConfig by decide) (by decide) (by decide)).mpr ?_
  rintro k pre v ⟨a, post, hl, hp, hv, hany, hnone⟩
  rcases pre with _ | ⟨x, _ | ⟨y, _ | ⟨z, pre⟩⟩⟩
  · obtain ⟨rfl, rfl⟩ := List.cons.inj hl
    have hold : given k (.option "tls-auth" ["old.key", "1"]) =
        if k = "ta" then some "old.key" else if k = "ta-dir" then some "1" else none :=
      (lookup_entry_append k "ta" _ _).trans (by rw [lookup_entry]; rfl)
    have hnew : given k (.option "tls-auth" ["new.key"]) =
        if k = "ta" then some "new.key" else if k = "ta-dir" then none else none :=
      (lookup_entry_append k "ta" _ _).trans (by rw [lookup_entry]; rfl)
    rw [hnone _ (by decide)] at hnew
    rw [hold] at hv
    split_ifs at hv hnew with hta hdir
    obtain rfl := hdir
    obtain rfl := Option.some_inj.mp hv
    decide
  · obtain ⟨-, hl⟩ := List.cons.inj hl
    obtain ⟨rfl, rfl⟩ := List.cons.inj hl
    cases hp
  · obtain ⟨-, hl⟩ := List.cons.inj hl
    obtain ⟨-, hl⟩ := List.cons.inj hl
    obtain ⟨rfl, rfl⟩ := List.cons.inj hl
    cases hany
  · have := congrArg List.length hl
    simp [rekeyedConfig] at this

/-- The protocol of an overridden `proto` survives. -/
theorem keepLast_import_proto :
    OvpnConfig.parse "proto tcp\nproto udp\n" =
        .ok ⟨[.option "proto" ["tcp"], .option "proto" ["udp"]]⟩ ∧
      keepLast (isOption "proto") [.option "proto" ["tcp"], .option "proto" ["udp"]] =
        [.option "proto" ["udp"]] ∧
      asNmData ⟨[.option "proto" ["tcp"], .option "proto" ["udp"]]⟩ "proto-tcp" = some "yes" ∧
      asNmData ⟨[.option "proto" ["udp"]]⟩ "proto-tcp" = none := by
  decide

end ImportExport

end NmOpenvpn3
