import NmOpenvpn3.ImportExport.Lists

/-!
# Saving an imported connection

An imported connection that is saved to a file and imported again is the same connection, up to the
keys that its connection type or its compression setting keeps out of the file.

`WellImported` collects what holds of every imported map: which values the keys can have and which
keys come together. It is the invariant between the two halves of the argument: the import
establishes it (`wellImported_asNmData`), and every map with it survives an export and an import
(`kept_of_wellImported`).
-/

namespace NmOpenvpn3

namespace Agreement

open Rust Ovpn ImportExport

/-! ## The configs -/

/-- The characters of a host. -/
def isHostChar (c : Char) : Bool :=
  isAsciiAlphanumeric c || c == '.' || c == '-' || c == '_' || c == ':'

/-- The characters of a port or a protocol. -/
def isPortChar (c : Char) : Bool := isAsciiAlphanumeric c || c == '-'

/-- A config without inline blobs whose arguments are all there. The options that the importer
ignores may be repeated, as may `remote` and `route`. -/
structure Plain (c : OvpnConfig) : Prop where
  options : ∀ x ∈ c.directives, ∃ name args, x = .option name args
  args : ∀ name args, .option name args ∈ c.directives → ∀ a ∈ args, a ≠ ""
  once : ∀ p ∈ importArms, p.2 ≠ .ignored → p.1 ≠ "remote" → p.1 ≠ "route" →
    (argsOf p.1 c.directives).length ≤ 1
  hasArg : ∀ name ∈ ["remote", "verify-x509-name", "tls-auth"],
    ∀ args, .option name args ∈ c.directives → args ≠ []
  host : ∀ args, .option "remote" args ∈ c.directives →
    ∀ h, args[0]? = some h → ∀ c ∈ h.toList, isHostChar c = true
  port : ∀ args, .option "remote" args ∈ c.directives →
    ∀ i ∈ [1, 2], ∀ p, args[i]? = some p → ∀ c ∈ p.toList, isPortChar c = true
  route : ∀ args, .option "route" args ∈ c.directives →
    ∀ a ∈ args, ∀ c ∈ a.toList, isRouteArgChar c = true

/-! ## What holds of an imported map -/

/-- The keys that are switches. -/
def switchKeys : List String :=
  ["remote-random", "remote-random-hostname", "allow-pull-fqdn", "tun-ipv6", "push-peer-info",
    "float", "proto-tcp", "tls-version-min-or-highest"]

/-- The keys that come with another one. -/
def impliedKeys : List (String × String) :=
  [("static-key-direction", "static-key"), ("ta-dir", "ta"),
    ("tls-version-min-or-highest", "tls-version-min"), ("local-ip", "remote-ip"),
    ("remote-ip", "local-ip"), ("proxy-type", "proxy-server"), ("proxy-server", "proxy-type"),
    ("proxy-port", "proxy-type")]

/-- The connection type that fits the keys of a map. -/
def TypeFits (d : VpnData) (ct : String) : Prop :=
  if (d "static-key").isSome then ct = "static-key"
  else if (d "cert").isSome ∧ (d "key").isSome then ct = "tls" ∨ ct = "password-tls"
  else ct = "tls" ∨ ct = "password"

/-- What holds of every map that was imported from a plain config. -/
structure WellImported (d : VpnData) : Prop where
  set : ∀ k, d k ≠ some ""
  keys : ∀ k, (d k).isSome →
    k ∈ reimportKeys ∨ k = "connection-type" ∨ k = "http-proxy-auth-file"
  switches : ∀ k ∈ switchKeys, ∀ v, d k = some v → v = "yes"
  compLzo : d "comp-lzo" ≠ some "no"
  proxyType : ∀ v, d "proxy-type" = some v → v = "http" ∨ v = "socks"
  implied : ∀ p ∈ impliedKeys, (d p.1).isSome → (d p.2).isSome
  crlVerify : d "crl-verify-file" = none ∨ d "crl-verify-dir" = none
  connectionType : ∃ ct, d "connection-type" = some ct ∧ TypeFits d ct
  remote : ∃ l : List (List String),
    (∀ args ∈ l, RemoteParts args ∧ ∀ a ∈ args, ∀ c ∈ a.toList, IsEntryChar c) ∧
      d "remote" = appendAll "," none (l.map remoteEntry)
  routes : ∃ l : List (List String), (∀ args ∈ l, RouteParts args) ∧
    d "nm-openvpn3-extra-routes" = appendAll "\n" none (l.map routeLine)

section Import

variable {c : OvpnConfig}

/-! ### Values -/

/-- No key holds an empty string. -/
def NoEmpty (d : VpnData) : Prop := ∀ k, d k ≠ some ""

theorem NoEmpty.setOpt {d : VpnData} (h : NoEmpty d) (k : String) {v : Option String}
    (hv : v ≠ some "") : NoEmpty (d.setOpt k v) := by
  intro k'
  by_cases hk : k' = k
  · rw [hk, Dict.setOpt_self]
    cases v with
    | none => exact h k
    | some v => exact hv
  · rw [Dict.setOpt_of_ne hk]
    exact h k'

theorem NoEmpty.insert {d : VpnData} (h : NoEmpty d) (k : String) {v : String} (hv : v ≠ "") :
    NoEmpty (d.insert k v) :=
  h.setOpt k fun e ↦ hv (Option.some_inj.mp e)

theorem NoEmpty.orInsert {d : VpnData} (h : NoEmpty d) (k : String) {v : String} (hv : v ≠ "") :
    NoEmpty (d.orInsert k v) := by
  refine h.insert k ?_
  cases hd : d k with
  | none => exact hv
  | some w => exact fun e ↦ h k (hd.trans (congrArg some e))

theorem routeLine_ne_empty (args : List String) : routeLine args ≠ "" := by
  intro he
  have := head_routeLine args
  rw [he] at this
  simp at this

theorem x509Value_ne_empty {args : List String} (hne : args ≠ []) (h : ∀ a ∈ args, a ≠ "") :
    x509Value args ≠ "" := by
  rcases args with _ | ⟨a, _ | ⟨t, rest⟩⟩
  · exact absurd rfl hne
  · exact h a List.mem_cons_self
  · simp [x509Value]

theorem getD_ne_empty {v : Option String} (h : v ≠ some "") {w : String} (hw : w ≠ "") :
    v.getD w ≠ "" := by
  cases v with
  | none => exact hw
  | some v => exact fun e ↦ h (congrArg some e)

/-- An argument that is stored is not empty. -/
theorem NoEmpty.insert_arg {d : VpnData} (h : NoEmpty d) {args : List String}
    (hargs : ∀ i : ℕ, args[i]? ≠ some "") {i : ℕ} {a : String} (ha : args[i]? = some a)
    (k : String) : NoEmpty (d.insert k a) :=
  h.insert k fun e ↦ hargs i (ha.trans (congrArg some e))

/-- One arm stores no empty string if its option has none. -/
theorem noEmpty_apply {name : String} {arm : Arm} (harm : (name, arm) ∈ importArms)
    {args : List String} (hargs : ∀ a ∈ args, a ≠ "")
    (hhas : name ∈ ["remote", "verify-x509-name", "tls-auth"] → args ≠ []) {st : ImportState}
    (h : NoEmpty st.data) : NoEmpty (arm.apply args st).data := by
  have hget : ∀ i : ℕ, args[i]? ≠ some "" := fun i hi ↦ hargs "" (List.mem_of_getElem? hi) rfl
  cases arm with
  | ignored | authUserPass | keyDirection => exact h
  | value k => exact h.setOpt _ (hget 0)
  | valueOr k v =>
    -- The table has this arm for two options, both with the same default.
    have hv : v = "yes" := by
      simp [importArms] at harm
      rcases harm with ⟨-, -, hv⟩ | ⟨-, -, hv⟩ <;> exact hv
    exact h.insert _ (getD_ne_empty (hget 0) (by rw [hv]; decide))
  | flag k => exact h.insert _ (by decide)
  | proto =>
    -- The protocol is stored as a switch.
    simp only [Arm.apply]
    split
    · split_ifs
      · exact h
      · exact h.insert _ (by decide)
    · exact h
  | remote =>
    have hname : name = "remote" := by simpa [importArms] using harm
    obtain ⟨a, args, rfl⟩ := List.exists_cons_of_ne_nil (hhas (by simp [hname]))
    exact h.insert _ (appendEntry_ne_empty _ (remoteEntry_ne_empty rfl (hargs a (by simp))))
  | compLzo =>
    refine h.insert _ ?_
    split_ifs
    · decide
    · exact getD_ne_empty (hget 0) (by decide)
  | verifyX509Name =>
    have hname : name = "verify-x509-name" := by simpa [importArms] using harm
    exact h.insert _ (x509Value_ne_empty (hhas (by simp [hname])) hargs)
  | tlsVersionMin =>
    refine (h.setOpt _ (hget 0)).setOpt _ ?_
    split_ifs <;> decide
  | ca | cert | key => exact h.setOpt _ (hget 0)
  | pkcs12 => exact ((h.setOpt _ (hget 0)).setOpt _ (hget 0)).setOpt _ (hget 0)
  | secret | tlsAuth => exact (h.setOpt _ (hget 0)).setOpt _ (hget 1)
  | crlVerify => exact h.setOpt _ (hget 0)
  | httpProxy =>
    simp only [Arm.apply]
    split
    · rename_i server hserver
      exact (((h.insert _ (by decide)).insert_arg hget hserver _).setOpt _ (hget 1)).setOpt _
        (hget 2)
    · exact h
  | socksProxy =>
    simp only [Arm.apply]
    split
    · rename_i server hserver
      exact ((h.insert _ (by decide)).insert_arg hget hserver _).setOpt _ (hget 1)
    · exact h
  | route => exact h.insert _ (appendEntry_ne_empty _ (routeLine_ne_empty args))
  | ifconfig | keepalive =>
    simp only [Arm.apply]
    split
    · rename_i a b ha hb
      exact (h.insert_arg hget ha _).insert_arg hget hb _
    · exact h

/-- The loop over a plain config stores no empty string and finds no empty key direction. -/
theorem noEmpty_importAll (h : Plain c) : NoEmpty (importAll .init c.directives).data ∧
    (importAll .init c.directives).keyDirection ≠ some "" := by
  have hinit : NoEmpty ImportState.init.data ∧ ImportState.init.keyDirection ≠ some "" :=
    ⟨fun _ ↦ by simp [ImportState.init], by decide⟩
  refine List.foldlRecOn (motive := fun st ↦ NoEmpty st.data ∧ st.keyDirection ≠ some "")
    c.directives importDirective hinit fun st hst x hx ↦ ?_
  obtain ⟨name, args, rfl⟩ := h.options x hx
  have hargs := h.args name args hx
  rw [importDirective]
  cases harm : importArms.lookup name with
  | none => exact hst
  | some arm =>
    refine ⟨noEmpty_apply (mem_of_lookup harm) hargs (fun hn ↦ h.hasArg name hn args hx) hst.1, ?_⟩
    -- The key direction is one of the flags; the other arms leave it alone.
    by_cases hflag : arm ∈ flagArms
    · simp only [flagArms, List.mem_cons, List.not_mem_nil, or_false] at hflag
      rcases hflag with rfl | rfl | rfl | rfl | rfl | rfl | rfl | rfl <;> try exact hst.2
      simp only [Arm.apply]
      cases ha : args[0]? with
      | none => exact hst.2
      | some a => exact fun e ↦ hargs a (List.mem_of_getElem? ha) (Option.some_inj.mp e)
    · simp only
      rw [Arm.apply_of_not_mem_flagArms hflag]
      exact hst.2

/-! ### Keys that come together -/

/-- An arm that stores one key stores another one with it. -/
theorem isSome_lastStored {k k' : String} {ds : List Directive}
    (h : ∀ q ∈ armsTouching k, ∀ args, ((q.2.apply args .init).data k).isSome →
      ((q.2.apply args .init).data k').isSome) (hs : (lastStored k ds).isSome) :
    (lastStored k' ds).isSome := by
  obtain ⟨x, hx, hsx⟩ := lastStored_isSome_iff.mp hs
  obtain ⟨v, hv⟩ := Option.isSome_iff_exists.mp hsx
  obtain ⟨name, arm, args, rfl, hlook, harm, hd⟩ := stored_eq_some hv
  refine lastStored_isSome_iff.mpr ⟨_, hx, ?_⟩
  rw [stored_option hlook]
  exact h (name, arm) harm args (by simp [hd])

theorem implied_apply : ∀ p ∈ impliedKeys, ∀ q ∈ armsTouching p.1, ∀ args,
    ((q.2.apply args .init).data p.1).isSome → ((q.2.apply args .init).data p.2).isSome := by
  have harms : ∀ p ∈ impliedKeys, ∀ q ∈ armsTouching p.1, (q.2, p) ∈
      [(Arm.secret, "static-key-direction", "static-key"), (.tlsAuth, "ta-dir", "ta"),
        (.tlsVersionMin, "tls-version-min-or-highest", "tls-version-min"),
        (.ifconfig, "local-ip", "remote-ip"), (.ifconfig, "remote-ip", "local-ip"),
        (.httpProxy, "proxy-type", "proxy-server"), (.httpProxy, "proxy-server", "proxy-type"),
        (.httpProxy, "proxy-port", "proxy-type"), (.socksProxy, "proxy-type", "proxy-server"),
        (.socksProxy, "proxy-server", "proxy-type"),
        (.socksProxy, "proxy-port", "proxy-type")] := by
    decide
  rintro p hp ⟨name, arm⟩ hq args
  have := harms p hp _ hq
  simp only [List.mem_cons, List.not_mem_nil, or_false, Prod.mk.injEq] at this
  -- Without a first argument there is no second one.
  have hshape : args[0]? = none → args[1]? = none := by cases args <;> simp
  cases h0 : args[0]? <;> cases h1 : args[1]? <;> simp only [h0, h1] at hshape <;>
    rcases this with ⟨rfl, rfl⟩ | ⟨rfl, rfl⟩ | ⟨rfl, rfl⟩ | ⟨rfl, rfl⟩ | ⟨rfl, rfl⟩ | ⟨rfl, rfl⟩ |
      ⟨rfl, rfl⟩ | ⟨rfl, rfl⟩ | ⟨rfl, rfl⟩ | ⟨rfl, rfl⟩ | ⟨rfl, rfl⟩ <;>
    simp (disch := decide) [Arm.apply, ImportState.init, Dict.insert_of_ne, Dict.setOpt_self,
      Dict.setOpt_of_ne, h0, h1] at hshape ⊢

/-- Keys that come together do so in the imported map. -/
theorem implied_asNmData (h : Plain c) :
    ∀ p ∈ impliedKeys, (asNmData c p.1).isSome → (asNmData c p.2).isSome := by
  set st := importAll .init c.directives with hst
  obtain ⟨-, -, hsecret, hta⟩ := importAll_flags c.directives
  -- The direction of a keyed option is set with its key, or after the loop.
  have hfilled : (st.haveTlsAuth → (st.data "ta").isSome) ∧
      (st.haveSecret → (st.data "static-key").isSome) := by
    rw [hst, importAll_data (by decide), importAll_data (by decide), hta, hsecret]
    constructor
    · intro hany
      obtain ⟨x, hx, hn⟩ := List.any_eq_true.mp hany
      obtain ⟨name, args, rfl⟩ := h.options x hx
      obtain rfl : name = "tls-auth" := by simpa [isOption] using hn
      obtain ⟨a, args, rfl⟩ := List.exists_cons_of_ne_nil (h.hasArg "tls-auth" (by decide) args hx)
      exact lastStored_isSome_iff.mpr ⟨_, hx, by cases args <;> rfl⟩
    · intro hany
      obtain ⟨x, hx, hn⟩ := List.any_eq_true.mp hany
      obtain ⟨name, args, rfl⟩ := h.options x hx
      exact lastStored_isSome_iff.mpr ⟨_, hx, hn⟩
  have hlate : ∀ p ∈ impliedKeys, p.2 ∉ lateKeys ∧ p.2 ∉ listKeys ∧ p.1 ∉ listKeys ∧
      p.1 ≠ "connection-type" ∧ (p.1 = "ta-dir" → p.2 = "ta") ∧
      (p.1 = "static-key-direction" → p.2 = "static-key") := by decide
  intro p hp hs
  obtain ⟨h2, hl2, hl1, hne, hdir, hsdir⟩ := hlate p hp
  rw [asNmData, Dict.insert_of_ne hne] at hs
  rw [asNmData_of_not_mem h2]
  rcases isSome_resolveKeyDirection hs with hs | ⟨hk, hs⟩ | ⟨hk, hs⟩
  · rw [importAll_data hl1] at hs
    rw [importAll_data hl2]
    exact isSome_lastStored (implied_apply p hp) hs
  · rw [hdir hk]
    exact hfilled.1 hs
  · rw [hsdir hk]
    exact hfilled.2 hs

theorem noEmpty_asNmData (h : Plain c) : NoEmpty (asNmData c) := by
  obtain ⟨hdata, hdir⟩ := noEmpty_importAll h
  refine NoEmpty.insert ?_ _ ?_
  · rw [resolveKeyDirection]
    cases hd : (importAll .init c.directives).keyDirection with
    | none => exact hdata
    | some dir =>
      have hne : dir ≠ "" := fun e ↦ hdir (hd.trans (congrArg some e))
      simp only
      split_ifs
      · exact hdata.orInsert _ hne
      · exact hdata.orInsert _ hne
      · exact hdata
  · unfold inferConnectionType
    split_ifs <;> decide

/-- What stores a key of the imported map. -/
theorem exists_stored {k v : String} (hk : k ∉ lateKeys) (hl : k ∉ listKeys)
    (h : asNmData c k = some v) : ∃ name arm args, .option name args ∈ c.directives ∧
      (name, arm) ∈ armsTouching k ∧ (arm.apply args .init).data k = some v := by
  rw [asNmData_eq_lastStored hk hl] at h
  obtain ⟨x, hx, hs⟩ := exists_of_lastStored h
  obtain ⟨name, arm, args, rfl, -, harm, hd⟩ := stored_eq_some hs
  exact ⟨name, arm, args, hx, harm, hd⟩

theorem keys_asNmData {k : String} (h : (asNmData c k).isSome) :
    k ∈ reimportKeys ∨ k = "connection-type" ∨ k = "http-proxy-auth-file" := by
  have hlate : ∀ k ∈ lateKeys ++ listKeys, k ∈ reimportKeys ∨ k = "connection-type" := by
    decide
  by_cases hk : k ∈ lateKeys ++ listKeys
  · exact (hlate k hk).imp_right .inl
  · rw [List.mem_append, not_or] at hk
    obtain ⟨v, hv⟩ := Option.isSome_iff_exists.mp h
    obtain ⟨name, arm, args, -, harm, -⟩ := exists_stored hk.1 hk.2 hv
    have hkeys : ∀ p ∈ importArms, ∀ k ∈ p.2.keys,
        k ∈ reimportKeys ∨ k = "http-proxy-auth-file" := by decide
    rw [armsTouching, List.mem_filter, List.contains_iff_mem] at harm
    exact (hkeys _ harm.1 k harm.2).imp_right .inr

theorem switches_asNmData : ∀ k ∈ switchKeys, ∀ v, asNmData c k = some v → v = "yes" := by
  intro k hk v hv
  have hside : ∀ k ∈ switchKeys, k ∉ lateKeys ∧ k ∉ listKeys ∧ ∀ p ∈ armsTouching k,
      p.2 = .flag k ∨ p.2 = .proto ∧ k = "proto-tcp" ∨
        p.2 = .tlsVersionMin ∧ k = "tls-version-min-or-highest" := by decide
  obtain ⟨h1, h2, harms⟩ := hside k hk
  obtain ⟨name, arm, args, -, harm, hd⟩ := exists_stored h1 h2 hv
  have hone : arm = .flag k ∨ arm = .proto ∧ k = "proto-tcp" ∨
      arm = .tlsVersionMin ∧ k = "tls-version-min-or-highest" := harms _ harm
  rcases hone with rfl | ⟨rfl, rfl⟩ | ⟨rfl, rfl⟩
  · simpa only [Arm.apply, Dict.insert_self, Option.some_inj, eq_comm] using hd
  · simp only [Arm.apply] at hd
    split at hd
    · split_ifs at hd
      · simp [ImportState.init] at hd
      · simpa only [Dict.insert_self, Option.some_inj, eq_comm] using hd
    · simp [ImportState.init] at hd
  · simp (disch := decide) only [Arm.apply, Dict.setOpt_self, Dict.setOpt_of_ne, ImportState.init,
      Dict.empty_apply, Option.or_none] at hd
    split_ifs at hd
    exact (Option.some_inj.mp hd).symm

theorem compLzo_asNmData : asNmData c "comp-lzo" ≠ some "no" := by
  intro hv
  obtain ⟨name, arm, args, -, harm, hd⟩ := exists_stored (by decide) (by decide) hv
  have harms : ∀ p ∈ armsTouching "comp-lzo", p = ("comp-lzo", .compLzo) := by decide
  obtain ⟨rfl, rfl⟩ := Prod.mk.inj (harms _ harm)
  simp only [Arm.apply, Dict.insert_self, Option.some_inj] at hd
  split_ifs at hd with hno
  · exact absurd hd (by decide)
  · exact hno hd

theorem proxyType_asNmData {v : String} (hv : asNmData c "proxy-type" = some v) :
    v = "http" ∨ v = "socks" := by
  obtain ⟨name, arm, args, -, harm, hd⟩ := exists_stored (by decide) (by decide) hv
  have harms : ∀ p ∈ armsTouching "proxy-type",
      p.2 = .httpProxy ∨ p.2 = .socksProxy := by decide
  obtain rfl | rfl : arm = .httpProxy ∨ arm = .socksProxy := harms _ harm
  all_goals
    simp only [Arm.apply] at hd
    cases h0 : args[0]? <;>
      simp (disch := decide) [h0, ImportState.init, Dict.insert_of_ne, Dict.setOpt_of_ne] at hd
  · exact .inl hd.symm
  · exact .inr hd.symm

/-- At most one revocation list was imported, since its option occurs only once. -/
theorem crlVerify_asNmData (h : Plain c) :
    asNmData c "crl-verify-file" = none ∨ asNmData c "crl-verify-dir" = none := by
  by_contra hno
  rw [not_or] at hno
  obtain ⟨file, hfile⟩ := Option.ne_none_iff_exists'.mp hno.1
  obtain ⟨dir, hdir⟩ := Option.ne_none_iff_exists'.mp hno.2
  obtain ⟨name, arm, args, hx, harm, hd⟩ := exists_stored (by decide) (by decide) hfile
  obtain ⟨name', arm', args', hx', harm', hd'⟩ := exists_stored (by decide) (by decide) hdir
  have harms : ∀ k ∈ ["crl-verify-file", "crl-verify-dir"], ∀ p ∈ armsTouching k,
      p = ("crl-verify", .crlVerify) := by decide
  obtain ⟨rfl, rfl⟩ := Prod.mk.inj (harms _ (by decide) _ harm)
  obtain ⟨rfl, rfl⟩ := Prod.mk.inj (harms _ (by decide) _ harm')
  have hone := h.once ("crl-verify", .crlVerify) (by decide) (by decide) (by decide) (by decide)
  -- Both keys come from the same option, which has one of them for its argument.
  obtain rfl : args = args' := by
    have hm := mem_argsOf.mpr hx
    have hm' := mem_argsOf.mpr hx'
    rcases hl : argsOf "crl-verify" c.directives with _ | ⟨a, _ | ⟨b, l⟩⟩
    · simp [hl] at hm
    · rw [hl, List.mem_singleton] at hm hm'
      rw [hm, hm']
    · simp [hl] at hone
  simp only [Arm.apply, crlVerifyKey] at hd hd'
  split_ifs at hd hd'
  · simp (disch := decide) [Dict.setOpt_of_ne, ImportState.init] at hd
  · simp (disch := decide) [Dict.setOpt_of_ne, ImportState.init] at hd'

theorem any_fills (h : Plain c) (slot key : String) :
    c.directives.any (fills slot key) = (lastStored key c.directives).isSome := by
  rw [Bool.eq_iff_iff, List.any_eq_true, lastStored_isSome_iff]
  refine exists_congr fun x ↦ and_congr_right fun hx ↦ ?_
  obtain ⟨name, args, rfl⟩ := h.options x hx
  rfl

/-- The inferred connection type fits the keys that were imported. -/
theorem connectionType_asNmData (h : Plain c) :
    ∃ ct, asNmData c "connection-type" = some ct ∧ TypeFits (asNmData c) ct := by
  refine ⟨_, asNmData_connectionType c, ?_⟩
  obtain ⟨hcert, hkey, hsecret, -⟩ := importAll_flags c.directives
  have hstored : ∀ k, k ∉ lateKeys → k ∉ listKeys →
      asNmData c k = lastStored k c.directives := fun k hk hl ↦ asNmData_eq_lastStored hk hl
  rw [any_fills h] at hcert hkey hsecret
  rw [TypeFits, inferConnectionType, hcert, hkey, hsecret, hstored _ (by decide) (by decide),
    hstored _ (by decide) (by decide), hstored _ (by decide) (by decide)]
  cases (lastStored "static-key" c.directives).isSome <;>
    cases (lastStored "cert" c.directives).isSome <;>
    cases (lastStored "key" c.directives).isSome <;>
    cases (importAll .init c.directives).haveAuthUserPass <;>
    simp

theorem isRouteArgChar_of_isHostChar {ch : Char} (h : isHostChar ch = true) :
    isRouteArgChar ch = true := by
  simp only [isHostChar, isRouteArgChar, Bool.or_eq_true] at h ⊢
  tauto

theorem isHostChar_of_isPortChar {ch : Char} (h : isPortChar ch = true) : isHostChar ch = true := by
  simp only [isPortChar, isHostChar, Bool.or_eq_true] at h ⊢
  tauto

/-- A remote with arguments of these characters can be written as an entry of the list. -/
theorem remoteParts_of_plain (h : Plain c) {args : List String}
    (hx : .option "remote" args ∈ c.directives) : RemoteParts (args.take 3) ∧
      ∀ a ∈ args.take 3, ∀ ch ∈ a.toList, IsEntryChar ch := by
  -- The importer reads three arguments, and the entry has room for three.
  obtain ⟨host, args, rfl⟩ := List.exists_cons_of_ne_nil (h.hasArg "remote" (by decide) args hx)
  have hne : ∀ a ∈ host :: args, a ≠ "" := h.args "remote" _ hx
  have hhost : ∀ ch ∈ host.toList, isHostChar ch = true := h.host _ hx host rfl
  have hport : ∀ i ∈ [1, 2], ∀ p, (host :: args)[i]? = some p →
      ∀ ch ∈ p.toList, isPortChar ch = true := h.port _ hx
  have htake : ∀ i < 3, ∀ p, ((host :: args).take 3)[i]? = some p →
      (host :: args)[i]? = some p := by
    intro i hi p hp
    rwa [List.getElem?_take_of_lt hi] at hp
  refine ⟨⟨⟨host, rfl, hne host (by simp), fun hm ↦ ?_, fun hm ↦ ?_⟩, fun p hp ↦ ?_, fun p hp ↦ ?_⟩,
    fun a ha ch hch ↦ ?_⟩
  · exact absurd (hhost _ hm) (by decide)
  · exact absurd (hhost _ (List.mem_of_mem_head? hm)) (by decide)
  · have hp' := htake 1 (by omega) p hp
    refine ⟨hne p (List.mem_of_getElem? hp'), fun hm ↦ ?_⟩
    exact absurd (hport 1 (by decide) p hp' _ hm) (by decide)
  · exact hne p (List.mem_of_getElem? (htake 2 (by omega) p hp))
  · have hhostChar : isHostChar ch = true := by
      obtain ⟨i, hi⟩ := List.mem_iff_getElem?.mp ha
      have hlt : i < 3 := by
        have := (List.getElem?_eq_some_iff.mp hi).1
        rw [List.length_take] at this
        omega
      have hi' := htake i hlt a hi
      obtain rfl | rfl | rfl : i = 0 ∨ i = 1 ∨ i = 2 := by omega
      · obtain rfl : host = a := Option.some_inj.mp hi'
        exact hhost ch hch
      · exact isHostChar_of_isPortChar (hport 1 (by decide) a hi' ch hch)
      · exact isHostChar_of_isPortChar (hport 2 (by decide) a hi' ch hch)
    obtain ⟨hw, -, hsep, -⟩ := chars_of_isRouteArgChar (isRouteArgChar_of_isHostChar hhostChar)
    exact ⟨hsep, hw⟩

/-- A route with arguments of these characters is preserved as a line that is safe. -/
theorem routeParts_of_plain (h : Plain c) {args : List String}
    (hx : .option "route" args ∈ c.directives) : RouteParts args := by
  exact routeParts_of_safe fun a ha ↦ ⟨h.args "route" args hx a ha, h.route args hx a ha⟩

/-- **An imported map is well imported.** -/
theorem wellImported_asNmData (h : Plain c) : WellImported (asNmData c) where
  set := noEmpty_asNmData h
  keys _ := keys_asNmData
  switches := switches_asNmData
  compLzo := compLzo_asNmData
  proxyType _ := proxyType_asNmData
  implied := implied_asNmData h
  crlVerify := crlVerify_asNmData h
  connectionType := connectionType_asNmData h
  remote := by
    refine ⟨(argsOf "remote" c.directives).map (List.take 3), ?_, ?_⟩
    · intro args hargs
      obtain ⟨args, ha, rfl⟩ := List.mem_map.mp hargs
      exact remoteParts_of_plain h (mem_argsOf.mp ha)
    · rw [asNmData_of_not_mem (by decide), importAll_data_remote, List.map_map]
      exact congrArg _ (List.map_congr_left fun args _ ↦ (remoteEntry_take args).symm)
  routes := by
    refine ⟨argsOf "route" c.directives, fun args ha ↦ ?_, ?_⟩
    · exact routeParts_of_plain h (mem_argsOf.mp ha)
    · rw [asNmData_of_not_mem (by decide), importAll_data_routes]

end Import

/-! ## Saving and importing a well-imported map -/

/-- The keys of the TLS context, with the certificates. -/
def tlsKeys : List String :=
  ["verify-x509-name", "ta", "ta-dir", "tls-crypt", "tls-crypt-v2", "tls-version-min",
    "tls-version-min-or-highest", "tls-version-max", "remote-cert-tls", "ns-cert-type",
    "tls-remote", "extra-certs", "crl-verify-file", "crl-verify-dir"]

/-- The keys that a map keeps out of its export. -/
def Exempt (d : VpnData) (k : String) : Prop :=
  k = "http-proxy-auth-file" ∨
    d "connection-type" = some "static-key" ∧ k ∈ tlsKeys ++ ["ca", "cert", "key"] ∨
    d "connection-type" = some "password" ∧ k ∈ ["cert", "key"] ∨
    d "allow-compression" = some "no" ∧ k ∈ ["comp-lzo", "compress"]

/-- The value that a key has after saving and importing: the old one, except that an exempt key is
lost, and that a device and a proxy port are filled in. -/
def Kept (d : VpnData) (k : String) (v : Option String) : Prop :=
  v = d k ∨ Exempt d k ∧ v = none ∨ d k = none ∧ k ∈ ["dev", "proxy-port"]

section Kept

variable {d : VpnData} (h : WellImported d)

include h

theorem WellImported.get_eq (k : String) : get d k = d k := by
  cases hk : d k with
  | none => rw [Ovpn.get, hk]; rfl
  | some v => exact get_eq_some.mpr ⟨hk, fun e ↦ h.set k (hk.trans (congrArg some e))⟩

/-- The four connection types that are inferred. -/
theorem WellImported.type_cases :
    d "connection-type" = some "static-key" ∧ (d "static-key").isSome ∨
    d "static-key" = none ∧ (d "connection-type" = some "tls" ∨
      d "connection-type" = some "password-tls" ∧ (d "cert").isSome ∧ (d "key").isSome ∨
      d "connection-type" = some "password" ∧ ¬((d "cert").isSome ∧ (d "key").isSome)) := by
  obtain ⟨ct, hct, hfits⟩ := h.connectionType
  rw [TypeFits] at hfits
  rw [hct]
  split_ifs at hfits with hs hck
  · exact .inl ⟨by rw [hfits], hs⟩
  · rw [Bool.not_eq_true, Option.isSome_eq_false_iff, Option.isNone_iff_eq_none] at hs
    rcases hfits with rfl | rfl
    · exact .inr ⟨hs, .inl rfl⟩
    · exact .inr ⟨hs, .inr (.inl ⟨rfl, hck⟩)⟩
  · rw [Bool.not_eq_true, Option.isSome_eq_false_iff, Option.isNone_iff_eq_none] at hs
    rcases hfits with rfl | rfl
    · exact .inr ⟨hs, .inl rfl⟩
    · exact .inr ⟨hs, .inr (.inr ⟨rfl, hck⟩)⟩

/-- Without a TLS context the connection uses a static key. -/
theorem WellImported.type_of_not_tls (htls : isTlsLike (get d "connection-type") = false) :
    d "connection-type" = some "static-key" := by
  rw [h.get_eq] at htls
  rcases h.type_cases with ⟨hct, -⟩ | ⟨-, hct | ⟨hct, -⟩ | ⟨hct, -⟩⟩
  · exact hct
  all_goals
    rw [hct] at htls
    exact absurd htls (by decide)

theorem WellImported.type_of_no_userCert (hno : needsUserCert (get d "connection-type") = false) :
    d "connection-type" = some "static-key" ∨ d "connection-type" = some "password" := by
  rw [h.get_eq] at hno
  rcases h.type_cases with ⟨hct, -⟩ | ⟨-, hct | ⟨hct, -⟩ | ⟨hct, -⟩⟩
  · exact .inl hct
  · rw [hct] at hno
    exact absurd hno (by decide)
  · rw [hct] at hno
    exact absurd hno (by decide)
  · exact .inr hct

/-- The connection type is inferred again. -/
theorem WellImported.connectionType_reimport :
    asNmData (fromNmData d) "connection-type" = d "connection-type" := by
  rw [reimport_connectionType]
  simp only [reimportState, secretValue, userCertValue, caValue, h.get_eq]
  rcases h.type_cases with ⟨hct, hs⟩ | ⟨hs, hct | ⟨hct, hc, hk⟩ | ⟨hct, -⟩⟩
  · simp [inferConnectionType, hct, hs]
  · simp [inferConnectionType, hct, needsUserCert, isPasswordLike]
  · simp [inferConnectionType, hct, hc, hk, needsUserCert, isPasswordLike]
  · simp [inferConnectionType, hct, needsUserCert, isPasswordLike]

/-! ### Values that are written as they are, or not at all -/

theorem WellImported.kept_get (k : String) : Kept d k (get d k) := .inl (h.get_eq k)

theorem WellImported.kept_gated {k : String} {b : Bool} (hb : b = false → Exempt d k) :
    Kept d k (if b = true then get d k else none) := by
  cases b with
  | true => exact h.kept_get k
  | false => exact .inr (.inl ⟨hb rfl, rfl⟩)

theorem WellImported.exempt_tls {k : String} (hk : k ∈ tlsKeys ++ ["ca", "cert", "key"])
    (htls : isTlsLike (get d "connection-type") = false) : Exempt d k :=
  .inr (.inl ⟨h.type_of_not_tls htls, hk⟩)

theorem WellImported.kept_tlsValue {k : String} (hk : k ∈ tlsKeys) : Kept d k (tlsValue d k) :=
  h.kept_gated (h.exempt_tls (List.mem_append_left _ hk))

theorem WellImported.kept_userCertValue {k : String} (hk : k ∈ ["cert", "key"]) :
    Kept d k (userCertValue d k) := by
  refine h.kept_gated fun hno ↦ ?_
  rcases h.type_of_no_userCert hno with hct | hct
  · exact .inr (.inl ⟨hct, List.mem_append_right _ (List.mem_cons_of_mem _ hk)⟩)
  · exact .inr (.inr (.inl ⟨hct, hk⟩))

theorem WellImported.kept_compressionValue {k : String} (hk : k ∈ ["comp-lzo", "compress"])
    {v : Option String} (hv : v = d k) : Kept d k (compressionValue d v) := by
  rw [compressionValue]
  split_ifs with hno
  · exact .inr (.inl ⟨.inr (.inr (.inr ⟨(h.get_eq _).symm.trans hno, hk⟩)), rfl⟩)
  · exact .inl hv

/-! ### Values that are written in another form -/

theorem WellImported.yesIf_eq {k : String} (hk : k ∈ switchKeys) : yesIf (isYes d k) = d k := by
  rw [isYes, h.get_eq]
  cases hv : d k with
  | none => rfl
  | some v =>
    obtain rfl := h.switches k hk v hv
    rfl

theorem WellImported.map_compLzoStored :
    (get d "comp-lzo").map compLzoStored = d "comp-lzo" := by
  rw [h.get_eq]
  cases hv : d "comp-lzo" with
  | none => rfl
  | some v =>
    have hno : v ≠ "no" := fun e ↦ h.compLzo (hv.trans (congrArg some e))
    rw [Option.map_some, Option.some_inj, compLzoStored, compLzoWire]
    split_ifs <;> simp_all

/-- A key that comes with another one is written behind it. -/
theorem WellImported.behind_eq {k k' : String} (himp : (k, k') ∈ impliedKeys) :
    behind (d k') (d k) = d k := by
  cases hk' : d k' with
  | some v => rfl
  | none =>
    cases hk : d k with
    | none => rfl
    | some v =>
      have := h.implied _ himp (by simp [hk])
      simp [hk'] at this

theorem WellImported.kept_behind_tlsValue {k k' : String} (himp : (k, k') ∈ impliedKeys)
    (hk : k ∈ tlsKeys) {w : Option String} (hw : w = d k) :
    Kept d k (behind (tlsValue d k') w) := by
  rw [tlsValue]
  split_ifs with htls
  · rw [h.get_eq, hw, h.behind_eq himp]
    exact .inl rfl
  · exact .inr (.inl ⟨h.exempt_tls (List.mem_append_left _ hk) (eq_false_of_ne_true htls), rfl⟩)

theorem WellImported.secretValue_eq : secretValue d = d "static-key" := by
  rw [secretValue, h.get_eq, h.get_eq]
  rcases h.type_cases with ⟨hct, -⟩ | ⟨hs, -⟩
  · rw [if_pos hct]
  · rw [hs, ite_self]

theorem WellImported.kept_crlVerifyDir : Kept d "crl-verify-dir"
    (if (get d "crl-verify-file").isSome then none else tlsValue d "crl-verify-dir") := by
  split_ifs with hfile
  · refine .inl (h.crlVerify.resolve_left fun hnone ↦ ?_).symm
    rw [h.get_eq, hnone] at hfile
    cases hfile
  · exact h.kept_tlsValue (by decide)

theorem WellImported.kept_chosenDev : Kept d "dev" (some (chosenDev d)) := by
  rw [chosenDev, h.get_eq]
  cases hdev : d "dev" with
  | none => exact .inr (.inr ⟨hdev, by decide⟩)
  | some dev => exact .inl hdev.symm

/-- The proxy comes back, with a port if it had none. -/
theorem WellImported.kept_proxyValue : Kept d "proxy-type" ((proxyValue d).map fun p ↦ p.1) ∧
    Kept d "proxy-server" ((proxyValue d).map fun p ↦ p.2.1) ∧
    Kept d "proxy-port" ((proxyValue d).map fun p ↦ p.2.2) := by
  have hport : ∀ dflt, Kept d "proxy-port" (some ((d "proxy-port").getD dflt)) := by
    intro dflt
    cases hp : d "proxy-port" with
    | none => exact .inr (.inr ⟨hp, by decide⟩)
    | some port => exact .inl hp.symm
  have himp := h.implied
  simp only [impliedKeys, List.forall_mem_cons] at himp
  obtain ⟨-, -, -, -, -, hserver, htype, hporttype, -⟩ := himp
  rw [proxyValue, h.get_eq, h.get_eq, h.get_eq]
  cases hpt : d "proxy-type" with
  | none =>
    simp only [hpt, Option.isSome_none, Bool.false_eq_true, imp_false,
      Option.not_isSome_iff_eq_none] at htype hporttype
    rw [htype]
    exact ⟨.inl hpt.symm, .inl htype.symm, .inl hporttype.symm⟩
  | some pt =>
    obtain ⟨server, hps⟩ := Option.isSome_iff_exists.mp (hserver (by simp [hpt]))
    rw [hps]
    rcases h.proxyType pt hpt with rfl | rfl
    · exact ⟨.inl hpt.symm, .inl hps.symm, hport "8080"⟩
    · exact ⟨.inl hpt.symm, .inl hps.symm, hport "1080"⟩

theorem WellImported.remoteValue_eq : remoteValue d = d "remote" := by
  obtain ⟨l, hl, hremote⟩ := h.remote
  have hexport := remoteDirectives_of_join hl ((h.get_eq _).trans hremote)
  rw [remoteValue]
  rw [remoteDirectives] at hexport
  rw [h.get_eq] at hexport ⊢
  cases hr : d "remote" with
  | none => rfl
  | some remotes =>
    simp only [hr] at hexport ⊢
    have hargs : (remoteEntries remotes).map remoteArgs = l.map (List.take 3) := by
      have := congrArg (argsOf "remote") hexport
      rwa [argsOf_map, argsOf_map] at this
    have hitems : (remoteEntries remotes).map (fun gw ↦ remoteEntry (remoteArgs gw)) =
        l.map remoteEntry := by
      have := congrArg (List.map remoteEntry) hargs
      rw [List.map_map, List.map_map] at this
      exact this.trans (List.map_congr_left fun args _ ↦ remoteEntry_take args)
    rw [hitems, ← hremote, hr]

theorem WellImported.routesValue_eq : routesValue d = d "nm-openvpn3-extra-routes" := by
  obtain ⟨l, hl, hroutes⟩ := h.routes
  rw [routesValue, routesOf, routeDirectives_of_join hl ((h.get_eq _).trans hroutes), argsOf_map,
    List.map_id', hroutes]

theorem WellImported.kept_switch {k : String} (hk : k ∈ switchKeys) :
    Kept d k (yesIf (isYes d k)) :=
  .inl (h.yesIf_eq hk)

theorem WellImported.kept_behind {k k' : String} (himp : (k, k') ∈ impliedKeys) :
    Kept d k (behind (get d k') (get d k)) := by
  rw [h.get_eq, h.get_eq, h.behind_eq himp]
  exact .inl rfl

/-- The values before the preserved routes. -/
theorem WellImported.kept_entriesBeforeRoutes : ∀ p ∈ entriesBeforeRoutes d, Kept d p.1 p.2 := by
  have asIs : ∀ {k}, Kept d k (get d k) := h.kept_get _
  simp only [entriesBeforeRoutes, List.forall_mem_cons]
  exact ⟨.inl h.remoteValue_eq, h.kept_switch (by decide), h.kept_switch (by decide),
    h.kept_switch (by decide), h.kept_switch (by decide), h.kept_switch (by decide),
    h.kept_gated (h.exempt_tls (by decide)), h.kept_userCertValue (by decide),
    h.kept_userCertValue (by decide), .inl h.secretValue_eq,
    h.secretValue_eq.symm ▸ h.get_eq "static-key" ▸ h.kept_behind (by decide),
    asIs, asIs, asIs, asIs, asIs, asIs, asIs, asIs, asIs, asIs, asIs, asIs, asIs, asIs, asIs,
    h.kept_compressionValue (by decide) h.map_compLzoStored,
    h.kept_compressionValue (by decide) (h.get_eq _), h.kept_switch (by decide), asIs,
    h.kept_behind (by decide), h.kept_behind (by decide), List.forall_mem_nil _⟩

/-- The preserved routes and what comes after them. -/
theorem WellImported.kept_entriesFromRoutes : ∀ p ∈ entriesFromRoutes d, Kept d p.1 p.2 := by
  obtain ⟨proxyType, proxyServer, proxyPort⟩ := h.kept_proxyValue
  simp only [entriesFromRoutes, List.forall_mem_cons]
  exact ⟨.inl h.routesValue_eq, h.kept_tlsValue (by decide), h.kept_tlsValue (by decide),
    h.kept_behind_tlsValue (by decide) (by decide) (h.get_eq _), h.kept_tlsValue (by decide),
    h.kept_tlsValue (by decide), h.kept_tlsValue (by decide),
    h.kept_behind_tlsValue (by decide) (by decide) (h.yesIf_eq (by decide)),
    h.kept_tlsValue (by decide), h.kept_tlsValue (by decide), h.kept_tlsValue (by decide),
    h.kept_tlsValue (by decide), h.kept_tlsValue (by decide), h.kept_tlsValue (by decide),
    h.kept_crlVerifyDir, h.kept_chosenDev, h.kept_get _, h.kept_switch (by decide), proxyType,
    proxyServer, proxyPort, List.forall_mem_nil _⟩

/-- **A well-imported map survives an export and an import.** -/
theorem kept_of_wellImported (k : String) : Kept d k (asNmData (fromNmData d) k) := by
  by_cases hct : k = "connection-type"
  · exact .inl (hct ▸ h.connectionType_reimport)
  by_cases hk : k ∈ reimportKeys
  · rw [← reimportEntries_keys d] at hk
    obtain ⟨⟨k, v⟩, hmem, rfl⟩ := List.mem_map.mp hk
    rw [reimport_of_mem hmem]
    exact (List.mem_append.mp hmem).elim (h.kept_entriesBeforeRoutes _)
      (h.kept_entriesFromRoutes _)
  · -- A key that is not exported was imported only to be left out again.
    rw [reimport_of_not_mem hk hct]
    cases hd : d k with
    | none => exact .inl hd.symm
    | some v =>
      have := h.keys k (by simp [hd])
      exact .inr (.inl ⟨.inl ((this.resolve_left hk).resolve_left hct), rfl⟩)

end Kept

/-- **Saving an imported connection keeps it.** The saved file is accepted, importing it gives every
key its old value unless the key is exempt, and no new key but a device and a proxy port. -/
theorem saveAs_keeps {text : String} {c : OvpnConfig} (hparse : OvpnConfig.parse text = .ok c)
    (h : Plain c) : ∃ c', OvpnConfig.parse (fromNmData (asNmData c)).emit = .ok c' ∧
      (∀ k v, asNmData c k = some v → ¬Exempt (asNmData c) k → asNmData c' k = some v) ∧
      ∀ k, (asNmData c' k).isSome → asNmData c k = none → k = "dev" ∨ k = "proxy-port" := by
  have hvalid : (fromNmData (asNmData c)).validate = .ok () :=
    validate_fromNmData (passesGates_asNmData (validate_of_parse hparse))
  have hkept := kept_of_wellImported (wellImported_asNmData h)
  refine ⟨fromNmData (asNmData c), ?_, fun k v hv hk ↦ ?_, fun k hk hnone ↦ ?_⟩
  · rw [parse_emit (isOrdinary_fromNmData _), hvalid]
    rfl
  · rcases hkept k with hsame | ⟨hex, -⟩ | ⟨hnone, -⟩
    · rw [hsame, hv]
    · exact absurd hex hk
    · rw [hnone] at hv
      cases hv
  · rcases hkept k with hsame | ⟨-, hlost⟩ | ⟨-, hnew⟩
    · rw [hsame, hnone] at hk
      cases hk
    · rw [hlost] at hk
      cases hk
    · simpa using hnew

/-- A password connection with an IPv6 remote, an alias and a route. -/
private def sampleConfig : OvpnConfig := ⟨
  [.option "auth-user-pass" [], .option "remote" ["fd00::1", "1194", "tcp-client"],
    .option "keepalive" ["10", "60"], .option "route" ["10.0.0.0", "255.0.0.0"],
    .option "comp-lzo" ["no"]]⟩

private theorem plain_sampleConfig : Plain sampleConfig where
  options := by simp [sampleConfig]
  args := by
    simp only [sampleConfig, List.mem_cons, List.not_mem_nil, or_false, Directive.option.injEq]
    rintro name args (⟨rfl, rfl⟩ | ⟨rfl, rfl⟩ | ⟨rfl, rfl⟩ | ⟨rfl, rfl⟩ | ⟨rfl, rfl⟩) <;> decide
  once := by decide
  hasArg := by simp [sampleConfig]
  host := by simp [sampleConfig]; decide
  port := by simp [sampleConfig]; decide
  route := by simp [sampleConfig]; decide

theorem saveAs_keeps_sampleConfig : ∃ c',
    OvpnConfig.parse (fromNmData (asNmData sampleConfig)).emit = .ok c' ∧
      asNmData c' "remote" = some "[fd00::1]:1194:tcp-client" ∧
      asNmData c' "ping-restart" = some "60" ∧
      asNmData c' "comp-lzo" = some "no-by-default" := by
  have hparse : OvpnConfig.parse ("auth-user-pass\nremote fd00::1 1194 tcp-client\n" ++
      "keepalive 10 60\nroute 10.0.0.0 255.0.0.0\ncomp-lzo no\n") = .ok sampleConfig := by
    decide
  obtain ⟨c', hc', hkeep, -⟩ := saveAs_keeps hparse plain_sampleConfig
  have hex : ∀ k ∈ ["remote", "ping-restart", "comp-lzo"], ¬Exempt (asNmData sampleConfig) k := by
    unfold Exempt
    decide
  exact ⟨c', hc', hkeep _ _ (by decide) (hex _ (by decide)),
    hkeep _ _ (by decide) (hex _ (by decide)),
    hkeep _ _ (by decide) (hex _ (by decide))⟩

end Agreement

end NmOpenvpn3
