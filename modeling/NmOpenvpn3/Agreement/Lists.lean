import NmOpenvpn3.Agreement.Emitters
import NmOpenvpn3.ImportExport.Lists

/-!
# Remote lists and preserved routes through both emitters

Two keys of `vpn.data` hold lists that the importer joins and both emitters take apart again.

* A remote list comes back as it was (`remotes_survive`), a host in brackets without them.
  Whatever the list holds, `hasServer_iff` says when a profile has a server to connect to.
* Preserved routes come back as they were only if their arguments stay apart when they are joined
  without quotes. `routes_survive_iff` says for which files the emitted routes are the safe routes
  of the file: no unsafe `route` may have a line in its joined text that is a safe route.

Both results are about all directives of one kind in an emitted text. The first section says in
which blocks of the two emitters these stand.
-/

namespace NmOpenvpn3

namespace Agreement

open Rust Ovpn ImportExport Service

/-! ## The directives of one kind -/

/-- The options that the lines of a text denote. -/
def optionsOf (text : String) : List Directive :=
  (lines text.toList).filterMap fun line ↦
    match tokenize line with
    | .ok (name :: args) => some (.option name args)
    | _ => none

/-- The lines of a profile denote the directives of the writer's calls. -/
theorem optionsOf_writeAll {data : VpnData} {calls : List WriterCall}
    (h : writerCalls data = .ok calls) :
    optionsOf (writeAll calls) = calls.map WriterCall.directive := by
  have hread := readAsAll_of_writerCalls h
  have hlines : lines (writeAll calls).toList = calls.map WriterCall.text := by
    rw [writeAll, String.toList_ofList, ← List.flatMap_map (g := (· ++ ['\n'])),
      lines_flatMap_newline hread.lines]
  have key : ∀ {ls ds}, ReadAsAll ls ds → ls.filterMap (fun line ↦
      match tokenize line with
      | .ok (name :: args) => some (Directive.option name args)
      | _ => none) = ds := by
    intro ls ds hls
    induction hls with
    | nil => rfl
    | cons hd _ ih =>
      obtain ⟨name, args, rfl, hr⟩ := hd
      rw [List.filterMap_cons, hr.tokens, ih]
  rw [optionsOf, hlines]
  exact key hread

/-- A kind of options that the emitters write in the blocks of the two lists only. -/
def OnlyInLists (p : Directive → Bool) : Prop :=
  ∀ name ∈ emitterTags, name ≠ "remote" → ∀ args, p (.option name args) = false

section Kinds

variable {p : Directive → Bool} (hp : OnlyInLists p) (data : VpnData)
include hp

/-- A block under other names holds nothing of the kind. -/
theorem OnlyInLists.filter_eq_nil {ds : List Directive}
    (h : AllTagged (emitterTags.erase "remote") ds) : ds.filter p = [] := by
  have hne : ∀ name ∈ emitterTags.erase "remote", name ≠ "remote" := by decide
  exact h.filter_eq_nil fun name hname args ↦
    hp name (List.mem_of_mem_erase hname) (hne name hname) args

omit hp in
theorem filter_gated (b : Bool) (ds : List Directive) :
    (gated b ds).filter p = gated b (ds.filter p) := by
  cases b <;> rfl

omit hp in
theorem gated_nil (b : Bool) : gated b ([] : List Directive) = [] := ite_self _

/-- The directives of the kind that the exporter writes. -/
theorem OnlyInLists.filter_fromNmData : (fromNmData data).directives.filter p =
    (remoteDirectives data).filter p ++ (routeDirectives data).filter p := by
  have none := @OnlyInLists.filter_eq_nil p hp
  have flag := fun name b (h : name ∈ emitterTags.erase "remote") ↦ none (allTagged_optFlag h b)
  have args := fun name v rest (h : name ∈ emitterTags.erase "remote") ↦
    none (allTagged_optArgs h v rest)
  have yes := fun name v (h : name ∈ emitterTags.erase "remote") ↦ none (allTagged_optYes h v)
  have one := fun name as (h : name ∈ emitterTags.erase "remote") ↦
    none (allTagged_singleton h as)
  have pairs := fun (ps : List (String × String)) (h : ∀ q ∈ ps, q.2 ∈ emitterTags.erase "remote") ↦
    none (allTagged_pairDirectives h data)
  rw [fromNmData]
  simp (disch := decide) only [List.flatten_cons, List.flatten_nil, List.filter_append,
    filter_gated, gated_nil, optStr, secretDirectives, compressionDirectives,
    tlsVersionMinDirectives, flag, args, yes, one, pairs,
    none ((allTagged_certDirectives data).mono (by decide)),
    none ((allTagged_ifconfigDirectives data).mono (by decide)),
    none ((allTagged_verifyX509Directives data).mono (by decide)),
    none ((allTagged_crlVerifyDirectives data).mono (by decide)),
    none ((allTagged_proxyDirectives data).mono (by decide)),
    none (allTagged_tailDirectives.mono (by decide)), List.nil_append, List.append_nil]

/-- The directives of the kind that the connect path writes. -/
theorem OnlyInLists.filter_writerCalls {calls : List WriterCall}
    (hcalls : writerCalls data = .ok calls) : (calls.map WriterCall.directive).filter p =
      (remoteDirectives data).filter p ++ (routeDirectives data).filter p := by
  have none := @OnlyInLists.filter_eq_nil p hp
  have flag := fun name b (h : name ∈ emitterTags.erase "remote") ↦ none (allTagged_optFlag h b)
  have args := fun name v rest (h : name ∈ emitterTags.erase "remote") ↦
    none (allTagged_optArgs h v rest)
  have yes := fun name v (h : name ∈ emitterTags.erase "remote") ↦ none (allTagged_optYes h v)
  have one := fun name as (h : name ∈ emitterTags.erase "remote") ↦
    none (allTagged_singleton h as)
  obtain ⟨gateways, hg⟩ := exists_remote_of_writerCalls hcalls
  obtain ⟨calls', hcalls', hd⟩ := writerCalls_of_remote hg
  obtain rfl : calls = calls' := Except.ok.inj (hcalls.symm.trans hcalls')
  rw [hd, map_directive_settingCalls, map_directive_tlsCalls]
  simp (disch := decide) only [List.flatten_cons, List.flatten_nil, List.filter_append,
    filter_gated, gated_nil, optStr, secretDirectives, compressionDirectives,
    tlsVersionMinDirectives, flag, args, yes, one,
    none ((allTagged_certDirectivesConnect data).mono (by decide)),
    none ((allTagged_mssfixDirectivesConnect data).mono (by decide)),
    none ((allTagged_ifconfigDirectives data).mono (by decide)),
    none ((allTagged_verifyX509Directives data).mono (by decide)),
    none ((allTagged_crlVerifyDirectives data).mono (by decide)),
    none ((allTagged_proxyDirectives data).mono (by decide)),
    none (allTagged_tailDirectives.mono (by decide)), List.nil_append, List.append_nil]

end Kinds

/-! ## Remotes -/

/-- A host without the brackets that it may be written in. -/
def unbracketed (host : String) : String :=
  String.ofList (((stripPrefix ['['] host.toList).bind (stripSuffix [']'])).getD host.toList)

/-- The arguments of a `remote` with its host bare. -/
def bareRemote : List String → List String
  | [] => []
  | host :: rest => unbracketed host :: rest

/-- A part of a remote: not empty, without white space and commas. -/
def IsRemotePart (s : String) : Prop := s ≠ "" ∧ ∀ c ∈ s.toList, isWhitespace c = false ∧ c ≠ ','

/-- The arguments `host [port [proto]]` of a `remote`. The host may be an IPv6 literal, bare or in
brackets. -/
structure RemoteForm (args : List String) : Prop where
  host : ∃ host, args[0]? = some host ∧ IsRemotePart (unbracketed host) ∧
    '[' ∉ (unbracketed host).toList ∧ ']' ∉ (unbracketed host).toList
  port : ∀ port, args[1]? = some port → IsRemotePart port ∧ ':' ∉ port.toList
  proto : ∀ proto, args[2]? = some proto → IsRemotePart proto
  length : args.length ≤ 3

/-- A host is bare, or it is what stands in its brackets. -/
theorem unbracketed_cases (host : String) : unbracketed host = host ∨
    host.toList = '[' :: ((unbracketed host).toList ++ [']']) := by
  rw [unbracketed]
  cases hopen : stripPrefix ['['] host.toList with
  | none => exact .inl (by simp)
  | some l =>
    cases hclose : stripSuffix [']'] l with
    | none => exact .inl (by simp [hclose])
    | some m =>
      refine .inr ?_
      rw [Option.bind_some, hclose, Option.getD_some, String.toList_ofList,
        stripPrefix_eq_some.mp hopen, stripSuffix_eq_some.mp hclose]
      rfl

/-- **An entry decomposes into the arguments of its remote**, with a bare host. -/
theorem RemoteForm.remoteArgs_remoteEntry {args : List String} (h : RemoteForm args) :
    remoteArgs (remoteEntry args).toList = bareRemote args := by
  obtain ⟨host, hhost, ⟨hne, -⟩, hopen, hclose⟩ := h.host
  have hhead : (unbracketed host).toList.head? ≠ some '[' := fun e ↦
    hopen (List.mem_of_mem_head? e)
  obtain ⟨tail, hentry, htail⟩ := toList_remoteEntry
    (fun p hp ↦ ⟨(h.port p hp).1.1, (h.port p hp).2⟩) fun p hp ↦ (h.proto p hp).1
  have hsplit : splitRemote (remoteEntry args).toList = (unbracketed host, args[1]?, args[2]?) := by
    rw [hentry, hhost, Option.getD_some]
    rcases unbracketed_cases host with hbare | hlit
    · rw [hbare] at hne hclose hhead ⊢
      exact splitRemote_tail hne hclose hhead htail
    · -- A literal is stored as it is written.
      have hkeep : bracketHost host = host := by
        rw [bracketHost, if_neg fun hc ↦ hc.2 (by rw [hlit]; rfl)]
      rw [hkeep, hlit, List.cons_append, List.append_assoc, List.singleton_append,
        splitRemote_bracket_tail hclose htail, String.ofList_toList]
  have hlen := h.length
  rw [remoteArgs, hsplit]
  rcases args with _ | ⟨host', _ | ⟨p, _ | ⟨q, _ | ⟨r, rest⟩⟩⟩⟩
  · simp at hhost
  · obtain rfl : host' = host := by simpa using hhost
    rfl
  · obtain rfl : host' = host := by simpa using hhost
    rfl
  · obtain rfl : host' = host := by simpa using hhost
    rfl
  · simp only [List.length_cons] at hlen
    omega

theorem IsRemotePart.isEntryChar {s : String} (h : IsRemotePart s) :
    ∀ c ∈ s.toList, IsEntryChar c := by
  intro c hc
  obtain ⟨hw, hcomma⟩ := h.2 c hc
  refine ⟨?_, hw⟩
  rw [isRemoteSep, ← Bool.not_eq_true, Bool.or_eq_true, Bool.or_eq_true, beq_iff_eq, beq_iff_eq,
    beq_iff_eq]
  rintro ((rfl | rfl) | rfl)
  · exact absurd hw (by decide)
  · exact absurd hw (by decide)
  · exact hcomma rfl

/-- The entry of a remote is one entry of the list. -/
theorem RemoteForm.isEntry {args : List String} (h : RemoteForm args) :
    remoteEntry args ≠ "" ∧ ∀ c ∈ (remoteEntry args).toList, IsEntryChar c := by
  obtain ⟨host, hhost, hpart, -⟩ := h.host
  have hchars : ∀ c ∈ host.toList, IsEntryChar c := by
    intro c hc
    rcases unbracketed_cases host with hbare | hlit
    · exact hpart.isEntryChar c (by rwa [hbare])
    · simp only [hlit, List.mem_cons, List.mem_append, List.not_mem_nil, or_false] at hc
      rcases hc with rfl | hc | rfl
      · exact ⟨rfl, by decide⟩
      · exact hpart.isEntryChar c hc
      · exact ⟨rfl, by decide⟩
  have hne : host ≠ "" := by
    rintro rfl
    exact hpart.1 (by decide)
  refine ⟨remoteEntry_ne_empty hhost hne, isEntryChar_of_mem_remoteEntry fun a ha ↦ ?_⟩
  obtain ⟨i, hi⟩ := List.getElem?_of_mem ha
  have hlt : i < args.length := (List.getElem?_eq_some_iff.mp hi).1
  have hlen := h.length
  obtain rfl | rfl | rfl : i = 0 ∨ i = 1 ∨ i = 2 := by omega
  · obtain rfl : host = a := Option.some_inj.mp (hhost.symm.trans hi)
    exact hchars
  · exact (h.port a hi).1.isEntryChar
  · exact (h.proto a hi).isEntryChar

theorem onlyInLists_remote : OnlyInLists (isOption "remote") := fun _ _ hne _ ↦
  beq_eq_false_iff_ne.mpr hne

/-- No preserved route is a remote. -/
theorem argsOf_remote_routeDirectives (data : VpnData) :
    argsOf "remote" (routeDirectives data) = [] := by
  refine List.eq_nil_iff_forall_not_mem.mpr fun args hargs ↦ ?_
  obtain ⟨name, args', he, hname⟩ := name_of_mem_routeDirectives _ (mem_argsOf.mp hargs)
  obtain ⟨rfl, -⟩ := Directive.option.inj he
  have hascii : "remote".toList.all isAscii = true := by decide
  exact absurd (hname (List.all_eq_true.mp hascii)) (by decide)

/-- The remotes of an emitted config are those of the remote block. -/
theorem argsOf_remote_of_filter {data : VpnData} {ds : List Directive}
    (h : ds.filter (isOption "remote") = (remoteDirectives data).filter (isOption "remote") ++
      (routeDirectives data).filter (isOption "remote")) :
    argsOf "remote" ds = argsOf "remote" (remoteDirectives data) := by
  rw [← argsOf_filter, h, argsOf_append, argsOf_filter, argsOf_filter,
    argsOf_remote_routeDirectives, List.append_nil]

/-- **The remote list is lossless.** For remotes of the form `host [port [proto]]`, what the
exporter writes for the imported list is the list of remotes that was imported, a literal without
its brackets; and so is what the connect path writes, which refuses to write anything if there are
none. -/
theorem remotes_survive {c : OvpnConfig}
    (h : ∀ args ∈ argsOf "remote" c.directives, RemoteForm args) :
    argsOf "remote" (fromNmData (asNmData c)).directives =
        (argsOf "remote" c.directives).map bareRemote ∧
      (match buildProfileString (asNmData c) with
      | .ok profile =>
        argsOf "remote" (optionsOf profile) = (argsOf "remote" c.directives).map bareRemote
      | .error _ => argsOf "remote" c.directives = []) ∧
      ∀ args ∈ argsOf "remote" c.directives, '[' ∉ (args.headD "").toList →
        bareRemote args = args := by
  have hdata : get (asNmData c) "remote" =
      appendAll "," none ((argsOf "remote" c.directives).map remoteEntry) := by
    rw [Ovpn.get, asNmData_of_not_mem (by decide), importAll_data_remote]
    refine argIsSet_appendAll fun item hi ↦ ?_
    obtain ⟨args, ha, rfl⟩ := List.mem_map.mp hi
    exact (h args ha).isEntry.1
  have hremotes : argsOf "remote" (remoteDirectives (asNmData c)) =
      (argsOf "remote" c.directives).map bareRemote := by
    rw [remoteDirectives_of_entries (fun args ha ↦ (h args ha).isEntry) hdata, argsOf_map]
    exact List.map_congr_left fun args ha ↦ (h args ha).remoteArgs_remoteEntry
  refine ⟨?_, ?_, ?_⟩
  · rw [argsOf_remote_of_filter (onlyInLists_remote.filter_fromNmData _), hremotes]
  · cases hcalls : writerCalls (asNmData c) with
    | error e =>
      rw [buildProfileString, hcalls]
      change argsOf "remote" c.directives = []
      rw [writerCalls] at hcalls
      cases hget : get (asNmData c) "remote" with
      | some gateways => simp [hget] at hcalls
      | none =>
        -- A list with a remote in it would be set.
        by_contra hne
        obtain ⟨args, ha⟩ := List.exists_mem_of_ne_nil _ hne
        obtain ⟨v, hv, -⟩ := exists_appendAll (.inr ⟨_, List.mem_map_of_mem ha,
          (h args ha).isEntry.1⟩)
        rw [hget, hv] at hdata
        simp at hdata
    | ok calls =>
      rw [buildProfileString, hcalls]
      change argsOf "remote" (optionsOf (writeAll calls)) = _
      rw [optionsOf_writeAll hcalls,
        argsOf_remote_of_filter (onlyInLists_remote.filter_writerCalls _ hcalls), hremotes]
  · intro args ha hopen
    obtain ⟨host, hhost, -⟩ := (h args ha).host
    cases args with
    | nil => simp at hhost
    | cons host' rest =>
      rcases unbracketed_cases host' with hbare | hlit
      · rw [bareRemote, hbare]
      · exact absurd (by simp [hlit]) hopen

/-- A bare and a bracketed literal, the first with a port and a protocol. -/
private def remotesConfig : OvpnConfig :=
  ⟨[.option "remote" ["2001:db8::1", "1194", "udp"], .option "dev" ["tun"],
    .option "remote" ["[2001:db8::2]"]]⟩

theorem remotes_survive_remotesConfig :
    argsOf "remote" (fromNmData (asNmData remotesConfig)).directives =
        [["2001:db8::1", "1194", "udp"], ["2001:db8::2"]] := by
  refine (remotes_survive (c := remotesConfig) ?_).1
  have hremotes : argsOf "remote" remotesConfig.directives =
      [["2001:db8::1", "1194", "udp"], ["[2001:db8::2]"]] := by rfl
  rw [hremotes]
  have part : ∀ s : String, s ≠ "" → (s.toList.all fun c ↦ !isWhitespace c && c != ',') = true →
      IsRemotePart s := by
    intro s hne hs
    refine ⟨hne, fun c hc ↦ ?_⟩
    simpa using List.all_eq_true.mp hs c hc
  simp only [List.forall_mem_cons, List.not_mem_nil, false_implies, implies_true, and_true]
  constructor
  · refine ⟨⟨_, rfl, part _ (by decide) (by decide), by decide, by decide⟩, ?_, ?_, by decide⟩
    · rintro port ⟨⟩
      exact ⟨part _ (by decide) (by decide), by decide⟩
    · rintro proto ⟨⟩
      exact part _ (by decide) (by decide)
  · refine ⟨⟨_, rfl, part _ (by decide) (by decide), by decide, by decide⟩, ?_, ?_, by decide⟩
    · rintro port ⟨⟩
    · rintro proto ⟨⟩

/-! ## Servers -/

/-- An entry of a remote list has a host: it is not empty and begins neither with a colon nor with
empty brackets. -/
def hasHost : List Char → Bool
  | [] => false
  | ':' :: _ => false
  | '[' :: ']' :: _ => false
  | _ => true

/-- The first part of an entry is empty only before a colon. -/
theorem splitn_head_eq_nil (c d : Char) (l : List Char) (n : ℕ) :
    (splitn d (n + 2) (c :: l))[0]?.getD [] = [] ↔ c = d := by
  rw [splitn, splitOnce]
  by_cases hc : c = d
  · simp [hc]
  · rw [if_neg hc]
    cases splitOnce d l <;> simp [hc]

theorem hasHost_iff (gw : List Char) : hasHost gw = true ↔ (splitRemote gw).1 ≠ "" := by
  have hempty : ∀ l, String.ofList l ≠ "" ↔ l ≠ [] := fun l ↦ by
    rw [Ne, ← String.toList_inj, String.toList_ofList]
    rfl
  cases gw with
  | nil => simp [hasHost, show (splitRemote []).1 = "" by rfl]
  | cons c gw =>
    by_cases hopen : c = '['
    · subst hopen
      have hstrip : stripPrefix ['['] ('[' :: gw) = some gw := stripPrefix_eq_some.mpr rfl
      cases hclose : splitOnce ']' gw with
      | none =>
        -- A bracket that is not closed belongs to the host.
        have hhost : hasHost ('[' :: gw) = true := by
          rcases gw with _ | ⟨d, gw⟩
          · rfl
          · have hd : d ≠ ']' := by
              rintro rfl
              simp [splitOnce] at hclose
            simp [hasHost, hd]
        rw [splitRemote, hstrip, Option.bind_some, hclose]
        simp only [hempty, Ne, splitn_head_eq_nil, hhost]
        decide
      | some p =>
        obtain ⟨host, tail⟩ := p
        obtain ⟨hmem, rfl⟩ := eq_append_of_splitOnce hclose
        rw [splitRemote, hstrip, Option.bind_some, hclose]
        simp only [hempty]
        cases host with
        | nil => simp [hasHost]
        | cons d host =>
          have hd : d ≠ ']' := fun e ↦ hmem (e ▸ List.mem_cons_self)
          simp [hasHost, hd]
    · rw [splitRemote_bare (by simpa using hopen)]
      simp only [hempty, Ne, splitn_head_eq_nil]
      by_cases hcolon : c = ':'
      · simp [hasHost, hcolon]
      · simp [hasHost, hcolon, hopen]

/-- A profile names a server: one of its remotes has a host. -/
def HasServer (profile : String) : Prop :=
  ∃ host rest, host ≠ "" ∧ .option "remote" (host :: rest) ∈ optionsOf profile

/-- **A profile has a server exactly when** some entry of the remote list has a host. -/
theorem hasServer_iff {data : VpnData} {profile : String}
    (h : buildProfileString data = .ok profile) : HasServer profile ↔
      ∃ remotes, data "remote" = some remotes ∧
        ∃ piece ∈ remotes.toList.splitOnP isRemoteSep, hasHost (trim piece) = true := by
  obtain ⟨calls, hcalls, rfl⟩ := buildProfileString_eq_ok h
  obtain ⟨remotes, hremotes⟩ := exists_remote_of_writerCalls hcalls
  have hmem : ∀ args, .option "remote" args ∈ optionsOf (writeAll calls) ↔
      ∃ gw ∈ remoteEntries remotes, remoteArgs gw = args := by
    intro args
    rw [← mem_argsOf, optionsOf_writeAll hcalls,
      argsOf_remote_of_filter (onlyInLists_remote.filter_writerCalls _ hcalls), remoteDirectives,
      hremotes, argsOf_map, List.mem_map]
  have hentry : ∀ gw, hasHost gw = true → (!gw.isEmpty) = true := by
    rintro (_ | ⟨c, gw⟩) hgw
    · exact hgw
    · rfl
  constructor
  · rintro ⟨host, rest, hne, hmem'⟩
    obtain ⟨gw, hgw, hargs⟩ := (hmem _).mp hmem'
    obtain ⟨piece, hpiece, rfl⟩ := List.mem_map.mp (List.mem_filter.mp hgw).1
    refine ⟨remotes, (get_eq_some.mp hremotes).1, piece, hpiece, (hasHost_iff _).mpr ?_⟩
    obtain rfl : (splitRemote (trim piece)).1 = host := (List.cons.inj hargs).1
    exact hne
  · rintro ⟨remotes', hremotes', piece, hpiece, hhost⟩
    obtain rfl : remotes = remotes' :=
      Option.some_inj.mp ((get_eq_some.mp hremotes).1.symm.trans hremotes')
    exact ⟨_, _, (hasHost_iff _).mp hhost, (hmem _).mpr
      ⟨trim piece, List.mem_filter.mpr ⟨List.mem_map_of_mem hpiece, hentry _ hhost⟩, rfl⟩⟩

/-- Two entries, of which the second has a host. -/
private def secondServer : VpnData := Dict.ofList [("remote", ":1194, [2001:db8::1]:1194")]

theorem hasServer_secondServer : ∃ profile, buildProfileString secondServer = .ok profile ∧
    HasServer profile := by
  obtain ⟨calls, hcalls, -⟩ := writerCalls_of_remote
    (show get secondServer "remote" = some ":1194, [2001:db8::1]:1194" by decide)
  have hprofile : buildProfileString secondServer = .ok (writeAll calls) := by
    rw [buildProfileString, hcalls]
    rfl
  exact ⟨_, hprofile, (hasServer_iff hprofile).mpr
    ⟨_, rfl, "[2001:db8::1]:1194".toList, by decide, by decide⟩⟩

/-- A separator counts as a remote list, of which nothing is left to connect to. -/
private def noServer : VpnData := Dict.ofList [("remote", ",")]

theorem not_hasServer : ¬ ∀ data profile, buildProfileString data = .ok profile →
    HasServer profile := by
  intro h
  obtain ⟨calls, hcalls, -⟩ := writerCalls_of_remote
    (show get noServer "remote" = some "," by decide)
  have hprofile : buildProfileString noServer = .ok (writeAll calls) := by
    rw [buildProfileString, hcalls]
    rfl
  obtain ⟨remotes, hremotes, piece, hpiece, hhost⟩ := (hasServer_iff hprofile).mp (h _ _ hprofile)
  obtain rfl : "," = remotes := Option.some_inj.mp hremotes
  have hnone : (",".toList.splitOnP isRemoteSep).all (fun piece ↦ !hasHost (trim piece)) = true :=
    by decide
  simpa [hhost] using List.all_eq_true.mp hnone piece hpiece

/-! ## Preserved routes -/

/-- The options of the route family, and those whose names begin like theirs. -/
def isRouteOption : Directive → Bool
  | .option name _ => "route".toList.isPrefixOf name.toList
  | .blob _ _ => false

/-- Arguments of a safe route: none is empty, and all consist of letters, digits and `.:/_-`. -/
def isSafeArgs (args : List String) : Bool :=
  args.all fun a ↦ a != "" && a.toList.all isRouteArgChar

/-- The safe routes of a config. -/
def safeRoutes (c : OvpnConfig) : List Directive :=
  ((argsOf "route" c.directives).filter isSafeArgs).map (.option "route")

/-- Both emitters write the safe routes of the config for its import, and no other directive that
looks like a route. -/
def RoutesSurvive (c : OvpnConfig) : Prop :=
  (fromNmData (asNmData c)).directives.filter isRouteOption = safeRoutes c ∧
    ∀ profile, buildProfileString (asNmData c) = .ok profile →
      (optionsOf profile).filter isRouteOption = safeRoutes c

theorem onlyInLists_route : OnlyInLists isRouteOption := by
  have h : ∀ name ∈ emitterTags, "route".toList.isPrefixOf name.toList = false := by decide
  exact fun name hname _ _ ↦ h name hname

theorem filter_route_remoteDirectives (data : VpnData) :
    (remoteDirectives data).filter isRouteOption = [] := by
  refine List.filter_eq_nil_iff.mpr fun x hx ↦ ?_
  obtain ⟨name, args, rfl, hname⟩ := allTagged_remoteDirectives data x hx
  rw [List.mem_singleton.mp hname, isRouteOption]
  decide

/-- What is preserved is emitted as options that look like routes. -/
theorem filter_route_routeDirectives (data : VpnData) :
    (routeDirectives data).filter isRouteOption = routeDirectives data := by
  refine List.filter_eq_self.mpr fun x hx ↦ ?_
  refine every_routeDirectives (P := (isRouteOption · = true)) ?_ x hx
  intro routes line w args hl hw _
  exact List.isPrefixOf_iff_prefix.mpr (route_prefix_of_mem_safeRouteLines hl hw)

/-- A list of pieces, of which the marked ones are single items, has no other items exactly when the
pieces without a mark are empty. -/
theorem flatMap_eq_map_filter_iff {α β : Type} {f : α → List β} {g : α → β} {p : α → Bool}
    {l : List α} (h : ∀ a ∈ l, p a = true → f a = [g a]) :
    l.flatMap f = (l.filter p).map g ↔ ∀ a ∈ l, p a = false → f a = [] := by
  have hle : ∀ l' : List α, (∀ a ∈ l', p a = true → f a = [g a]) →
      ((l'.filter p).map g).length ≤ (l'.flatMap f).length := by
    intro l' h'
    induction l' with
    | nil => simp
    | cons a l' ih =>
      rw [List.forall_mem_cons] at h'
      have := ih h'.2
      rw [List.flatMap_cons, List.length_append]
      by_cases ha : p a = true
      · rw [List.filter_cons_of_pos ha, List.map_cons, List.length_cons, h'.1 ha,
          List.length_singleton]
        omega
      · rw [List.filter_cons_of_neg ha]
        omega
  induction l with
  | nil => simp
  | cons a l ih =>
    obtain ⟨hhead, htail⟩ := List.forall_mem_cons.mp h
    have hrest := ih htail
    rw [List.forall_mem_cons, List.flatMap_cons]
    refine Iff.trans ?_ (and_congr_right fun _ ↦ hrest)
    by_cases ha : p a = true
    · rw [List.filter_cons_of_pos ha, List.map_cons, hhead ha, List.singleton_append,
        List.cons_inj_right]
      simp [ha]
    · rw [List.filter_cons_of_neg ha]
      constructor
      · -- An item of this piece would be one too many.
        intro heq
        have hlen := congrArg List.length heq
        rw [List.length_append] at hlen
        have hnil : f a = [] := List.length_eq_zero_iff.mp (by have := hle l htail; omega)
        rw [hnil, List.nil_append] at heq
        exact ⟨fun _ ↦ hnil, heq⟩
      · rintro ⟨hnil, heq⟩
        rw [hnil (by simpa using ha), List.nil_append, heq]

/-- The preserved routes of an import, each as what its own text becomes. -/
theorem routeDirectives_asNmData (c : OvpnConfig) :
    routeDirectives (asNmData c) = (argsOf "route" c.directives).flatMap rereadRoute := by
  refine routeDirectives_of_lines ?_
  rw [Ovpn.get, asNmData_of_not_mem (by decide), importAll_data_routes]
  exact argIsSet_appendAll (List.forall_mem_map.mpr fun args _ ↦ routeLine_ne_empty args)

theorem rereadRoute_of_isSafeArgs {args : List String} (h : isSafeArgs args = true) :
    rereadRoute args = [.option "route" args] := by
  refine (routeParts_of_safe fun a ha ↦ ?_).rereadRoute
  simpa using List.all_eq_true.mp h a ha

/-- **The preserved routes are the safe routes of the file**, in both emitted texts, exactly when no
unsafe `route` has a safe line in the text that its arguments are joined to. -/
theorem routes_survive_iff (c : OvpnConfig) : RoutesSurvive c ↔
    ∀ args ∈ argsOf "route" c.directives, isSafeArgs args = false →
      safeRouteLines (routeLine args) = [] := by
  have hiff : routeDirectives (asNmData c) = safeRoutes c ↔
      ∀ args ∈ argsOf "route" c.directives, isSafeArgs args = false →
        safeRouteLines (routeLine args) = [] := by
    rw [routeDirectives_asNmData, safeRoutes,
      flatMap_eq_map_filter_iff fun args _ ↦ rereadRoute_of_isSafeArgs]
    refine forall₃_congr fun args _ _ ↦ ?_
    rw [← List.length_eq_zero_iff, ← List.length_eq_zero_iff, rereadRoute,
      length_flatMap_routeDirective]
  rw [← hiff, RoutesSurvive, onlyInLists_route.filter_fromNmData, filter_route_remoteDirectives,
    filter_route_routeDirectives, List.nil_append, and_iff_left_iff_imp]
  intro hroutes profile hprofile
  obtain ⟨calls, hcalls, rfl⟩ := buildProfileString_eq_ok hprofile
  rw [optionsOf_writeAll hcalls, onlyInLists_route.filter_writerCalls _ hcalls,
    filter_route_remoteDirectives, filter_route_routeDirectives, List.nil_append, hroutes]

/-- A line feed in a quoted argument makes two routes of one, the second of which the file does not
have. -/
theorem not_routesSurvive_newline : ¬ ∀ (text : String) (c : OvpnConfig),
    OvpnConfig.parse text = .ok c → RoutesSurvive c := by
  intro h
  have := h "remote gw\nroute \"10.0.0.0\\nroute-gateway 1.2.3.4\"\n"
    ⟨[.option "remote" ["gw"], .option "route" ["10.0.0.0\nroute-gateway 1.2.3.4"]]⟩ (by rfl)
  have hlines := (routes_survive_iff _).mp this _ List.mem_cons_self (by decide)
  exact absurd hlines (by decide)

end Agreement

end NmOpenvpn3
