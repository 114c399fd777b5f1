import NmOpenvpn3.ImportExport.Reimport

/-!
# Remote lists and preserved routes

Two keys of `vpn.data` hold lists: `remote` joins its entries with commas, and the preserved routes
are joined with line feeds. The importer joins what the exporter takes apart. Here are the
conditions under which taking apart and joining are inverse to each other, first for one item and
then for the list.
-/

namespace NmOpenvpn3

namespace ImportExport

open Rust Ovpn

/-! ## Joining -/

/-- Items are joined to what is there already. -/
theorem appendAll_some {sep e : String} {items : List String} (he : e ≠ "")
    (h : ∀ item ∈ items, item ≠ "") :
    appendAll sep (some e) items = some (sep.intercalate (e :: items)) := by
  induction items generalizing e with
  | nil =>
    rw [String.intercalate_singleton]
    rfl
  | cons item items ih =>
    have hitem : item ≠ "" := h item List.mem_cons_self
    have hjoin : appendEntry sep (some e) item = e ++ sep ++ item := by
      simp [appendEntry, he]
    have hne : e ++ sep ++ item ≠ "" := by
      rw [Ne, String.append_eq_empty_iff]
      exact fun hc ↦ hitem hc.2
    change appendAll sep (some (appendEntry sep (some e) item)) items = _
    rw [hjoin, ih hne fun x hx ↦ h x (List.mem_cons_of_mem _ hx),
      String.intercalate_cons_append, String.intercalate_cons_cons]

/-- Items that are not empty are joined with one separator between each two. -/
theorem appendAll_none {sep : String} {items : List String} (hne : items ≠ [])
    (h : ∀ item ∈ items, item ≠ "") : appendAll sep none items = some (sep.intercalate items) := by
  cases items with
  | nil => exact absurd rfl hne
  | cons item items =>
    have hitem : item ≠ "" := h item List.mem_cons_self
    have hone : appendEntry sep none item = item := by simp [appendEntry]
    change appendAll sep (some (appendEntry sep none item)) items = _
    rw [hone, appendAll_some hitem fun x hx ↦ h x (List.mem_cons_of_mem _ hx)]

/-- A list of items that are not empty is set, or there are none. -/
theorem argIsSet_appendAll {sep : String} {items : List String} (h : ∀ item ∈ items, item ≠ "") :
    argIsSet (appendAll sep none items) = appendAll sep none items := by
  cases items with
  | nil => rfl
  | cons item items =>
    obtain ⟨v, hv, hne⟩ : ∃ v, appendAll sep none (item :: items) = some v ∧ v ≠ "" :=
      exists_appendAll (.inr ⟨item, List.mem_cons_self, h item List.mem_cons_self⟩)
    rw [hv, argIsSet, Option.filter_some, if_pos (by simpa using hne)]

/-! ## One remote -/

/-- The arguments of a `remote` that its entry can be decomposed into again. -/
structure RemoteParts (args : List String) : Prop where
  host : ∃ h, args[0]? = some h ∧ h ≠ "" ∧ ']' ∉ h.toList ∧ h.toList.head? ≠ some '['
  port : ∀ p, args[1]? = some p → p ≠ "" ∧ ':' ∉ p.toList
  proto : ∀ p, args[2]? = some p → p ≠ ""

theorem nonEmptyPart_some {s : String} (h : s ≠ "") : nonEmptyPart (some s.toList) = some s := by
  have : s.toList ≠ [] := fun hc ↦ h (String.toList_eq_nil_iff.mp hc)
  simp [nonEmptyPart, Option.filter, this]

/-- The parts of an entry whose host stands in brackets. -/
theorem splitRemote_bracket {h : List Char} (hh : ']' ∉ h) (tail : List Char) :
    splitRemote ('[' :: (h ++ ']' :: tail)) =
      let parts := splitn ':' 2 ((stripPrefix [':'] tail).getD tail)
      (String.ofList h, nonEmptyPart parts[0]?, nonEmptyPart parts[1]?) := by
  have hstrip : stripPrefix ['['] ('[' :: (h ++ ']' :: tail)) = some (h ++ ']' :: tail) := by
    simp [stripPrefix]
  rw [splitRemote, hstrip, Option.bind_some, splitOnce_append hh]

/-- The parts of an entry whose host does not begin with a bracket. -/
theorem splitRemote_bare {gw : List Char} (hh : gw.head? ≠ some '[') :
    splitRemote gw =
      let parts := splitn ':' 3 gw
      (String.ofList (parts[0]?.getD []), nonEmptyPart parts[1]?, nonEmptyPart parts[2]?) := by
  have hstrip : stripPrefix ['['] gw = none := by
    cases gw with
    | nil => rfl
    | cons c t =>
      have : c ≠ '[' := fun e ↦ hh (by rw [e]; rfl)
      simp [stripPrefix, this.symm]
  rw [splitRemote, hstrip, Option.bind_none]

theorem toList_bracketHost_of_colon {h : String} (hc : ':' ∈ h.toList)
    (hh : h.toList.head? ≠ some '[') : (bracketHost h).toList = '[' :: (h.toList ++ [']']) := by
  rw [bracketHost, if_pos ⟨hc, hh⟩]
  simp

/-- What stands behind a host splits into a port and a protocol, whether the host was bracketed or
not. -/
structure TailParts (tail : List Char) (port proto : Option String) : Prop where
  bracketed : ∃ a b, splitn ':' 2 ((stripPrefix [':'] tail).getD tail) = a :: b ∧
    nonEmptyPart (some a) = port ∧ nonEmptyPart b[0]? = proto
  bare : ∀ h, ':' ∉ h → ∃ parts, splitn ':' 3 (h ++ tail) = h :: parts ∧
    nonEmptyPart parts[0]? = port ∧ nonEmptyPart parts[1]? = proto

theorem tailParts_nil : TailParts [] none none where
  bracketed := ⟨[], [], rfl, rfl, rfl⟩
  bare h hh := ⟨[], by rw [List.append_nil, splitn_of_not_mem hh], rfl, rfl⟩

theorem stripPrefix_colon (l : List Char) : (stripPrefix [':'] (':' :: l)).getD (':' :: l) = l := by
  simp [stripPrefix]

theorem tailParts_port {p : String} (hne : p ≠ "") (hp : ':' ∉ p.toList) :
    TailParts (':' :: p.toList) (some p) none where
  bracketed := ⟨p.toList, [], by rw [stripPrefix_colon, splitn_of_not_mem hp],
    nonEmptyPart_some hne, rfl⟩
  bare h hh := ⟨[p.toList], by rw [splitn_append hh, splitn_of_not_mem hp],
    nonEmptyPart_some hne, rfl⟩

theorem tailParts_proto {p q : String} (hne : p ≠ "") (hp : ':' ∉ p.toList) (hq : q ≠ "") :
    TailParts (':' :: (p.toList ++ ':' :: q.toList)) (some p) (some q) where
  bracketed := ⟨p.toList, [q.toList], by rw [stripPrefix_colon, splitn_append hp]; rfl,
    nonEmptyPart_some hne, nonEmptyPart_some hq⟩
  bare h hh := ⟨[p.toList, q.toList], by rw [splitn_append hh, splitn_append hp]; rfl,
    nonEmptyPart_some hne, nonEmptyPart_some hq⟩

theorem splitRemote_bracket_tail {h : List Char} (hbr : ']' ∉ h) {tail : List Char}
    {port proto : Option String} (ht : TailParts tail port proto) :
    splitRemote ('[' :: (h ++ ']' :: tail)) = (String.ofList h, port, proto) := by
  obtain ⟨a, b, hs, rfl, rfl⟩ := ht.bracketed
  rw [splitRemote_bracket hbr, hs]
  rfl

theorem splitRemote_bare_tail {h : List Char} (hne : h ≠ []) (hc : ':' ∉ h)
    (hhead : h.head? ≠ some '[') {tail : List Char} {port proto : Option String}
    (ht : TailParts tail port proto) :
    splitRemote (h ++ tail) = (String.ofList h, port, proto) := by
  obtain ⟨parts, hs, rfl, rfl⟩ := ht.bare _ hc
  have hgw : (h ++ tail).head? ≠ some '[' := by
    rwa [List.head?_append_of_ne_nil _ hne]
  rw [splitRemote_bare hgw, hs]
  rfl

theorem splitRemote_tail {h : String} (hne : h ≠ "") (hbr : ']' ∉ h.toList)
    (hhead : h.toList.head? ≠ some '[') {tail : List Char} {port proto : Option String}
    (ht : TailParts tail port proto) :
    splitRemote ((bracketHost h).toList ++ tail) = (h, port, proto) := by
  by_cases hc : ':' ∈ h.toList
  · rw [toList_bracketHost_of_colon hc hhead, List.cons_append, List.append_assoc,
      List.singleton_append, splitRemote_bracket_tail hbr ht, String.ofList_toList]
  · have hnil : h.toList ≠ [] := fun e ↦ hne (String.toList_eq_nil_iff.mp e)
    rw [bracketHost, if_neg fun hb ↦ hc hb.1, splitRemote_bare_tail hnil hc hhead ht,
      String.ofList_toList]

/-- An entry is a host with a port and a protocol behind it. -/
theorem toList_remoteEntry {args : List String}
    (hport : ∀ p, args[1]? = some p → p ≠ "" ∧ ':' ∉ p.toList)
    (hproto : ∀ p, args[2]? = some p → p ≠ "") :
    ∃ tail, (remoteEntry args).toList = (bracketHost (args[0]?.getD "")).toList ++ tail ∧
      TailParts tail args[1]? args[2]? := by
  rcases args with _ | ⟨host, _ | ⟨p, _ | ⟨q, rest⟩⟩⟩
  · exact ⟨[], by simp [remoteEntry], tailParts_nil⟩
  · exact ⟨[], by simp [remoteEntry], tailParts_nil⟩
  · obtain ⟨hp, hpc⟩ := hport p rfl
    exact ⟨_, by simp [remoteEntry], tailParts_port hp hpc⟩
  · obtain ⟨hp, hpc⟩ := hport p rfl
    exact ⟨_, by simp [remoteEntry], tailParts_proto hp hpc (hproto q rfl)⟩

/-- **The entry of a remote is decomposed into its arguments.** -/
theorem splitRemote_remoteEntry {args : List String} (h : RemoteParts args) :
    splitRemote (remoteEntry args).toList = (args[0]?.getD "", args[1]?, args[2]?) := by
  obtain ⟨host, hhost, hne, hbr, hhead⟩ := h.host
  obtain ⟨tail, hentry, htail⟩ := toList_remoteEntry h.port h.proto
  rw [hentry, hhost]
  exact splitRemote_tail hne hbr hhead htail

theorem remoteArgs_remoteEntry {args : List String} (h : RemoteParts args) :
    remoteArgs (remoteEntry args).toList = args.take 3 := by
  rw [remoteArgs, splitRemote_remoteEntry h]
  obtain ⟨host, hhost, -⟩ := h.host
  rcases args with _ | ⟨host', _ | ⟨p, _ | ⟨q, rest⟩⟩⟩
  · simp at hhost
  all_goals rfl

theorem remoteEntry_take (args : List String) : remoteEntry (args.take 3) = remoteEntry args := by
  rcases args with _ | ⟨host', _ | ⟨p, _ | ⟨q, rest⟩⟩⟩ <;> rfl

/-- An entry of a remote list: a host, possibly in brackets, and at most two more parts. -/
structure WellFormedRemote (gw : List Char) : Prop where
  shape : ∃ (host : List Char) (rest : List (List Char)),
    (gw = host ++ rest.flatMap (':' :: ·) ∧ ':' ∉ host ∨
      gw = '[' :: (host ++ ']' :: rest.flatMap (':' :: ·))) ∧
    host ≠ [] ∧ '[' ∉ host ∧ ']' ∉ host ∧ rest.length ≤ 2 ∧ ∀ part ∈ rest, part ≠ [] ∧ ':' ∉ part
  noSpace : ∀ c ∈ gw, isWhitespace c = false

theorem ofList_ne_empty {l : List Char} (h : l ≠ []) : String.ofList l ≠ "" := by
  intro e
  have := congrArg String.toList e
  rw [String.toList_ofList] at this
  exact h this

/-- The parts of a well-formed entry are the arguments of its `remote`. -/
theorem remoteArgs_of_parts {gw host : List Char} {rest : List (List Char)}
    (hgw : gw = host ++ rest.flatMap (':' :: ·) ∧ ':' ∉ host ∨
      gw = '[' :: (host ++ ']' :: rest.flatMap (':' :: ·)))
    (hne : host ≠ []) (hopen : '[' ∉ host) (hclose : ']' ∉ host) (hlen : rest.length ≤ 2)
    (hrest : ∀ part ∈ rest, part ≠ [] ∧ ':' ∉ part) :
    remoteArgs gw = (host :: rest).map String.ofList := by
  have hhead : host.head? ≠ some '[' := fun e ↦ hopen (List.mem_of_mem_head? e)
  have hsplit : ∀ {port proto}, TailParts (rest.flatMap (':' :: ·)) port proto →
      splitRemote gw = (String.ofList host, port, proto) := by
    intro port proto ht
    rcases hgw with ⟨rfl, hc⟩ | rfl
    · exact splitRemote_bare_tail hne hc hhead ht
    · exact splitRemote_bracket_tail hclose ht
  rcases rest with _ | ⟨p, _ | ⟨q, _ | ⟨r, rest⟩⟩⟩
  · rw [remoteArgs, hsplit (by simpa using tailParts_nil)]
    rfl
  · obtain ⟨hp, hpc⟩ := hrest p (by simp)
    have := tailParts_port (p := String.ofList p) (ofList_ne_empty hp) (by simpa using hpc)
    rw [remoteArgs, hsplit (by simpa using this)]
    rfl
  · obtain ⟨hp, hpc⟩ := hrest p (by simp)
    obtain ⟨hq, -⟩ := hrest q (by simp)
    have := tailParts_proto (p := String.ofList p) (q := String.ofList q) (ofList_ne_empty hp)
      (by simpa using hpc) (ofList_ne_empty hq)
    rw [remoteArgs, hsplit (by simpa using this)]
    rfl
  · simp at hlen

/-- The characters that do not end an entry of the remote list. -/
def IsEntryChar (c : Char) : Prop := isRemoteSep c = false ∧ isWhitespace c = false

/-- The arguments of a well-formed entry can be decomposed again. -/
theorem WellFormedRemote.remoteParts {gw : List Char} (h : WellFormedRemote gw) :
    RemoteParts (remoteArgs gw) ∧ (remoteArgs gw).take 3 = remoteArgs gw ∧
      ∀ a ∈ remoteArgs gw, ∀ c ∈ a.toList, c ∈ gw := by
  obtain ⟨host, rest, hgw, hne, hopen, hclose, hlen, hrest⟩ := h.shape
  have hargs := remoteArgs_of_parts hgw hne hopen hclose hlen hrest
  -- Port and protocol are the parts after the host, none of which is empty.
  have hpart : ∀ (i : ℕ) (a : String), ((host :: rest).map String.ofList)[i + 1]? = some a →
      a ≠ "" ∧ ':' ∉ a.toList := by
    intro i a ha
    rw [List.map_cons, List.getElem?_cons_succ, List.getElem?_map, Option.map_eq_some_iff] at ha
    obtain ⟨part, hp, rfl⟩ := ha
    obtain ⟨hp1, hp2⟩ := hrest part (List.mem_of_getElem? hp)
    exact ⟨ofList_ne_empty hp1, by rwa [String.toList_ofList]⟩
  rw [hargs]
  refine ⟨⟨⟨String.ofList host, rfl, ofList_ne_empty hne, ?_, ?_⟩, fun p hp ↦ hpart 0 p hp,
    fun q hq ↦ (hpart 1 q hq).1⟩, ?_, ?_⟩
  · rwa [String.toList_ofList]
  · rw [String.toList_ofList]
    exact fun e ↦ hopen (List.mem_of_mem_head? e)
  · refine List.take_of_length_le ?_
    rw [List.length_map, List.length_cons]
    omega
  · intro a ha c hc
    obtain ⟨l, hl, rfl⟩ := List.mem_map.mp ha
    rw [String.toList_ofList] at hc
    have hin : c ∈ host ∨ c ∈ rest.flatMap (':' :: ·) := by
      rcases List.mem_cons.mp hl with rfl | hl
      · exact .inl hc
      · exact .inr (List.mem_flatMap.mpr ⟨l, hl, List.mem_cons_of_mem _ hc⟩)
    rcases hgw with ⟨rfl, -⟩ | rfl
    · simpa using hin
    · simp only [List.mem_cons, List.mem_append]
      tauto

/-! ## The remote list -/

theorem mem_bracketHost {h : String} {c : Char} (hc : c ∈ (bracketHost h).toList) :
    c = '[' ∨ c = ']' ∨ c ∈ h.toList := by
  unfold bracketHost at hc
  split_ifs at hc with hb
  · simp only [String.toList_append, List.mem_append] at hc
    rcases hc with (hc | hc) | hc
    · exact .inl (by simpa using hc)
    · exact .inr (.inr hc)
    · exact .inr (.inl (by simpa using hc))
  · exact .inr (.inr hc)

/-- The text of an entry holds brackets, colons, and what its parts hold. -/
theorem mem_remoteEntry {args : List String} {c : Char} (hc : c ∈ (remoteEntry args).toList) :
    c = '[' ∨ c = ']' ∨ c = ':' ∨ ∃ a ∈ args, c ∈ a.toList := by
  have ofHost : ∀ {host}, host ∈ args → c ∈ (bracketHost host).toList →
      c = '[' ∨ c = ']' ∨ c = ':' ∨ ∃ a ∈ args, c ∈ a.toList := by
    intro host hhost hc
    rcases mem_bracketHost hc with h | h | h
    · exact .inl h
    · exact .inr (.inl h)
    · exact .inr (.inr (.inr ⟨host, hhost, h⟩))
  -- An entry has at most three parts; what follows the third argument is not in it.
  rcases args with _ | ⟨host, _ | ⟨p, _ | ⟨q, rest⟩⟩⟩
  · simp [remoteEntry, bracketHost] at hc
  · exact ofHost List.mem_cons_self (by simpa [remoteEntry] using hc)
  · have hc' : c ∈ (bracketHost host).toList ∨ c = ':' ∨ c ∈ p.toList := by
      simpa [remoteEntry] using hc
    rcases hc' with hc | h | h
    · exact ofHost List.mem_cons_self hc
    · exact .inr (.inr (.inl h))
    · exact .inr (.inr (.inr ⟨p, by simp, h⟩))
  · have hc' : c ∈ (bracketHost host).toList ∨ c = ':' ∨ c ∈ p.toList ∨ c = ':' ∨
        c ∈ q.toList := by
      simpa [remoteEntry, or_assoc] using hc
    rcases hc' with hc | h | h | h | h
    · exact ofHost List.mem_cons_self hc
    · exact .inr (.inr (.inl h))
    · exact .inr (.inr (.inr ⟨p, by simp, h⟩))
    · exact .inr (.inr (.inl h))
    · exact .inr (.inr (.inr ⟨q, by simp, h⟩))

theorem remoteEntry_ne_empty {args : List String} {host : String} (hhost : args[0]? = some host)
    (hne : host ≠ "") : remoteEntry args ≠ "" := by
  have hb : bracketHost host ≠ "" := by
    unfold bracketHost
    split_ifs
    · simp
    · exact hne
  rw [remoteEntry, hhost, Option.getD_some, Ne, String.append_eq_empty_iff,
    String.append_eq_empty_iff]
  exact fun hc ↦ hb hc.1.1

theorem RemoteParts.remoteEntry_ne_empty {args : List String} (h : RemoteParts args) :
    remoteEntry args ≠ "" := by
  obtain ⟨host, hhost, hne, -⟩ := h.host
  exact ImportExport.remoteEntry_ne_empty hhost hne

/-- Entries that were joined with commas are found again. -/
theorem remoteEntries_intercalate {items : List String} (hne : items ≠ [])
    (h : ∀ item ∈ items, item ≠ "" ∧ ∀ c ∈ item.toList, IsEntryChar c) :
    remoteEntries (",".intercalate items) = items.map String.toList := by
  have hsplit : ([','].intercalate (items.map String.toList)).splitOnP isRemoteSep =
      items.map String.toList := by
    refine splitOnP_intercalate rfl (by simpa using hne) fun l hl d hd ↦ ?_
    obtain ⟨item, hi, rfl⟩ := List.mem_map.mp hl
    exact ((h item hi).2 d hd).1
  -- Neither end of an entry is white space, so that trimming takes nothing away.
  have htrim : (items.map String.toList).map trim = items.map String.toList := by
    rw [List.map_map]
    refine List.map_congr_left fun item hi ↦ trim_eq_self (fun c hc ↦ ?_) fun c hc ↦ ?_
    · exact ((h item hi).2 c (List.mem_of_mem_head? hc)).2
    · exact ((h item hi).2 c (List.mem_of_getLast? hc)).2
  rw [remoteEntries, String.toList_intercalate]
  change (((([','].intercalate (items.map String.toList)).splitOnP isRemoteSep).map trim).filter
    fun gw ↦ !gw.isEmpty) = _
  rw [hsplit, htrim, List.filter_eq_self]
  intro l hl
  obtain ⟨item, hi, rfl⟩ := List.mem_map.mp hl
  simpa using (h item hi).1

/-- A remote list is exported entry by entry. -/
theorem remoteDirectives_of_entries {data : VpnData} {l : List (List String)}
    (hl : ∀ args ∈ l, remoteEntry args ≠ "" ∧ ∀ c ∈ (remoteEntry args).toList, IsEntryChar c)
    (h : get data "remote" = appendAll "," none (l.map remoteEntry)) :
    remoteDirectives data =
      l.map fun args ↦ .option "remote" (remoteArgs (remoteEntry args).toList) := by
  have hitems : ∀ item ∈ l.map remoteEntry, item ≠ "" ∧ ∀ c ∈ item.toList, IsEntryChar c := by
    intro item hi
    obtain ⟨args, ha, rfl⟩ := List.mem_map.mp hi
    exact hl args ha
  cases l with
  | nil =>
    rw [remoteDirectives, h]
    rfl
  | cons args l =>
    rw [appendAll_none (by simp) fun item hi ↦ (hitems item hi).1] at h
    rw [remoteDirectives, h]
    simp only
    rw [remoteEntries_intercalate (by simp) hitems, List.map_map, List.map_map]
    rfl

/-- The characters of an entry are entry characters if those of its parts are. -/
theorem isEntryChar_of_mem_remoteEntry {args : List String}
    (h : ∀ a ∈ args, ∀ c ∈ a.toList, IsEntryChar c) :
    ∀ c ∈ (remoteEntry args).toList, IsEntryChar c := by
  intro c hc
  rcases mem_remoteEntry hc with rfl | rfl | rfl | ⟨a, hm, hca⟩
  · exact ⟨rfl, by decide⟩
  · exact ⟨rfl, by decide⟩
  · exact ⟨rfl, by decide⟩
  · exact h a hm c hca

/-- **A remote list that was joined from arguments is exported as these arguments.** -/
theorem remoteDirectives_of_join {data : VpnData} {l : List (List String)}
    (hl : ∀ args ∈ l, RemoteParts args ∧ ∀ a ∈ args, ∀ c ∈ a.toList, IsEntryChar c)
    (h : get data "remote" = appendAll "," none (l.map remoteEntry)) :
    remoteDirectives data = l.map fun args ↦ .option "remote" (args.take 3) := by
  rw [remoteDirectives_of_entries (fun args ha ↦ ⟨(hl args ha).1.remoteEntry_ne_empty,
    isEntryChar_of_mem_remoteEntry (hl args ha).2⟩) h]
  exact List.map_congr_left fun args ha ↦ by rw [remoteArgs_remoteEntry (hl args ha).1]

/-! ## One route -/

/-- The arguments of a `route` whose preserved line is exported again. White space outside ASCII may
stand inside an argument, but not at the end of the line. -/
structure RouteParts (args : List String) : Prop where
  word : ∀ a ∈ args, a ≠ "" ∧ ∀ c ∈ a.toList, isAsciiWhitespace c = false ∧ isControl c = false
  safe : ∀ a ∈ args, ∀ w ∈ splitWhitespace a.toList, ∀ c ∈ w, isRouteArgChar c = true
  last : ∀ a, args.getLast? = some a → ∀ c, a.toList.getLast? = some c → isWhitespace c = false

theorem toList_routeLine (args : List String) : (routeLine args).toList =
    [' '].intercalate ("route".toList :: args.map String.toList) := by
  rw [routeLine, String.toList_intercalate, List.map_cons]
  rfl

/-- The line begins with the `r` of its name. -/
theorem head_routeLine (args : List String) : (routeLine args).toList.head? = some 'r' := by
  rw [toList_routeLine]
  cases args with
  | nil => rfl
  | cons a args =>
    rw [List.map_cons, List.intercalate_cons_cons]
    rfl

theorem routeLine_ne_empty (args : List String) : routeLine args ≠ "" := by
  intro he
  have := head_routeLine args
  rw [he] at this
  simp at this

section RouteParts

variable {args : List String} (h : RouteParts args)

include h

theorem RouteParts.words : words isAsciiWhitespace (routeLine args).toList =
    "route".toList :: args.map String.toList := by
  rw [toList_routeLine]
  refine words_intercalate_words rfl fun l hl ↦ ?_
  rcases List.mem_cons.mp hl with rfl | hl
  · exact ⟨by simp, forall_eq_false_of_all (by decide)⟩
  · obtain ⟨a, ha, rfl⟩ := List.mem_map.mp hl
    obtain ⟨hne, hc⟩ := h.word a ha
    exact ⟨by simpa using hne, fun c hca ↦ (hc c hca).1⟩

theorem RouteParts.routeWords : routeWords (routeLine args).toList = "route" :: args := by
  have hid : String.ofList ∘ String.toList = id := funext fun _ ↦ String.ofList_toList
  rw [Ovpn.routeWords, h.words, List.map_cons, List.map_map, hid, List.map_id,
    String.ofList_toList]

theorem RouteParts.noControl : ∀ c ∈ (routeLine args).toList, isControl c = false := by
  intro c hc
  rw [toList_routeLine] at hc
  rcases mem_intercalate_singleton hc with rfl | ⟨l, hl, hcl⟩
  · decide
  · rcases List.mem_cons.mp hl with rfl | hl
    · exact forall_eq_false_of_all (by decide) c hcl
    · obtain ⟨a, ha, rfl⟩ := List.mem_map.mp hl
      exact ((h.word a ha).2 c hcl).2

theorem RouteParts.isSafeRouteLine : isSafeRouteLine (routeLine args).toList = true := by
  refine isSafeRouteLine_iff.mpr ⟨fun c hc ↦ ?_, "route".toList,
    (args.map String.toList).flatMap splitWhitespace, ?_, by decide, fun tok ht ↦ ?_⟩
  · exact h.noControl c hc
  · rw [splitWhitespace, ← words_flatMap_words fun _ ↦ isWhitespace_of_isAsciiWhitespace, h.words,
      List.flatMap_cons]
    rfl
  · obtain ⟨l, hl, hm⟩ := List.mem_flatMap.mp ht
    obtain ⟨a, ha, rfl⟩ := List.mem_map.mp hl
    exact ⟨(mem_words hm).1, h.safe a ha tok hm⟩

theorem RouteParts.trim : trim (routeLine args).toList = (routeLine args).toList := by
  refine trim_eq_self (fun c hc ↦ ?_) fun c hc ↦ ?_
  · rw [head_routeLine] at hc
    cases hc
    decide
  · rw [toList_routeLine] at hc
    rcases List.eq_nil_or_concat args with rfl | ⟨init, a, rfl⟩
    · rw [List.map_nil, List.intercalate_singleton] at hc
      cases hc
      decide
    · have hlast : ("route".toList :: (init.concat a).map String.toList).getLast? =
          some a.toList := by
        rw [List.concat_eq_append, List.map_append, ← List.cons_append]
        exact List.getLast?_concat
      have hne : a.toList ≠ [] := by
        have := (h.word a (by simp)).1
        simpa using this
      rw [getLast?_intercalate hlast hne] at hc
      exact h.last a (by simp) c hc

end RouteParts

/-- Arguments of nothing but argument characters can be exported again. -/
theorem routeParts_of_safe {args : List String}
    (h : ∀ a ∈ args, a ≠ "" ∧ ∀ c ∈ a.toList, isRouteArgChar c = true) : RouteParts args where
  word a ha := by
    refine ⟨(h a ha).1, fun c hc ↦ ?_⟩
    obtain ⟨hw, hctl, -⟩ := chars_of_isRouteArgChar ((h a ha).2 c hc)
    refine ⟨?_, hctl⟩
    by_contra hascii
    rw [Bool.not_eq_false] at hascii
    rw [isWhitespace_of_isAsciiWhitespace hascii] at hw
    cases hw
  safe a ha w hw c hc := (h a ha).2 c ((mem_words hw).2 c hc).2
  last a ha c hc :=
    (chars_of_isRouteArgChar ((h a (List.mem_of_getLast? ha)).2 c (List.mem_of_getLast? hc))).1

/-! ## The preserved routes -/

/-- The preserved lines are found where the text is split at line feeds. -/
theorem safeRouteLines_eq_splitOn (routes : String) : safeRouteLines routes =
    ((routes.toList.splitOn '\n').map Rust.trim).filter
      fun line ↦ !line.isEmpty && Ovpn.isSafeRouteLine line := by
  have key : ∀ l acc : List Char, '\n' ∉ acc →
      ((linesFrom acc l).map Rust.trim).filter
          (fun line ↦ !line.isEmpty && Ovpn.isSafeRouteLine line) =
        (((acc.reverse ++ l).splitOn '\n').map Rust.trim).filter
          fun line ↦ !line.isEmpty && Ovpn.isSafeRouteLine line := by
    intro l
    induction l with
    | nil =>
      intro acc hacc
      have hone : acc.reverse.splitOn '\n' = [acc.reverse] := by
        refine List.splitOnP_eq_singleton fun c hc ↦ beq_eq_false_iff_ne.mpr ?_
        rintro rfl
        exact hacc (List.mem_reverse.mp hc)
      rw [linesFrom, List.append_nil, hone]
      split_ifs with hnil
      · rw [List.isEmpty_iff.mp hnil]
        rfl
      · rfl
    | cons c cs ih =>
      intro acc hacc
      rw [linesFrom]
      split_ifs with hc
      · have hone : acc.reverse.splitOnP (· == '\n') = [acc.reverse] := by
          refine List.splitOnP_eq_singleton fun c hc ↦ beq_eq_false_iff_ne.mpr ?_
          rintro rfl
          exact hacc (List.mem_reverse.mp hc)
        have hline : Rust.trim (stripCr acc).reverse = Rust.trim acc.reverse := by
          rw [← trim_chopCr acc.reverse, chopCr, List.reverse_reverse]
        have hrest := ih [] (by simp)
        rw [List.reverse_nil, List.nil_append, List.splitOn] at hrest
        rw [hc, List.splitOn, List.splitOnP_append_cons _ _ (by simp), hone, List.singleton_append,
          List.map_cons, List.map_cons, List.filter_cons, List.filter_cons, hline, hrest]
      · have hrest := ih (c :: acc) (by simp [hacc, Ne.symm hc])
        rwa [List.reverse_cons, List.append_assoc, List.singleton_append] at hrest
  exact key routes.toList [] (by simp)

/-- The preserved lines of joined texts are those of the texts. -/
theorem safeRouteLines_join {items : List String} (hne : items ≠ []) :
    safeRouteLines ("\n".intercalate items) = items.flatMap safeRouteLines := by
  have hsplit : ("\n".intercalate items).toList.splitOn '\n' =
      items.flatMap fun item ↦ item.toList.splitOn '\n' := by
    rw [String.toList_intercalate]
    change (['\n'].intercalate (items.map String.toList)).splitOn '\n' = _
    induction items with
    | nil => exact absurd rfl hne
    | cons item items ih =>
      cases items with
      | nil => simp
      | cons item' items =>
        rw [List.map_cons, List.map_cons, List.intercalate_cons_cons, List.append_assoc,
          List.singleton_append, List.splitOn, List.splitOnP_append_cons _ _ (by simp),
          List.flatMap_cons, ← ih (by simp)]
        rfl
  rw [safeRouteLines_eq_splitOn, hsplit, List.map_flatMap, List.filter_flatMap]
  exact List.flatMap_congr fun item _ ↦ (safeRouteLines_eq_splitOn item).symm

/-- Every preserved line is one directive. -/
theorem length_flatMap_routeDirective (routes : String) :
    ((safeRouteLines routes).flatMap routeDirective).length = (safeRouteLines routes).length := by
  rw [List.length_flatMap, List.map_congr_left (g := fun _ ↦ 1) fun line hline ↦ ?_]
  · simp
  · obtain ⟨w, args, -, -, he⟩ := routeDirective_eq hline
    rw [he]
    rfl

/-- The directives that the preserved text of one `route` becomes. -/
def rereadRoute (args : List String) : List Directive :=
  (safeRouteLines (routeLine args)).flatMap routeDirective

/-- **Preserved routes that were joined are exported one after the other**, each as what its own
text becomes. -/
theorem routeDirectives_of_lines {data : VpnData} {l : List (List String)}
    (h : get data "nm-openvpn3-extra-routes" = appendAll "\n" none (l.map routeLine)) :
    routeDirectives data = l.flatMap rereadRoute := by
  cases l with
  | nil =>
    rw [routeDirectives, h]
    rfl
  | cons args l =>
    rw [appendAll_none (by simp)
      (List.forall_mem_map.mpr fun args _ ↦ routeLine_ne_empty args)] at h
    rw [routeDirectives, h]
    simp only
    rw [safeRouteLines_join (by simp), List.flatMap_assoc, List.flatMap_map]
    rfl

/-- A route whose line is exported again becomes itself. -/
theorem RouteParts.rereadRoute {args : List String} (h : RouteParts args) :
    rereadRoute args = [.option "route" args] := by
  have hnewline : '\n' ∉ (routeLine args).toList := fun hn ↦
    absurd (h.noControl _ hn) (by decide)
  have hone : (routeLine args).toList.splitOn '\n' = [(routeLine args).toList] := by
    refine List.splitOnP_eq_singleton fun c hc ↦ beq_eq_false_iff_ne.mpr ?_
    rintro rfl
    exact hnewline hc
  have hne : (routeLine args).toList ≠ [] := by simpa using routeLine_ne_empty args
  have hlines : safeRouteLines (routeLine args) = [(routeLine args).toList] := by
    rw [safeRouteLines_eq_splitOn, hone, List.map_singleton, h.trim, List.filter_cons_of_pos]
    · rfl
    · rw [h.isSafeRouteLine]
      simpa using hne
  rw [ImportExport.rereadRoute, hlines, List.flatMap_singleton, routeDirective,
    tokenize_safeRouteLine h.isSafeRouteLine, h.routeWords]

/-- **Preserved routes that were joined from arguments are exported as `route` options.** -/
theorem routeDirectives_of_join {data : VpnData} {l : List (List String)}
    (hl : ∀ args ∈ l, RouteParts args)
    (h : get data "nm-openvpn3-extra-routes" = appendAll "\n" none (l.map routeLine)) :
    routeDirectives data = l.map fun args ↦ .option "route" args := by
  rw [routeDirectives_of_lines h, List.map_eq_flatMap]
  exact List.flatMap_congr fun args ha ↦ (hl args ha).rereadRoute

/-- The `route` lines among the preserved ones can be exported again. -/
theorem routeParts_of_mem_safeRouteLines {routes : String} {line : List Char} {args : List String}
    (h : line ∈ safeRouteLines routes) (hw : routeWords line = "route" :: args) :
    RouteParts args := by
  obtain ⟨-, hsafe, hctl⟩ := of_mem_safeRouteLines h
  have hmem : ∀ a ∈ args, a.toList ∈ words isAsciiWhitespace line := by
    intro a ha
    have : a ∈ routeWords line := hw ▸ List.mem_cons_of_mem _ ha
    obtain ⟨l, hl, rfl⟩ := List.mem_map.mp this
    rwa [String.toList_ofList]
  refine ⟨fun a ha ↦ ?_, fun a ha w hwa ↦ ?_, fun a ha c hc ↦ ?_⟩
  · obtain ⟨hne, hc⟩ := mem_words (hmem a ha)
    exact ⟨by simpa using hne, fun c hca ↦ ⟨(hc c hca).1, hctl c (hc c hca).2⟩⟩
  · refine isRouteArgChar_of_mem_word hsafe ?_
    rw [splitWhitespace, ← words_flatMap_words fun _ ↦ isWhitespace_of_isAsciiWhitespace]
    exact List.mem_flatMap.mpr ⟨_, hmem a ha, hwa⟩
  · -- The last word ends as the line does.
    obtain ⟨t, d, rfl⟩ : ∃ t d, line = t ++ [d] :=
      ⟨_, _, (List.dropLast_append_getLast (of_mem_safeRouteLines h).1).symm⟩
    have hd : isWhitespace d = false :=
      isWhitespace_getLast_of_mem_safeRouteLines h List.getLast?_concat
    have hda : isAsciiWhitespace d = false := by
      by_contra hda
      rw [Bool.not_eq_false] at hda
      rw [isWhitespace_of_isAsciiWhitespace hda] at hd
      simp at hd
    obtain ⟨ws, w, hws⟩ := words_concat_run hda t
    have hlast : (routeWords (t ++ [d])).getLast? = some (String.ofList (w ++ [d])) := by
      rw [routeWords, hws, List.map_append]
      exact List.getLast?_concat
    rw [hw, List.getLast?_cons, ha, Option.getD_some, Option.some_inj] at hlast
    rw [hlast, String.toList_ofList, List.getLast?_concat, Option.some_inj] at hc
    exact hc ▸ hd

end ImportExport

end NmOpenvpn3
