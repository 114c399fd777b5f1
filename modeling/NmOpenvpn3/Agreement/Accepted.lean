import NmOpenvpn3.Agreement.Emitters
import NmOpenvpn3.ImportExport.Imported

/-!
# What was imported can be emitted and imported again

The parser checks values by option name, and the values of an import reach the emitters under other
names: `comp-lzo` is renamed, a `keepalive` becomes two pings, a direction becomes an argument. No
value is moved to a name with a stricter check. `passesGates_asNmData` says so for the map, and
`validateDirective_of_writerCalls` carries the exporter's result over to the connect path: what that
path writes in its own way is either unchecked or written by the exporter as well.
-/

namespace NmOpenvpn3

namespace Agreement

open Rust Ovpn ImportExport Service

/-- What the connect path writes in its own way is accepted if the export is. -/
theorem validateDirective_of_mem_connectOwn {data : VpnData}
    (h : (fromNmData data).validate = .ok ()) :
    ∀ x ∈ connectOwn data, validateDirective x = .ok () := by
  have free : ∀ {tags : List String}, (∀ name ∈ tags, gates.lookup name = none) →
      ∀ x, IsTagged tags x → validateDirective x = .ok () := by
    rintro tags ht x ⟨name, args, rfl, hname⟩
    exact validateDirective_of_lookup (ht name hname) args
  intro x hx
  rcases mem_connectOwn hx with ⟨-, ht⟩ | ⟨p, hp, v, hv, rfl⟩ | ⟨-, ht⟩
  · exact free (by decide) x ht
  · -- An integer that the connect path keeps is written by the exporter too.
    have hget : get data p.1 = some v := (Option.filter_eq_some_iff.mp hv).1
    have hexport : .option p.2 [v] ∈ exportOwn data := by
      refine List.mem_append_left _ (List.mem_append_right _ (List.mem_flatMap.mpr ⟨p, hp, ?_⟩))
      simp [hget, optStr, optArgs]
    rw [OvpnConfig.validate, validateAll_eq_ok] at h
    exact h _ ((fromNmData_perm data).mem_iff.mpr (List.mem_append_left _ hexport))
  · exact free (by decide) x ht

/-- **A profile is accepted if the export of the same map is.** -/
theorem validateDirective_of_writerCalls {data : VpnData} {calls : List WriterCall}
    (hcalls : writerCalls data = .ok calls) (h : (fromNmData data).validate = .ok ()) :
    ∀ x ∈ calls.map WriterCall.directive, validateDirective x = .ok () := by
  intro x hx
  rw [(writerCalls_perm hcalls).mem_iff, List.mem_append] at hx
  rcases hx with hx | hx
  · exact validateDirective_of_mem_connectOwn h x hx
  · rw [OvpnConfig.validate, validateAll_eq_ok] at h
    exact h x ((fromNmData_perm data).mem_iff.mpr (List.mem_append_right _ hx))

/-- **What was imported can be emitted and imported again**, by the exporter always and by the
connect path whenever it builds a profile. -/
theorem imported_is_accepted_again {text : String} {c : OvpnConfig}
    (h : OvpnConfig.parse text = .ok c) :
    (∃ c', OvpnConfig.parse (fromNmData (asNmData c)).emit = .ok c') ∧
      ∀ profile, buildProfileString (asNmData c) = .ok profile →
        ∃ c', OvpnConfig.parse profile = .ok c' := by
  have hvalid : (fromNmData (asNmData c)).validate = .ok () :=
    validate_fromNmData (passesGates_asNmData (validate_of_parse h))
  refine ⟨(parse_emit_fromNmData _).1.mpr hvalid, fun profile hprofile ↦ ?_⟩
  obtain ⟨calls, hcalls, rfl⟩ := buildProfileString_eq_ok hprofile
  have haccepted : OvpnConfig.validate ⟨calls.map WriterCall.directive⟩ = .ok () :=
    validateAll_eq_ok.mpr (validateDirective_of_writerCalls hcalls hvalid)
  rw [parse_writeAll hcalls, haccepted]
  exact ⟨_, rfl⟩

theorem imported_is_accepted_again_sample :
    (∃ c', OvpnConfig.parse (fromNmData (asNmData ⟨[.option "remote" ["gw"],
      .option "comp-lzo" ["no"], .option "keepalive" ["10", "60"]]⟩)).emit = .ok c') ∧
      ∀ profile, buildProfileString (asNmData ⟨[.option "remote" ["gw"],
        .option "comp-lzo" ["no"], .option "keepalive" ["10", "60"]]⟩) = .ok profile →
        ∃ c', OvpnConfig.parse profile = .ok c' :=
  imported_is_accepted_again (show OvpnConfig.parse "remote gw\ncomp-lzo no\nkeepalive 10 60\n" =
    .ok ⟨[.option "remote" ["gw"], .option "comp-lzo" ["no"],
      .option "keepalive" ["10", "60"]]⟩ by rfl)

end Agreement

end NmOpenvpn3
