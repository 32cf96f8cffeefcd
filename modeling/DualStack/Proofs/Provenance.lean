import DualStack.Proofs.Gating

/-!
# Where a record comes from

The key of a record of the state says which entity it is about, and the entity was accepted from
the last record of one key of the configuration. So a record of the state that stands under the key
of a family, an interface, a group or the RDMA settings is what became of one known record of the
snapshot, and of no other.
-/

set_option autoImplicit false

namespace DualStack

open AppRecord

/-- A record belongs to the scope that its key tells. -/
theorem DerivedState.mem_recordsOf_of_scopeOf {state : DerivedState} {r : AppRecord}
    {scope : Scope} (hr : r ∈ state.records) (hscope : scopeOf r.key = scope) :
    r ∈ state.recordsOf scope := by
  obtain ⟨own, hown⟩ := mem_records.1 hr
  rwa [← hscope, (scope_of_mem_recordsOf hown).2]

namespace Snapshot

variable {snapshot : Snapshot} {r : AppRecord} (hr : r ∈ snapshot.derivedState.records)
include hr

/-- A record under the key of a family comes from the accepted settings of this family. -/
theorem family_of_mem_records {family : Family} (hkey : r.key = familyKey family) :
    ∃ fields config, Validation.lastRecord? snapshot.families family.name = some fields ∧
      Decode.family fields = .ok config ∧
      r = ofFamily family (Resolution.familyOf snapshot.derivedState.featureEnabled config) := by
  have hscope : scopeOf r.key = .addressFamily := by
    rw [hkey]
    exact scopeOf_ofFamily family .disabled
  obtain ⟨family', derived, hderived, rfl⟩ := DerivedState.mem_recordsOf_addressFamily.1
    (DerivedState.mem_recordsOf_of_scopeOf hr hscope)
  obtain rfl := familyKey_inj.1 hkey
  have hstate : (Resolution.of (Validation.configOf snapshot)).state.families.get family' =
      some derived := hderived
  rw [Resolution.get_families_of, get_families_configOf, ← Resolution.featureEnabled_of] at hstate
  obtain ⟨config, hconfig, rfl⟩ := Option.map_eq_some_iff.1 hstate
  obtain ⟨fields, hrecord, hdecoded⟩ := Option.bind_eq_some_iff.1 hconfig
  exact ⟨fields, config, hrecord, toOption_eq_some_iff.1 hdecoded, rfl⟩

/-- A record under the key of an interface comes from the accepted settings of this interface. -/
theorem interface_of_mem_records {name : String} (hkey : r.key = interfaceKey name) :
    ∃ fields config, Validation.lastRecord? snapshot.interfaces name = some fields ∧
      Decode.interface fields = .ok (some config) ∧
      r = ofInterface name
        (Resolution.interfaceOf snapshot.derivedState.featureEnabled config) := by
  have hscope : scopeOf r.key = .interface := by
    rw [hkey]
    exact if_pos (Database.startsWith_recordKey _ _ _)
  obtain ⟨name', derived, hderived, rfl⟩ := DerivedState.mem_recordsOf_interface.1
    (DerivedState.mem_recordsOf_of_scopeOf hr hscope)
  obtain rfl : name' = name := Database.recordKey_inj.1 hkey
  have hstate : (Resolution.of (Validation.configOf snapshot)).state.interfaces[name']? =
      some derived := hderived
  rw [Resolution.getElem?_interfaces_of, getElem?_interfaces_configOf,
    ← Resolution.featureEnabled_of] at hstate
  obtain ⟨config, hconfig, rfl⟩ := Option.map_eq_some_iff.1 hstate
  obtain ⟨fields, hrecord, hdecoded⟩ := Option.bind_eq_some_iff.1 hconfig
  exact ⟨fields, config, hrecord, toOption_eq_some_iff.1 (Option.join_eq_some_iff.1 hdecoded), rfl⟩

/-- A record under the key of a group comes from the accepted settings of this group and the network
of its text. -/
theorem group_of_mem_records {family : Family} {name : String}
    (hkey : r.key = groupKey family name) :
    ∃ fields group network,
      Validation.lastRecord? snapshot.groups (Decode.groupRecordKey family name) = some fields ∧
      Decode.group family name fields = .ok group ∧
      r = ofGroup family name ⟨network, group.networkText, group.maxPaths, group.hash⟩ := by
  have hscope : scopeOf r.key = .ecmp := by
    rw [hkey]
    exact scopeOf_groupKey family name
  obtain ⟨family', name', derived, hderived, rfl⟩ := DerivedState.mem_recordsOf_ecmp.1
    (DerivedState.mem_recordsOf_of_scopeOf hr hscope)
  obtain ⟨rfl, rfl⟩ := groupKey_inj.1 hkey
  have hstate : ((Resolution.of (Validation.configOf snapshot)).state.groups.get
      family')[name']? = some derived := hderived
  rw [Resolution.getElem?_groups_of, getElem?_groups_configOf] at hstate
  obtain ⟨group, hgroup, hderived⟩ := Option.bind_eq_some_iff.1 hstate
  obtain ⟨fields, hrecord, hdecoded⟩ := Option.bind_eq_some_iff.1 hgroup
  obtain ⟨network, -, rfl⟩ := Resolution.groupOf_eq_ok_iff.1 (toOption_eq_some_iff.1 hderived)
  exact ⟨fields, group, network, hrecord, toOption_eq_some_iff.1 hdecoded, rfl⟩

/-- A record under the RDMA key comes from the accepted RDMA settings. -/
theorem rdma_of_mem_records (hkey : r.key = Schema.rdmaConfigKey) :
    ∃ fields config, Validation.lastRecord? snapshot.rdma Schema.globalKey = some fields ∧
      Decode.rdma fields = .ok config ∧ r = ofRdma config := by
  have hscope : scopeOf r.key = .rdma := by
    rw [hkey]
    decide
  obtain ⟨config, hstate, rfl⟩ :=
    List.mem_map.1 (DerivedState.mem_recordsOf_of_scopeOf hr hscope)
  have hconfig : (Validation.configOf snapshot).rdma = some config := Option.mem_toList.1 hstate
  rw [rdma_configOf] at hconfig
  obtain ⟨fields, hrecord, hdecoded⟩ := Option.bind_eq_some_iff.1 hconfig
  exact ⟨fields, config, hrecord, toOption_eq_some_iff.1 hdecoded, rfl⟩

end Snapshot

end DualStack
