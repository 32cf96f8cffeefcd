import DualStack.Proofs.Derivation
import DualStack.Proofs.Records
import DualStack.Proofs.Run

/-!
# The gate of the global record

The last record of the global table under its one key decides for the whole state. Unless it asks
for the feature and both of its checked fields can be read, every flag in the state is off, every
path limit is gone, and the capabilities and notifications say so too. With an enabled record, or
without one, each family and interface has the flags of its own record. Which families, interfaces,
groups and RDMA settings there are does not depend on the global table at all.
-/

set_option autoImplicit false

namespace DualStack

/-! ## The global record -/

namespace Decode

/-- Rewording errors leaves a result as it is. -/
theorem mapError_ok {ε ε' α : Type} (f : ε → ε') (a : α) :
    (Except.ok a : Except ε α).mapError f = .ok a := rfl

/-- Rewording errors rewords an error. -/
theorem mapError_error {ε ε' α : Type} (f : ε → ε') (e : ε) :
    (Except.error e : Except ε α).mapError f = .error (f e) := rfl

/-- What a global record needs to enable the feature, with the two values that are read. -/
structure Enables (fields : Fields) (families : FamilySet) (congestion : CongestionControl) :
    Prop where
  requested : fields.value? "enable" = some "true"
  families : FamilySet.parse (fields.valueOr "ip_versions" "4,6") = .ok families
  congestion : CongestionControl.ofName (fields.valueOr "congestion_control" "hybrid") =
    .ok congestion

/-- A global record of which both checked fields can be read has no fault. -/
theorem global_of_readable {fields : Fields} {families : FamilySet}
    {congestion : CongestionControl}
    (hfamilies : FamilySet.parse (fields.valueOr "ip_versions" "4,6") = .ok families)
    (hcongestion : CongestionControl.ofName (fields.valueOr "congestion_control" "hybrid") =
      .ok congestion) :
    global fields = (⟨globalRequested fields, families, ⟨fields.valueOr "transport_mode" "uet"⟩,
      ⟨fields.valueOr "dual_stack_mode" "concurrent"⟩, congestion⟩, []) := by
  unfold global Decode.families
  rw [hfamilies, hcongestion]
  simp [mapError_ok, orDefault]

/-- A record that enables the feature is read as settings with its own values. -/
theorem global_of_enables {fields : Fields} {families : FamilySet}
    {congestion : CongestionControl} (h : Enables fields families congestion) :
    (global fields).1 = ⟨true, families, ⟨fields.valueOr "transport_mode" "uet"⟩,
      ⟨fields.valueOr "dual_stack_mode" "concurrent"⟩, congestion⟩ := by
  have hrequested : globalRequested fields = true := flag_eq_true_iff.2 h.requested
  rw [global_of_readable h.families h.congestion, hrequested]

/-- A global record is enabled only if nothing is missing. -/
theorem enables_of_enabled {fields : Fields} (h : (global fields).1.enabled = true) :
    ∃ families congestion, Enables fields families congestion := by
  unfold global Decode.families at h
  cases hfamilies : FamilySet.parse (fields.valueOr "ip_versions" "4,6") with
  | error error => simp [hfamilies, mapError_error, orDefault] at h
  | ok families =>
    cases hcongestion : CongestionControl.ofName
        (fields.valueOr "congestion_control" "hybrid") with
    | error unknown => simp [hcongestion, mapError_error, orDefault] at h
    | ok congestion =>
      have hrequested : globalRequested fields = true := by
        simpa [hfamilies, hcongestion, mapError_ok, orDefault] using h
      exact ⟨families, congestion, flag_eq_true_iff.1 hrequested, hfamilies, hcongestion⟩

end Decode

namespace Snapshot

/-- The feature is enabled unless there is a global record that does not enable it. -/
theorem featureOf_configOf (snapshot : Snapshot) :
    Resolution.featureOf (Validation.configOf snapshot) = true ↔
      ∀ fields, snapshot.globalRecord? = some fields →
        ∃ families congestion, Decode.Enables fields families congestion := by
  unfold Resolution.featureOf
  rw [global_configOf]
  cases snapshot.globalRecord? with
  | none => simp
  | some fields =>
    constructor
    · rintro h _ ⟨⟩
      exact Decode.enables_of_enabled (by simpa using h)
    · intro h
      obtain ⟨families, congestion, henables⟩ := h fields rfl
      simp [Decode.global_of_enables henables]

end Snapshot

/-! ## The state of a configuration -/

namespace Resolution

variable (config : Config)

/-- The records of families are those of the configured ones, whether or not the feature is
enabled. -/
theorem keys_addressFamily_of : ((of config).state.recordsOf .addressFamily).map AppRecord.key =
    config.families.toList.flatMap fun (family, settings) =>
      settings.toList.map fun _ => AppRecord.familyKey family := by
  have hone : ∀ family, (((of config).state.families.get family).toList.map
      (AppRecord.ofFamily family)).map AppRecord.key =
        (config.families.get family).toList.map fun _ => AppRecord.familyKey family := by
    intro family
    rw [get_families_of]
    cases config.families.get family <;> rfl
  simp only [DerivedState.recordsOf, PerFamily.toList, List.map_flatMap, List.flatMap_map, hone]

/-- The records of interfaces are those of the configured ones, whether or not the feature is
enabled. -/
theorem keys_interface_of : ((of config).state.recordsOf .interface).map AppRecord.key =
    config.interfaces.keys.map AppRecord.interfaceKey := by
  have hkeys : (of config).state.interfaces.keys = config.interfaces.keys :=
    Std.ExtTreeMap.keys_map
  rw [← hkeys, ← Std.ExtTreeMap.map_fst_toList_eq_keys, List.map_map]
  show List.map _ (List.map _ _) = _
  rw [List.map_map]
  rfl

/-! ## Closed and open -/

/-- Without the feature an interface has no flag. -/
theorem flagsOf_false (interface : InterfaceConfig) :
    flagsOf false interface = FamilySet.empty := rfl

/-- With the feature the flags of an interface are those of its own families. -/
theorem flagsOf_true (interface : InterfaceConfig) : flagsOf true interface = interface.families :=
  rfl

/-- Without the feature a family is disabled, whatever its own flag says. -/
theorem familyOf_false (family : FamilyConfig) : familyOf false family = .disabled := by
  unfold familyOf
  rw [Bool.and_false]
  rfl

/-- With the feature an enabled family keeps its port and its entropy fields. -/
theorem familyOf_true {family : FamilyConfig} (h : family.enabled = true) :
    familyOf true family = .enabled family.port family.entropy := by
  unfold familyOf
  rw [h]
  rfl

/-- Without the feature an interface is off and has no path limits, but keeps how it balances and
what it prefers. -/
theorem interfaceOf_false (interface : InterfaceConfig) : interfaceOf false interface =
    ⟨false, FamilySet.empty, PerFamily.both none, interface.loadBalance,
      interface.preferred⟩ := by
  unfold interfaceOf
  rw [flagsOf_false]
  simp [FamilySet.empty, PerFamily.both]

end Resolution

namespace AppRecord

/-- The fields of the record of an interface: its flags and its path limits, each in digits or left
out. -/
theorem value?_ofInterface (name : String) (state : InterfaceState) :
    let fields := (ofInterface name state).fields
    fields.value? "enabled" = some (boolText state.enabled) ∧
      fields.value? "ipv4_enabled" = some (boolText state.families.ipv4) ∧
      fields.value? "ipv6_enabled" = some (boolText state.families.ipv6) ∧
      ∀ family, fields.value? (maxPathsField family) =
        (state.maxPaths.get family).map fun paths => toString paths.toNat := by
  obtain ⟨enabled, families, ⟨paths4, paths6⟩, loadBalance, preferred⟩ := state
  have hpaths : ∀ family, Fields.value? (ofInterface name
      ⟨enabled, families, ⟨paths4, paths6⟩, loadBalance, preferred⟩).fields
        (maxPathsField family) =
      ((PerFamily.mk paths4 paths6).get family).map fun paths => toString paths.toNat := by
    intro family
    cases family <;> cases paths4 <;> cases paths6 <;>
      simp [ofInterface, pathsFields, Fields.value?, maxPathsField, PerFamily.get]
  refine ⟨?_, ?_, ?_, hpaths⟩ <;> cases paths4 <;> cases paths6 <;>
    simp [ofInterface, pathsFields, Fields.value?, maxPathsField]

end AppRecord

/-! ## Accepted interfaces -/

namespace Resolution

/-- With the feature enabled an accepted interface keeps its flags and all its path limits. -/
theorem interfaceOf_true {fields : Fields} {interface : InterfaceConfig}
    (h : Decode.interface fields = .ok (some interface)) : interfaceOf true interface =
      ⟨true, interface.families, interface.maxPaths, interface.loadBalance,
        interface.preferred⟩ := by
  obtain ⟨-, hpaths, -⟩ := Decode.of_interface_eq_some h
  have hkept : ∀ family, (interface.maxPaths.get family).filter
      (fun _ => interface.families.get family) = interface.maxPaths.get family := by
    intro family
    cases hfamily : interface.families.get family with
    | true => cases interface.maxPaths.get family <;> rfl
    | false =>
      have hnone := (hpaths family).trans hfamily
      rw [Option.isSome_eq_false_iff, Option.isNone_iff_eq_none] at hnone
      rw [hnone, Option.filter_none]
  have h4 := hkept .ipv4
  have h6 := hkept .ipv6
  simp only [PerFamily.get] at h4 h6
  simp only [interfaceOf, flagsOf_true, h4, h6]

end Resolution

/-! ## The state of a snapshot -/

namespace DerivedState

/-- Every flag of the state is off, and so is everything that follows the flags. -/
structure Gated (state : DerivedState) : Prop where
  global : (state.records.filter fun r => r.scope = .global) =
    [AppRecord.single .global Schema.globalStateKey [("enabled", "false")]]
  families : ∀ r ∈ state.records, r.scope = .addressFamily → r.fields = [("enabled", "false")]
  interfaces : ∀ r ∈ state.records, r.scope = .interface →
    r.fields.value? "enabled" = some "false" ∧ r.fields.value? "ipv4_enabled" = some "false" ∧
      r.fields.value? "ipv6_enabled" = some "false" ∧
      r.fields.value? "max_paths_v4" = none ∧ r.fields.value? "max_paths_v6" = none
  capabilities : ∀ (name : String) (families : FamilySet),
    state.capabilities[name]? = some families → families = FamilySet.empty
  notifications : ∀ (name : String) (n : Notification),
    state.notifications[name]? = some n → n.capabilities = FamilySet.empty

/-- Every family and interface that a snapshot enables has in the state what its own record
says. -/
structure Ungated (state : DerivedState) (snapshot : Snapshot) : Prop where
  families : ∀ family fields config,
    Validation.lastRecord? snapshot.families family.name = some fields →
    Decode.family fields = .ok config → fields.value? "enabled" = some "true" →
    AppRecord.ofFamily family (.enabled config.port config.entropy) ∈ state.records
  interfaces : ∀ name fields config,
    Validation.lastRecord? snapshot.interfaces name = some fields →
    Decode.interface fields = .ok (some config) →
    FamilySet.parse (fields.valueOr "ip_versions" "4,6") = .ok config.families ∧
      AppRecord.ofInterface name ⟨true, config.families, config.maxPaths, config.loadBalance,
        config.preferred⟩ ∈ state.records ∧
      state.capabilities[name]? = some config.families ∧
      state.notifications[name]? =
        some (Notification.setDualStack name fields.toHash config.families)

end DerivedState

namespace Snapshot

/-- A snapshot without the feature has a state in which nothing is on. -/
theorem gated_of_featureOf {snapshot : Snapshot} {fields : Fields}
    (hglobal : snapshot.globalRecord? = some fields)
    (hfeature : Resolution.featureOf (Validation.configOf snapshot) = false) :
    snapshot.derivedState.Gated := by
  have hstate : snapshot.derivedState =
      (Resolution.of (Validation.configOf snapshot)).state := rfl
  have hdisabled : snapshot.derivedState.global = some .disabled := by
    have hmap : snapshot.derivedState.global =
        (Validation.configOf snapshot).global.map Resolution.globalOf := rfl
    unfold Resolution.featureOf at hfeature
    rw [global_configOf, hglobal] at hmap hfeature
    have henabled : (Decode.global fields).1.enabled = false := by simpa using hfeature
    rw [hmap]
    simp [Resolution.globalOf, henabled]
  -- every other entity is derived with the feature off, whatever its settings are
  refine ⟨?_, ?_, ?_, ?_, ?_⟩
  · rw [DerivedState.filter_scope_records, DerivedState.recordsOf, hdisabled]
    rfl
  · intro r hr hscope
    obtain ⟨family, derived, hderived, rfl⟩ :=
      DerivedState.mem_records_addressFamily.1 ⟨hr, hscope⟩
    rw [hstate, Resolution.get_families_of, hfeature, Option.map_eq_some_iff] at hderived
    obtain ⟨config, -, rfl⟩ := hderived
    rw [Resolution.familyOf_false]
    rfl
  · intro r hr hscope
    obtain ⟨name, derived, hderived, rfl⟩ :=
      DerivedState.mem_records_interface.1 ⟨hr, hscope⟩
    rw [hstate, Resolution.getElem?_interfaces_of, hfeature, Option.map_eq_some_iff] at hderived
    obtain ⟨interface, -, rfl⟩ := hderived
    rw [Resolution.interfaceOf_false]
    obtain ⟨henabled, h4, h6, hpaths⟩ := AppRecord.value?_ofInterface name
      ⟨false, FamilySet.empty, PerFamily.both none, interface.loadBalance, interface.preferred⟩
    exact ⟨henabled, h4, h6, hpaths .ipv4, hpaths .ipv6⟩
  · intro name families hfamilies
    rw [hstate, Resolution.getElem?_capabilities_of, hfeature, Option.map_eq_some_iff] at hfamilies
    obtain ⟨interface, -, rfl⟩ := hfamilies
    exact Resolution.flagsOf_false interface
  · intro name n hn
    rw [hstate, Resolution.getElem?_notifications_of, hfeature, Option.map_eq_some_iff] at hn
    obtain ⟨interface, -, rfl⟩ := hn
    exact Resolution.flagsOf_false interface

/-- A snapshot with the feature has a state in which its own records count. -/
theorem ungated_of_featureOf {snapshot : Snapshot}
    (hfeature : Resolution.featureOf (Validation.configOf snapshot) = true) :
    snapshot.derivedState.Ungated snapshot := by
  have hstate : snapshot.derivedState =
      (Resolution.of (Validation.configOf snapshot)).state := rfl
  refine ⟨?_, ?_⟩
  · intro family fields config hrecord hdecode henabled
    have hfamily : (Validation.configOf snapshot).families.get family = some config := by
      rw [get_families_configOf, hrecord]
      simp [hdecode, Except.toOption]
    have hflag : config.enabled = true := by
      rw [Decode.enabled_of_family_eq_ok hdecode, Decode.flag_eq_true_iff]
      exact henabled
    refine (DerivedState.mem_records_addressFamily.2 ⟨family, _, ?_, rfl⟩).1
    rw [hstate, Resolution.get_families_of, hfamily, hfeature, Option.map_some,
      Resolution.familyOf_true hflag]
  · intro name fields config hrecord hdecode
    have hinterface : (Validation.configOf snapshot).interfaces[name]? = some config := by
      rw [getElem?_interfaces_configOf, hrecord]
      simp [hdecode, Except.toOption]
    obtain ⟨hversions, -, hraw⟩ := Decode.of_interface_eq_some hdecode
    refine ⟨hversions, ?_, ?_, ?_⟩
    · refine (DerivedState.mem_records_interface.2 ⟨name, _, ?_, rfl⟩).1
      rw [hstate, Resolution.getElem?_interfaces_of, hinterface, hfeature, Option.map_some,
        Resolution.interfaceOf_true hdecode]
    · rw [hstate, Resolution.getElem?_capabilities_of, hinterface, hfeature, Option.map_some,
        Resolution.flagsOf_true]
    · rw [hstate, Resolution.getElem?_notifications_of, hinterface, hfeature, Option.map_some,
        Resolution.flagsOf_true, hraw]

/-- Every record keeps its key, and the groups and RDMA settings their fields, whatever the global
table holds. -/
theorem derivedState_of_global (snapshot : Snapshot) (table : Table) :
    let state := snapshot.derivedState
    let state' := { snapshot with global := table }.derivedState
    state'.recordsOf .ecmp = state.recordsOf .ecmp ∧
      state'.recordsOf .rdma = state.recordsOf .rdma ∧
      (state'.recordsOf .addressFamily).map AppRecord.key =
        (state.recordsOf .addressFamily).map AppRecord.key ∧
      (state'.recordsOf .interface).map AppRecord.key =
        (state.recordsOf .interface).map AppRecord.key ∧
      state'.capabilities.keys = state.capabilities.keys ∧
      state'.notifications.keys = state.notifications.keys := by
  -- the two configurations have the same families and interfaces, and these give the keys
  let config := Validation.configOf snapshot
  let config' := Validation.configOf { snapshot with global := table }
  refine ⟨rfl, rfl, ?_, ?_, ?_, ?_⟩
  · have hfamilies : config'.families = config.families := rfl
    show ((Resolution.of config').state.recordsOf .addressFamily).map AppRecord.key =
      ((Resolution.of config).state.recordsOf .addressFamily).map AppRecord.key
    rw [Resolution.keys_addressFamily_of, Resolution.keys_addressFamily_of, hfamilies]
  · have hinterfaces : config'.interfaces = config.interfaces := rfl
    show ((Resolution.of config').state.recordsOf .interface).map AppRecord.key =
      ((Resolution.of config).state.recordsOf .interface).map AppRecord.key
    rw [Resolution.keys_interface_of, Resolution.keys_interface_of, hinterfaces]
  · exact Std.ExtTreeMap.keys_map.trans Std.ExtTreeMap.keys_map.symm
  · exact Std.ExtTreeMap.keys_map.trans Std.ExtTreeMap.keys_map.symm

/-- How the last global record decides for a snapshot. A record that does not ask for the feature,
or of which a checked field cannot be read, leaves one record with the feature off and closes
every other scope. A record that enables it is written with the versions it names. With such a
record or none, the families and interfaces go by their own records. The groups, the RDMA settings
and the keys of everything else are the same for every global table. -/
theorem gated_by_global (snapshot : Snapshot) :
    let state := snapshot.derivedState
    let recordsOf := fun (state : DerivedState) (scope : Scope) =>
      state.records.filter fun r => r.scope = scope
    (∀ G, snapshot.globalRecord? = some G →
      (¬ ∃ families congestion, Decode.Enables G families congestion) → state.Gated) ∧
    (∀ G families congestion, snapshot.globalRecord? = some G →
      Decode.Enables G families congestion →
      recordsOf state .global =
        [AppRecord.single .global Schema.globalStateKey
          [("enabled", "true"), ("ipv4_enabled", boolText families.ipv4),
            ("ipv6_enabled", boolText families.ipv6)],
         AppRecord.single .global Schema.transportModeKey
          [("mode", G.valueOr "transport_mode" "uet")],
         AppRecord.single .global Schema.dualStackKey
          [("mode", G.valueOr "dual_stack_mode" "concurrent")],
         AppRecord.single .global Schema.congestionControlKey
          [("algorithm", congestion.name)]]) ∧
    (snapshot.globalRecord? = none → recordsOf state .global = []) ∧
    ((∀ G, snapshot.globalRecord? = some G →
      ∃ families congestion, Decode.Enables G families congestion) → state.Ungated snapshot) ∧
    (∀ table,
      let state' := { snapshot with global := table }.derivedState
      recordsOf state' .ecmp = recordsOf state .ecmp ∧
      recordsOf state' .rdma = recordsOf state .rdma ∧
      (recordsOf state' .addressFamily).map AppRecord.key =
        (recordsOf state .addressFamily).map AppRecord.key ∧
      (recordsOf state' .interface).map AppRecord.key =
        (recordsOf state .interface).map AppRecord.key ∧
      state'.capabilities.keys = state.capabilities.keys ∧
      state'.notifications.keys = state.notifications.keys) := by
  intro state recordsOf
  have hrecordsOf : ∀ state scope, recordsOf state scope = state.recordsOf scope :=
    fun state scope => state.filter_scope_records scope
  have hglobal : state.global = snapshot.globalRecord?.map fun fields =>
      Resolution.globalOf (Decode.global fields).1 := by
    show (Validation.configOf snapshot).global.map Resolution.globalOf = _
    rw [global_configOf, Option.map_map]
    rfl
  refine ⟨?_, ?_, ?_, ?_, ?_⟩
  · intro G hG hnot
    refine gated_of_featureOf hG ?_
    rw [← Bool.not_eq_true, featureOf_configOf]
    intro h
    exact hnot (h G hG)
  · intro G families congestion hG henables
    rw [hrecordsOf, DerivedState.recordsOf, hglobal, hG, Option.map_some,
      Decode.global_of_enables henables]
    rfl
  · intro hnone
    rw [hrecordsOf, DerivedState.recordsOf, hglobal, hnone]
    rfl
  · intro h
    exact ungated_of_featureOf ((featureOf_configOf snapshot).2 h)
  · intro table
    simp only [hrecordsOf]
    exact derivedState_of_global snapshot table

/-- A last record that asks for the feature but names a version that there is not closes a family
and an interface, which have their own settings once the global table is empty. -/
theorem gated_by_unknown_version :
    let snapshot : Snapshot :=
      { global := [("global", [("enable", "true")]), ("spare", [("enable", "true")]),
          ("global", [("ip_versions", "4,5"), ("enable", "false"), ("enable", "true")])]
        families := [("ipv4", [("enabled", "true")])]
        interfaces := [("Ethernet0",
          [("ue_enable", "true"), ("max_paths_v4", "4"), ("max_paths_v6", "2")])]
        groups := []
        rdma := [] }
    let withoutGlobal := { snapshot with global := [] }
    snapshot.derivedState.records.length = 3 ∧ snapshot.derivedState.Gated ∧
      withoutGlobal.derivedState.records.length = 2 ∧
      withoutGlobal.derivedState.Ungated withoutGlobal := by
  intro snapshot withoutGlobal
  have hunread : (FamilySet.parse "4,5").toOption = none := by decide +kernel
  have hnot : ¬ ∃ families congestion, Decode.Enables
      [("ip_versions", "4,5"), ("enable", "false"), ("enable", "true")] families congestion := by
    rintro ⟨families, congestion, henables⟩
    have hparse : FamilySet.parse "4,5" = .ok families := henables.families
    rw [hparse] at hunread
    cases hunread
  refine ⟨by decide +kernel, (gated_by_global snapshot).1 _ rfl hnot, by decide +kernel, ?_⟩
  refine (gated_by_global withoutGlobal).2.2.2.1 ?_
  intro G hG
  cases hG

end Snapshot

end DualStack
