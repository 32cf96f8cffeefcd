import DualStack.Proofs.Derivation
import DualStack.Proofs.Run

/-!
# The derived state is coherent

The maps of a derived state are built apart from each other, and still they stay in step. Every
entity of an accepted configuration is in the state, since the second look at the networks of the
groups refuses nothing that the first accepted. Each interface has a capability entry and a
notification, and the three say the same about its families: which are on, which have a path
limit, and that one is on whenever the feature is.
-/

set_option autoImplicit false

namespace DualStack

/-- A filter that drops nothing leaves the names of a map as they are. -/
theorem NameMap.keys_filterMap {α β : Type} {m : NameMap α} {f : String → α → Option β}
    (h : ∀ name a, m[name]? = some a → (f name a).isSome) : (m.filterMap f).keys = m.keys := by
  -- A map has the keys of its shape, in which every value is forgotten.
  have hshape : ((m.filterMap f).map fun _ _ => ()) = m.map fun _ _ => () := by
    apply Std.ExtTreeMap.ext_getElem?
    intro name
    rw [Std.ExtTreeMap.getElem?_map, Std.ExtTreeMap.getElem?_filterMap',
      Std.ExtTreeMap.getElem?_map]
    cases hvalue : m[name]? with
    | none => rfl
    | some a =>
      obtain ⟨b, hb⟩ := Option.isSome_iff_exists.1 (h name a hvalue)
      simp [hb]
  have hkeys := congrArg Std.ExtTreeMap.keys hshape
  rwa [Std.ExtTreeMap.keys_map, Std.ExtTreeMap.keys_map] at hkeys

namespace Resolution

/-- The path limits that are left are those of the families that are on. -/
theorem isSome_maxPaths_interfaceOf {feature : Bool} {interface : InterfaceConfig}
    (h : ∀ family, (interface.maxPaths.get family).isSome = interface.families.get family)
    (family : Family) : ((interfaceOf feature interface).maxPaths.get family).isSome =
      (interfaceOf feature interface).families.get family := by
  show _ = (flagsOf feature interface).get family
  rw [get_maxPaths_interfaceOf, get_flagsOf, ← h family]
  cases feature <;> cases interface.maxPaths.get family <;> rfl

end Resolution

namespace DerivedState

/-- The capability entry and the notification of an interface say what its own state says, and the
notification has the fields that are configured. -/
structure InStep (state : DerivedState) (snapshot : Snapshot) (name : String)
    (interface : InterfaceState) : Prop where
  capabilities : state.capabilities[name]? = some interface.families
  notification : ∃ notification fields, state.notifications[name]? = some notification ∧
    Validation.lastRecord? snapshot.interfaces name = some fields ∧
    notification.interface = name ∧ notification.capabilities = interface.families ∧
    ∀ field, notification.config[field]? = fields.value? field
  enabled : interface.enabled = state.featureEnabled
  maxPaths : ∀ family, (interface.maxPaths.get family).isSome = interface.families.get family
  someFamily : state.featureEnabled = true → ∃ family, interface.families.get family = true

end DerivedState

/-- What holds of a resolution, with the configuration and the snapshot it comes from. -/
structure Resolution.Coherent (resolution : Resolution) (config : Config) (snapshot : Snapshot) :
    Prop where
  errors : resolution.errors = []
  families : ∀ family, (resolution.state.families.get family).isSome =
    (config.families.get family).isSome
  groups : ∀ family, (resolution.state.groups.get family).keys = (config.groups.get family).keys
  interfaces : resolution.state.interfaces.keys = config.interfaces.keys
  capabilities : resolution.state.capabilities.keys = resolution.state.interfaces.keys
  notifications : resolution.state.notifications.keys = resolution.state.interfaces.keys
  interface : ∀ (name : String) (interface : InterfaceState),
    resolution.state.interfaces[name]? = some interface →
      resolution.state.InStep snapshot name interface
  network : ∀ family (name : String) (group : GroupState),
    (resolution.state.groups.get family)[name]? = some group →
      Network.parse group.networkText = .ok group.network ∧ group.network.family = family

namespace Snapshot

variable (snapshot : Snapshot)

/-- Every accepted group is a group of the state. -/
theorem exists_groupOf {family : Family} {name : String} {group : EcmpGroup}
    (h : ((Validation.configOf snapshot).groups.get family)[name]? = some group) :
    ∃ state, Resolution.groupOf family group = .ok state := by
  rw [getElem?_groups_configOf] at h
  obtain ⟨fields, -, hdecoded⟩ := Option.bind_eq_some_iff.1 h
  obtain ⟨network, hnetwork⟩ := Decode.parseFor_of_group (toOption_eq_some_iff.1 hdecoded)
  exact ⟨_, Resolution.groupOf_eq_ok_iff.2 ⟨network, hnetwork, rfl⟩⟩

/-- Resolving a validated configuration meets no error, since every group that was accepted has a
network of its family. -/
theorem errors_resolution : (Resolution.of (Validation.configOf snapshot)).errors = [] := by
  show (Family.all.flatMap fun family =>
    Resolution.groupErrors family ((Validation.configOf snapshot).groups.get family)) = []
  rw [List.flatMap_eq_nil_iff]
  intro family _
  unfold Resolution.groupErrors
  rw [List.filterMap_eq_nil_iff]
  rintro ⟨name, group⟩ hmem
  rw [Std.ExtTreeMap.mem_toList_iff_getElem?_eq_some] at hmem
  obtain ⟨state, hstate⟩ := snapshot.exists_groupOf hmem
  simp only [hstate]

/-- The capabilities and the notification of an interface are in step with its state. -/
theorem inStep_interface {name : String} {interface : InterfaceState}
    (h : snapshot.derivedState.interfaces[name]? = some interface) :
    snapshot.derivedState.InStep snapshot name interface := by
  have hstate : snapshot.derivedState =
      (Resolution.of (Validation.configOf snapshot)).state := rfl
  rw [hstate, Resolution.getElem?_interfaces_of, Option.map_eq_some_iff] at h
  obtain ⟨config, hconfig, rfl⟩ := h
  have haccepted := hconfig
  rw [getElem?_interfaces_configOf] at haccepted
  obtain ⟨fields, hrecord, hdecoded⟩ := Option.bind_eq_some_iff.1 haccepted
  rw [Option.join_eq_some_iff, toOption_eq_some_iff] at hdecoded
  obtain ⟨hversions, hpaths, hraw⟩ := Decode.of_interface_eq_some hdecoded
  have hfeature : snapshot.derivedState.featureEnabled =
      Resolution.featureOf (Validation.configOf snapshot) := Resolution.featureEnabled_of _
  constructor
  · rw [hstate, Resolution.getElem?_capabilities_of, hconfig]
    rfl
  · rw [hstate, Resolution.getElem?_notifications_of, hconfig]
    refine ⟨_, fields, rfl, hrecord, rfl, rfl, fun field => ?_⟩
    rw [← Fields.getElem?_toHash, ← hraw]
    rfl
  · rw [hfeature]
    rfl
  · exact Resolution.isSome_maxPaths_interfaceOf hpaths
  · intro henabled
    rw [← hfeature, henabled]
    exact FamilySet.exists_get_of_parse hversions

/-- The network of a derived group is read from the text of the group and is of its family. -/
theorem network_coherent {family : Family} {name : String} {group : GroupState}
    (h : (snapshot.derivedState.groups.get family)[name]? = some group) :
    Network.parse group.networkText = .ok group.network ∧ group.network.family = family := by
  have hgroup : ((Resolution.of (Validation.configOf snapshot)).state.groups.get family)[name]? =
      some group := h
  rw [Resolution.getElem?_groups_of] at hgroup
  obtain ⟨config, -, hgroup⟩ := Option.bind_eq_some_iff.1 hgroup
  obtain ⟨network, hnetwork, rfl⟩ :=
    Resolution.groupOf_eq_ok_iff.1 (toOption_eq_some_iff.1 hgroup)
  exact Network.parseFor_eq_ok_iff.1 hnetwork

/-- What is derived from a snapshot is complete and fits together. -/
theorem resolution_coherent : (Resolution.of (Validation.of snapshot).config).Coherent
    (Validation.of snapshot).config snapshot where
  errors := errors_resolution snapshot
  families family := by
    rw [Resolution.get_families_of, Option.isSome_map]
  groups family := by
    rw [Resolution.get_groups_of]
    refine NameMap.keys_filterMap fun name group hgroup => ?_
    obtain ⟨state, hstate⟩ := snapshot.exists_groupOf hgroup
    rw [hstate]
    rfl
  interfaces := Std.ExtTreeMap.keys_map
  capabilities := Std.ExtTreeMap.keys_map.trans Std.ExtTreeMap.keys_map.symm
  notifications := Std.ExtTreeMap.keys_map.trans Std.ExtTreeMap.keys_map.symm
  interface _ _ := inStep_interface snapshot
  network _ _ _ := network_coherent snapshot

end Snapshot

end DualStack
