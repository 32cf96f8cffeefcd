import DualStack.Proofs.Entities
import DualStack.Proofs.FieldTexts
import DualStack.State.Derived

/-!
# From accepted records to the derived state

What is known of an entity because its record was accepted, and what the derived state holds for
each entity of a configuration. Each part of the state is looked up by what names it and comes from
the one entity of that name, with the flags forced off if the feature is not enabled.
-/

set_option autoImplicit false

namespace DualStack

/-! ## Accepted records -/

/-- A list of versions that is read has at least one family in it. -/
theorem FamilySet.exists_get_of_parse {s : String} {families : FamilySet}
    (h : FamilySet.parse s = .ok families) : ∃ family, families.get family = true := by
  obtain ⟨hnamed, hget⟩ := of_parse_eq_ok h
  cases hpieces : Text.pieces ',' s with
  | nil => exact absurd (List.map_eq_nil_iff.1 hpieces) (Text.splitOn_ne_nil _ _)
  | cons token tokens =>
    have htoken : token ∈ Text.pieces ',' s := by simp [hpieces]
    obtain ⟨family, hfamily⟩ := hnamed token htoken
    exact ⟨family, (hget family).2 ⟨token, htoken, hfamily⟩⟩

namespace Network

/-- A text is a network for a family exactly if it is a network and the network is of this
family. -/
theorem parseFor_eq_ok_iff {family : Family} {text : String} {network : Network} :
    parseFor family text = .ok network ↔ parse text = .ok network ∧ network.family = family := by
  constructor
  · intro h
    obtain ⟨parsed, hparse, hchecked⟩ := exists_of_bind_eq_ok h
    by_cases hfamily : parsed.family = family
    · rw [if_pos hfamily] at hchecked
      cases hchecked
      exact ⟨hparse, hfamily⟩
    · rw [if_neg hfamily] at hchecked
      cases hchecked
  · rintro ⟨hparse, hfamily⟩
    unfold parseFor
    rw [hparse]
    exact if_pos hfamily

end Network

namespace Decode

/-- The settings of a family are enabled exactly if the flag in its record is set. -/
theorem enabled_of_family_eq_ok {fields : Fields} {config : FamilyConfig}
    (h : Decode.family fields = .ok config) : config.enabled = flag fields "enabled" := by
  unfold Decode.family at h
  obtain ⟨port, -, h⟩ := exists_of_bind_eq_ok h
  cases h
  rfl

/-- An accepted record has a path limit for a family exactly if the family is enabled in it. -/
theorem isSome_maxPaths {fields : Fields} {enabled : FamilySet} {family : Family}
    {paths : Option UInt32} (h : maxPaths fields enabled family = .ok paths) :
    paths.isSome = enabled.get family := by
  unfold maxPaths at h
  cases hfamily : enabled.get family with
  | false =>
    rw [hfamily] at h
    cases h
    rfl
  | true =>
    rw [hfamily] at h
    obtain ⟨limit, -, h⟩ := exists_of_bind_eq_ok h
    cases limit with
    | none => cases h
    | some limit =>
      cases h
      rfl

/-- What an accepted interface record says: its versions, limits for just those, its fields. -/
theorem of_interface_eq_some {fields : Fields} {interface : InterfaceConfig}
    (h : Decode.interface fields = .ok (some interface)) :
    FamilySet.parse (fields.valueOr "ip_versions" "4,6") = .ok interface.families ∧
      (∀ family, (interface.maxPaths.get family).isSome = interface.families.get family) ∧
      interface.raw = fields.toHash := by
  have henabled : enabledInterface fields = .ok interface := by
    unfold Decode.interface at h
    split at h
    · obtain ⟨accepted, haccepted, heq⟩ := exists_of_map_eq_ok h
      rw [haccepted, Option.some.inj heq]
    · cases h
  unfold enabledInterface at henabled
  obtain ⟨enabled, hversions, h⟩ := exists_of_bind_eq_ok henabled
  obtain ⟨paths4, h4, h⟩ := exists_of_bind_eq_ok h
  obtain ⟨paths6, h6, h⟩ := exists_of_bind_eq_ok h
  obtain ⟨preferred, -, h⟩ := exists_of_bind_eq_ok h
  cases h
  refine ⟨?_, ?_, rfl⟩
  · exact eq_ok_of_mapError_eq_ok hversions
  · intro family
    cases family with
    | ipv4 => exact isSome_maxPaths h4
    | ipv6 => exact isSome_maxPaths h6

/-- The text of an accepted group is a network of its family. -/
theorem parseFor_of_group {family : Family} {name : String} {fields : Fields} {group : EcmpGroup}
    (h : Decode.group family name fields = .ok group) :
    ∃ network, Network.parseFor family group.networkText = .ok network := by
  unfold Decode.group at h
  obtain ⟨network, hnetwork, h⟩ := exists_of_bind_eq_ok h
  obtain ⟨paths, -, h⟩ := exists_of_bind_eq_ok h
  cases h
  exact ⟨network, eq_ok_of_mapError_eq_ok hnetwork⟩

end Decode

/-! ## The state of a configuration -/

namespace Resolution

/-- A group is derived exactly if its text is a network of its family, and then it keeps its text,
limit and hash. -/
theorem groupOf_eq_ok_iff {family : Family} {group : EcmpGroup} {state : GroupState} :
    groupOf family group = .ok state ↔ ∃ network,
      Network.parseFor family group.networkText = .ok network ∧
        state = ⟨network, group.networkText, group.maxPaths, group.hash⟩ := by
  constructor
  · intro h
    obtain ⟨network, hnetwork, hstate⟩ := exists_of_bind_eq_ok h
    cases hstate
    exact ⟨network, hnetwork, rfl⟩
  · rintro ⟨network, hnetwork, rfl⟩
    unfold groupOf
    rw [hnetwork]
    rfl

variable (config : Config)

/-- The feature is enabled in a derived state exactly if the configuration enables it. -/
theorem featureEnabled_of :
    (of config).state.featureEnabled = featureOf config := by
  have hglobal : (of config).state.global = config.global.map globalOf := rfl
  unfold DerivedState.featureEnabled featureOf
  rw [hglobal]
  cases config.global with
  | none => rfl
  | some global =>
    cases henabled : global.enabled <;> simp [globalOf, henabled, GlobalState.isEnabled]

/-- The derived state of a family is that of its settings, and there is none without settings. -/
theorem get_families_of (family : Family) : (of config).state.families.get family =
    (config.families.get family).map (familyOf (featureOf config)) :=
  PerFamily.get_map _ _ _

/-- The derived state of an interface is that of its settings, and there is none without
settings. -/
theorem getElem?_interfaces_of (name : String) : (of config).state.interfaces[name]? =
    config.interfaces[name]?.map (interfaceOf (featureOf config)) :=
  Std.ExtTreeMap.getElem?_map

/-- The capabilities of an interface are the flags of its settings. -/
theorem getElem?_capabilities_of (name : String) : (of config).state.capabilities[name]? =
    config.interfaces[name]?.map (flagsOf (featureOf config)) :=
  Std.ExtTreeMap.getElem?_map

/-- The notification of an interface has its name, its raw fields and its flags. -/
theorem getElem?_notifications_of (name : String) : (of config).state.notifications[name]? =
    config.interfaces[name]?.map fun interface =>
      Notification.setDualStack name interface.raw (flagsOf (featureOf config) interface) :=
  Std.ExtTreeMap.getElem?_map

/-- The flag of a family is set exactly if both the feature and the family are enabled. -/
theorem get_flagsOf (feature : Bool) (interface : InterfaceConfig) (family : Family) :
    (flagsOf feature interface).get family = (feature && interface.families.get family) :=
  PerFamily.get_map _ _ _

/-- A path limit is derived exactly for the families whose flag is set. -/
theorem get_maxPaths_interfaceOf (feature : Bool) (interface : InterfaceConfig)
    (family : Family) : (interfaceOf feature interface).maxPaths.get family =
      (interface.maxPaths.get family).filter fun _ => (flagsOf feature interface).get family := by
  cases family <;> rfl

/-- The derived groups of a family are those of its configured groups that can be derived. -/
theorem get_groups_of (family : Family) : (of config).state.groups.get family =
    (config.groups.get family).filterMap fun _ group => (groupOf family group).toOption := by
  cases family <;> rfl

/-- A group is derived exactly if it is configured and can be derived. -/
theorem getElem?_groups_of (family : Family) (name : String) :
    ((of config).state.groups.get family)[name]? =
      (config.groups.get family)[name]?.bind fun group => (groupOf family group).toOption := by
  rw [get_groups_of]
  exact Std.ExtTreeMap.getElem?_filterMap'

end Resolution

end DualStack
