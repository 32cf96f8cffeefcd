import DualStack.Proofs.Gating
import Mathlib.Data.List.Sort
import Mathlib.Data.String.Basic

/-!
# The second check

The state is derived from whatever configuration it is given, also from one that no snapshot leads
to. The groups of it whose networks parse are in the state, and each other one is reported once, by
family and then by name, and leaves no trace in the state. The flags of the other scopes hold
without the guarantees of an accepted record: a path limit needs the flag of its family, a flag
needs the interface to be enabled, and a global record that is not enabled leaves none.
-/

set_option autoImplicit false

namespace DualStack

/-! ## Refused groups -/

/-- A group whose network text is refused, with the reason. -/
structure RefusedGroup where
  family : Family
  name : String
  text : String
  reason : ParseError

namespace RefusedGroup

/-- The error of a refused group. -/
def error (refused : RefusedGroup) : PipelineError :=
  .malformedNetwork refused.family refused.name refused.text refused.reason.message

/-- A refused group is a group of a configuration that does not pass the check of its network. -/
structure Of (refused : RefusedGroup) (config : Config) : Prop where
  given : ∃ group, (config.groups.get refused.family)[refused.name]? = some group ∧
    group.networkText = refused.text
  malformed : Network.parseFor refused.family refused.text = .error refused.reason

/-- The order in which groups are checked: by family, IPv4 first, and then by name. -/
def Before (a b : RefusedGroup) : Prop :=
  a.family = .ipv4 ∧ b.family = .ipv6 ∨ a.family = b.family ∧ a.name < b.name

/-- No group stands before itself. -/
instance : Std.Irrefl Before where
  irrefl a h := by
    rcases h with ⟨h4, h6⟩ | ⟨-, hlt⟩
    · rw [h4] at h6
      cases h6
    · exact lt_irrefl a.name hlt

/-- Of two groups at most one stands before the other. -/
instance : Std.Antisymm Before where
  antisymm a b h h' := by
    rcases h with ⟨h4, h6⟩ | ⟨hfamily, hlt⟩
    · rcases h' with ⟨h4', -⟩ | ⟨hfamily', -⟩
      · rw [h6] at h4'
        cases h4'
      · rw [h4, h6] at hfamily'
        cases hfamily'
    · rcases h' with ⟨h4', h6'⟩ | ⟨-, hlt'⟩
      · rw [h4', h6'] at hfamily
        cases hfamily
      · exact absurd hlt' (lt_asymm hlt)

end RefusedGroup

/-- What the check of a group says against it. -/
def refusal? (family : Family) (name : String) (group : EcmpGroup) : Option RefusedGroup :=
  match Network.parseFor family group.networkText with
  | .ok _ => none
  | .error reason => some ⟨family, name, group.networkText, reason⟩

/-- A group is refused exactly if its text is no network of its family, for the reason that the
reader gives. -/
theorem refusal?_eq_some_iff {family : Family} {name : String} {group : EcmpGroup}
    {refused : RefusedGroup} : refusal? family name group = some refused ↔
      ∃ reason, Network.parseFor family group.networkText = .error reason ∧
        refused = ⟨family, name, group.networkText, reason⟩ := by
  unfold refusal?
  cases Network.parseFor family group.networkText <;> simp [eq_comm]

/-- A group is either refused or derived. -/
theorem isSome_refusal? (family : Family) (name : String) (group : EcmpGroup) :
    (refusal? family name group).isSome = !(Resolution.groupOf family group).toOption.isSome := by
  unfold refusal? Resolution.groupOf
  cases Network.parseFor family group.networkText <;> rfl

namespace Config

variable (config : Config)

/-- The refused groups of a family, by name. -/
def refusedOf (family : Family) : List RefusedGroup :=
  (config.groups.get family).toList.filterMap fun (name, group) => refusal? family name group

/-- The refused groups, IPv4 first. -/
def refused : List RefusedGroup :=
  Family.all.flatMap config.refusedOf

/-- The refused groups of a family are those of the configuration that do not pass the check. -/
theorem mem_refusedOf {family : Family} {refused : RefusedGroup} :
    refused ∈ config.refusedOf family ↔ refused.family = family ∧ refused.Of config := by
  unfold refusedOf
  simp only [List.mem_filterMap, Prod.exists, Std.ExtTreeMap.mem_toList_iff_getElem?_eq_some,
    refusal?_eq_some_iff]
  constructor
  · rintro ⟨name, group, hgroup, reason, hparse, rfl⟩
    exact ⟨rfl, ⟨group, hgroup, rfl⟩, hparse⟩
  · rintro ⟨rfl, ⟨group, hgroup, htext⟩, hparse⟩
    rw [← htext] at hparse
    exact ⟨refused.name, group, hgroup, refused.reason, hparse, by rw [htext]⟩

/-- The refused groups are those of the configuration, in either family, that do not pass the
check. -/
theorem mem_refused {refused : RefusedGroup} : refused ∈ config.refused ↔ refused.Of config := by
  unfold Config.refused
  simp [mem_refusedOf, Family.mem_all]

/-- The refused groups of a family are in the order of their names. -/
theorem pairwise_refusedOf (family : Family) :
    (config.refusedOf family).Pairwise RefusedGroup.Before := by
  unfold refusedOf
  refine List.pairwise_filterMap.2 ((NameMap.pairwise_toList _).imp ?_)
  rintro ⟨name, group⟩ ⟨name', group'⟩ hlt a ha b hb
  obtain ⟨-, -, rfl⟩ := refusal?_eq_some_iff.1 ha
  obtain ⟨-, -, rfl⟩ := refusal?_eq_some_iff.1 hb
  exact .inr ⟨rfl, compare_lt_iff_lt.1 hlt⟩

/-- The refused groups come in the order of the checks, so none of them comes twice. -/
theorem pairwise_refused : config.refused.Pairwise RefusedGroup.Before := by
  refine List.pairwise_flatMap.2 ⟨fun family _ => config.pairwise_refusedOf family, ?_⟩
  have hfamilies : Family.all.Pairwise fun a b => a = .ipv4 ∧ b = .ipv6 := by decide
  refine hfamilies.imp ?_
  rintro family family' ⟨rfl, rfl⟩ a ha b hb
  exact .inl ⟨(config.mem_refusedOf.1 ha).1, (config.mem_refusedOf.1 hb).1⟩

/-- The errors of a derivation are those of the refused groups, and no others. -/
theorem errors_of : (Resolution.of config).errors = config.refused.map RefusedGroup.error := by
  have hone : ∀ family, Resolution.groupErrors family (config.groups.get family) =
      (config.refusedOf family).map RefusedGroup.error := by
    intro family
    unfold Resolution.groupErrors refusedOf
    rw [List.map_filterMap]
    refine List.filterMap_congr ?_
    rintro ⟨name, group⟩ -
    unfold refusal? Resolution.groupOf
    cases hparse : Network.parseFor family group.networkText <;>
      simp [hparse, bind, Except.bind, pure, Except.pure, RefusedGroup.error]
  show (Family.all.flatMap fun family =>
    Resolution.groupErrors family (config.groups.get family)) = _
  simp only [hone, Config.refused, List.map_flatMap]

/-! ## Kept groups -/

/-- Every group of a family is in the state or refused. -/
theorem size_groups (family : Family) :
    ((Resolution.of config).state.groups.get family).size + (config.refusedOf family).length =
      (config.groups.get family).size := by
  let kept : String × EcmpGroup → Bool := fun pair =>
    (Resolution.groupOf family pair.2).toOption.isSome
  have hkept : ((Resolution.of config).state.groups.get family).size =
      (config.groups.get family).toList.countP kept := by
    rw [Resolution.get_groups_of, ← Std.ExtTreeMap.length_toList,
      Std.ExtTreeMap.toList_filterMap, List.length_filterMap_eq_countP]
    exact List.countP_congr fun pair _ => by simp [kept]
  have hrefused : (config.refusedOf family).length =
      (config.groups.get family).toList.countP fun pair => ¬ kept pair := by
    rw [refusedOf, List.length_filterMap_eq_countP]
    exact List.countP_congr fun pair _ => by simp [kept, isSome_refusal?]
  rw [hkept, hrefused, ← List.length_eq_countP_add_countP, Std.ExtTreeMap.length_toList]

/-! ## Without a refused group -/

/-- A configuration without the group of a family and a name. -/
def withoutGroup (family : Family) (name : String) : Config :=
  { config with groups := config.groups.modify family fun groups => groups.erase name }

variable {config} {family : Family} {name : String}

/-- A configuration without one group has all the others. -/
theorem getElem?_groups_withoutGroup (family' : Family) (name' : String) :
    ((config.withoutGroup family name).groups.get family')[name']? =
      if family' = family ∧ name' = name then none
      else (config.groups.get family')[name']? := by
  unfold withoutGroup
  rw [PerFamily.get_modify]
  by_cases hfamily : family' = family
  · simp only [hfamily, if_true, true_and, Std.ExtTreeMap.getElem?_erase,
      Std.LawfulEqCmp.compare_eq_iff_eq, eq_comm (a := name')]
  · simp only [hfamily, if_false, false_and]

/-- A group whose network does not parse makes no difference to the state. -/
theorem state_withoutGroup {group : EcmpGroup} {reason : ParseError}
    (hgroup : (config.groups.get family)[name]? = some group)
    (hparse : Network.parseFor family group.networkText = .error reason) :
    (Resolution.of (config.withoutGroup family name)).state = (Resolution.of config).state := by
  have hunderived : Resolution.groupOf family group = .error reason := by
    unfold Resolution.groupOf
    rw [hparse]
    rfl
  have hgroups : (Resolution.of (config.withoutGroup family name)).state.groups =
      (Resolution.of config).state.groups := by
    apply PerFamily.ext_get
    intro family'
    apply Std.ExtTreeMap.ext_getElem?
    intro name'
    rw [Resolution.getElem?_groups_of, Resolution.getElem?_groups_of,
      getElem?_groups_withoutGroup]
    split
    · next hplace =>
      obtain ⟨rfl, rfl⟩ := hplace
      rw [hgroup, Option.bind_none, Option.bind_some, hunderived]
      rfl
    · rfl
  have hothers : (Resolution.of (config.withoutGroup family name)).state =
      { (Resolution.of config).state with
        groups := (Resolution.of (config.withoutGroup family name)).state.groups } := rfl
  rw [hothers, hgroups]

/-- Without a group the other groups are refused as before. -/
theorem refused_withoutGroup : (config.withoutGroup family name).refused =
    config.refused.filter fun refused => ¬ (refused.family = family ∧ refused.name = name) := by
  -- both lists are in the strict order of the checks, so it is enough to compare their members
  refine (pairwise_refused _).eq_of_mem_iff ((pairwise_refused _).filter _) fun refused => ?_
  rw [mem_refused, List.mem_filter, mem_refused, decide_eq_true_iff]
  constructor
  · rintro ⟨⟨group, hgroup, htext⟩, hparse⟩
    rw [getElem?_groups_withoutGroup, Option.ite_none_left_eq_some] at hgroup
    exact ⟨⟨⟨group, hgroup.2, htext⟩, hparse⟩, hgroup.1⟩
  · rintro ⟨⟨⟨group, hgroup, htext⟩, hparse⟩, hplace⟩
    refine ⟨⟨group, ?_, htext⟩, hparse⟩
    rw [getElem?_groups_withoutGroup, if_neg hplace, hgroup]

end Config

/-! ## Flags -/

/-- No flag of a state is on. -/
structure DerivedState.AllOff (state : DerivedState) : Prop where
  feature : state.featureEnabled = false
  global : state.global = some .disabled
  families : ∀ family derived, state.families.get family = some derived → derived = .disabled
  interfaces : ∀ (name : String) (interface : InterfaceState),
    state.interfaces[name]? = some interface →
      interface.enabled = false ∧ interface.families = FamilySet.empty
  capabilities : ∀ (name : String) (families : FamilySet),
    state.capabilities[name]? = some families → families = FamilySet.empty
  notifications : ∀ (name : String) (n : Notification),
    state.notifications[name]? = some n → n.capabilities = FamilySet.empty

namespace Resolution

/-- A path limit needs the flag of its family, and a flag needs the interface to be enabled. -/
theorem flags_interfaceOf (feature : Bool) (config : InterfaceConfig) (family : Family) :
    let interface := interfaceOf feature config
    ((interface.maxPaths.get family).isSome = true → interface.families.get family = true) ∧
      (interface.families.get family = true → interface.enabled = true) := by
  intro interface
  constructor
  · intro hsome
    rw [get_maxPaths_interfaceOf, Option.isSome_filter, Option.any_eq_true] at hsome
    obtain ⟨-, -, hflag⟩ := hsome
    exact hflag
  · intro hflag
    have hboth : (flagsOf feature config).get family = true := hflag
    rw [get_flagsOf, Bool.and_eq_true] at hboth
    exact hboth.1

/-- With global settings that are disabled, no flag of the state is on. -/
theorem allOff_of {config : Config} {global : GlobalConfig} (hglobal : config.global = some global)
    (hdisabled : global.enabled = false) : (of config).state.AllOff := by
  have hfeature : featureOf config = false := by simp [featureOf, hglobal, hdisabled]
  constructor
  · rw [featureEnabled_of, hfeature]
  · show config.global.map globalOf = some .disabled
    rw [hglobal, Option.map_some, globalOf, hdisabled]
    rfl
  · intro family derived hderived
    rw [get_families_of, hfeature, Option.map_eq_some_iff] at hderived
    obtain ⟨settings, -, rfl⟩ := hderived
    exact familyOf_false settings
  · intro name interface hinterface
    rw [getElem?_interfaces_of, hfeature, Option.map_eq_some_iff] at hinterface
    obtain ⟨settings, -, rfl⟩ := hinterface
    rw [interfaceOf_false]
    exact ⟨rfl, rfl⟩
  · intro name families hfamilies
    rw [getElem?_capabilities_of, hfeature, Option.map_eq_some_iff] at hfamilies
    obtain ⟨settings, -, rfl⟩ := hfamilies
    exact flagsOf_false settings
  · intro name n hn
    rw [getElem?_notifications_of, hfeature, Option.map_eq_some_iff] at hn
    obtain ⟨settings, -, rfl⟩ := hn
    exact flagsOf_false settings

/-- What is derived from any configuration. A group is in the state exactly if its network parses,
with its own settings; each other group has one error, in the order of the checks, and there are no
other errors, so every group is kept or reported. The state is the same without a group that is
reported, and the others are reported as before. A path limit needs the flag of its family, a flag
needs the interface to be enabled, and nothing is on behind a global record that is not enabled. -/
theorem of_any_config (config : Config) :
    let state := (of config).state
    (∀ family (name : String) derived, (state.groups.get family)[name]? = some derived ↔
      ∃ group network, (config.groups.get family)[name]? = some group ∧
        Network.parseFor family group.networkText = .ok network ∧
        derived = ⟨network, group.networkText, group.maxPaths, group.hash⟩) ∧
    (of config).errors = config.refused.map RefusedGroup.error ∧
    (∀ refused, refused ∈ config.refused ↔ refused.Of config) ∧
    config.refused.Pairwise RefusedGroup.Before ∧
    state.groups.ipv4.size + state.groups.ipv6.size + (of config).errors.length =
      config.groups.ipv4.size + config.groups.ipv6.size ∧
    (∀ refused ∈ config.refused,
      let without := config.withoutGroup refused.family refused.name
      (of without).state = state ∧
        without.refused = config.refused.filter fun other =>
          ¬ (other.family = refused.family ∧ other.name = refused.name)) ∧
    (∀ (name : String) interface family, state.interfaces[name]? = some interface →
      ((interface.maxPaths.get family).isSome = true → interface.families.get family = true) ∧
        (interface.families.get family = true → interface.enabled = true)) ∧
    (∀ global, config.global = some global → global.enabled = false → state.AllOff) := by
  intro state
  refine ⟨?_, config.errors_of, fun _ => config.mem_refused, config.pairwise_refused, ?_, ?_, ?_,
    fun _ => allOff_of⟩
  · intro family name derived
    rw [getElem?_groups_of, Option.bind_eq_some_iff]
    simp only [toOption_eq_some_iff, groupOf_eq_ok_iff, exists_and_left]
  · have h4 : state.groups.ipv4.size + (config.refusedOf .ipv4).length =
        config.groups.ipv4.size := config.size_groups .ipv4
    have h6 : state.groups.ipv6.size + (config.refusedOf .ipv6).length =
        config.groups.ipv6.size := config.size_groups .ipv6
    have hlength : (of config).errors.length =
        (config.refusedOf .ipv4).length + (config.refusedOf .ipv6).length := by
      rw [config.errors_of, List.length_map]
      simp [Config.refused, Family.all]
    omega
  · intro refused hrefused without
    obtain ⟨⟨group, hgroup, htext⟩, hparse⟩ := config.mem_refused.1 hrefused
    rw [← htext] at hparse
    exact ⟨Config.state_withoutGroup hgroup hparse, Config.refused_withoutGroup⟩
  · intro name interface family hinterface
    rw [getElem?_interfaces_of, Option.map_eq_some_iff] at hinterface
    obtain ⟨settings, -, rfl⟩ := hinterface
    exact flags_interfaceOf _ settings family

end Resolution

end DualStack
