import DualStack.State.Notification
import DualStack.State.PipelineError

/-!
# The derived state

What a configuration means for the data plane. A disabled global record does not stop the other
scopes; it forces their flags off. Without a global record nothing is gated. ECMP networks are
checked again, so that a configuration from elsewhere cannot put a malformed one into the state.
-/

set_option autoImplicit false

namespace DualStack

/-- The derived global settings. -/
inductive GlobalState where
  | disabled
  | enabled (families : FamilySet) (transport : TransportMode) (dualStack : DualStackMode)
      (congestion : CongestionControl)
deriving DecidableEq, Repr

/-- Whether the feature is enabled. -/
def GlobalState.isEnabled : GlobalState → Bool
  | disabled => false
  | enabled .. => true

/-- The derived settings of an address family. -/
inductive FamilyState where
  | disabled
  | enabled (port : UInt16) (entropy : List String)
deriving DecidableEq, Repr

/-- The derived settings of an interface. -/
structure InterfaceState where
  enabled : Bool
  families : FamilySet
  maxPaths : PerFamily (Option UInt32)
  loadBalance : LoadBalanceMode
  preferred : Family
deriving DecidableEq, Repr

/-- The derived settings of an ECMP group. -/
structure GroupState where
  network : Network
  networkText : String
  maxPaths : UInt32
  hash : HashAlgorithm
deriving DecidableEq

/-- The state derived by one run. -/
structure DerivedState where
  /-- The global settings, if there is a global record. -/
  global : Option GlobalState
  families : PerFamily (Option FamilyState)
  interfaces : NameMap InterfaceState
  groups : PerFamily (NameMap GroupState)
  rdma : Option RdmaConfig
  capabilities : CapabilityTable
  notifications : NameMap Notification
deriving DecidableEq

namespace DerivedState

/-- The state without a record. -/
def empty : DerivedState where
  global := none
  families := PerFamily.both none
  interfaces := ∅
  groups := PerFamily.both ∅
  rdma := none
  capabilities := ∅
  notifications := ∅

/-- Whether the flags of the other scopes are meaningful. -/
def featureEnabled (state : DerivedState) : Bool :=
  state.global.all GlobalState.isEnabled

/-- The number of records that the global settings take. -/
def globalRecordCount : Option GlobalState → Nat
  | none => 0
  | some .disabled => 1
  | some (.enabled ..) => 4

/-- The number of records that the state is written as. -/
def recordCount (state : DerivedState) : Nat :=
  globalRecordCount state.global + (state.families.toList.countP (·.2.isSome)) +
    state.interfaces.size + state.groups.ipv4.size + state.groups.ipv6.size +
    state.rdma.toList.length

end DerivedState

/-- A derived state and the errors of the entities that were dropped from it. -/
structure Resolution where
  state : DerivedState
  errors : List PipelineError
deriving DecidableEq

namespace Resolution

/-- The derived global settings. -/
def globalOf (config : GlobalConfig) : GlobalState :=
  if config.enabled then
    .enabled config.families config.transport config.dualStack config.congestion
  else .disabled

/-- Whether a configuration enables the feature: it has no global record or an enabled one. -/
def featureOf (config : Config) : Bool :=
  config.global.all GlobalConfig.enabled

/-- The derived settings of a family. -/
def familyOf (feature : Bool) (config : FamilyConfig) : FamilyState :=
  if config.enabled && feature then .enabled config.port config.entropy else .disabled

/-- The families of an interface that carry traffic. -/
def flagsOf (feature : Bool) (config : InterfaceConfig) : FamilySet :=
  config.families.map (feature && ·)

/-- The derived settings of an interface. -/
def interfaceOf (feature : Bool) (config : InterfaceConfig) : InterfaceState :=
  let flags := flagsOf feature config
  { enabled := feature
    families := flags
    maxPaths :=
      ⟨config.maxPaths.ipv4.filter fun _ => flags.ipv4,
       config.maxPaths.ipv6.filter fun _ => flags.ipv6⟩
    loadBalance := config.loadBalance
    preferred := config.preferred }

/-- The derived settings of an ECMP group of a family, or what is wrong with its network. -/
def groupOf (family : Family) (group : EcmpGroup) : Except ParseError GroupState := do
  let network ← Network.parseFor family group.networkText
  pure ⟨network, group.networkText, group.maxPaths, group.hash⟩

/-- The errors of the groups of a family, by name. -/
def groupErrors (family : Family) (groups : NameMap EcmpGroup) : List PipelineError :=
  groups.toList.filterMap fun (name, group) =>
    match groupOf family group with
    | .ok _ => none
    | .error reason =>
      some (.malformedNetwork family name group.networkText reason.message)

/-- Derives the state of a configuration. -/
def of (config : Config) : Resolution :=
  let feature := featureOf config
  let groups (family : Family) : NameMap GroupState :=
    (config.groups.get family).filterMap fun _ group => (groupOf family group).toOption
  { state :=
      { global := config.global.map globalOf
        families := config.families.map (·.map (familyOf feature))
        interfaces := config.interfaces.map fun _ interface => interfaceOf feature interface
        groups := ⟨groups .ipv4, groups .ipv6⟩
        rdma := config.rdma
        capabilities := config.interfaces.map fun _ interface => flagsOf feature interface
        notifications := config.interfaces.map fun name interface =>
          Notification.setDualStack name interface.raw (flagsOf feature interface) }
    errors := Family.all.flatMap fun family => groupErrors family (config.groups.get family) }

end Resolution

end DualStack
