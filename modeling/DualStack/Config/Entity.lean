import Std.Data.ExtTreeMap
import DualStack.Store.Fields
import DualStack.Config.FamilySet
import DualStack.Config.Mode

/-!
# The entities of a configuration

What the records of the five tables mean once they are decoded: the global settings, the
settings of each family and each enabled interface, ECMP groups by family and name, and the
RDMA settings. A configuration holds only entities that were accepted.

An entity does not repeat what it is filed under. A family has no field for its own family, an
interface none for its name, a group none for its family and name: an entity is filed under nothing
else, and neither the derivation of a state nor the writing of its records reads such a field. An
interface is an entity only if it has the feature enabled, so there is no field that says so.
-/

set_option autoImplicit false

namespace DualStack

/-- The global settings. -/
structure GlobalConfig where
  enabled : Bool
  families : FamilySet
  transport : TransportMode
  dualStack : DualStackMode
  congestion : CongestionControl
deriving DecidableEq, Repr

/-- The settings of an address family, which is the one they are filed under. -/
structure FamilyConfig where
  enabled : Bool
  port : UInt16
  /-- The packet fields that vary the path, in order. -/
  entropy : List String
deriving DecidableEq, Repr

/-- The settings of an interface with the feature enabled, filed under its name. -/
structure InterfaceConfig where
  families : FamilySet
  maxPaths : PerFamily (Option UInt32)
  loadBalance : LoadBalanceMode
  preferred : Family
  /-- The fields as configured, which change notifications repeat. -/
  raw : Hash
deriving DecidableEq

/-- The settings of an ECMP group, filed under its family and its name. -/
structure EcmpGroup where
  /-- The network text as configured. -/
  networkText : String
  maxPaths : UInt32
  hash : HashAlgorithm
deriving DecidableEq, Repr

/-- The RDMA settings. -/
structure RdmaConfig where
  maxConnections : PerFamily UInt32
  mode : ConnectionMode
  /-- The connection timeout in seconds. -/
  timeout : UInt32
deriving DecidableEq, Repr

/-- The accepted entities of one configuration. -/
structure Config where
  global : Option GlobalConfig
  families : PerFamily (Option FamilyConfig)
  interfaces : NameMap InterfaceConfig
  groups : PerFamily (NameMap EcmpGroup)
  rdma : Option RdmaConfig
deriving DecidableEq

/-- The configuration without an entity. -/
def Config.empty : Config where
  global := none
  families := PerFamily.both none
  interfaces := ∅
  groups := PerFamily.both ∅
  rdma := none

end DualStack
