import DualStack.State.Derived

/-!
# The records of a derived state

The one place where the derived state turns into the texts of the application database: truth
values become words, numbers become decimal digits, and lists become JSON text. Records come in
the order of the scopes.
-/

set_option autoImplicit false

namespace DualStack

/-- One hash of the application database. -/
structure AppRecord where
  scope : Scope
  /-- The entity that the record belongs to. -/
  name : String
  /-- The store key. -/
  key : String
  fields : Fields
deriving DecidableEq, Repr

namespace AppRecord

/-- The record that is the only one under its key and is named after it. -/
def single (scope : Scope) (key : String) (fields : Fields) : AppRecord :=
  ⟨scope, key, key, fields⟩

/-- The records of the global settings. -/
def ofGlobal : GlobalState → List AppRecord
  | .disabled => [single .global Schema.globalStateKey [("enabled", boolText false)]]
  | .enabled families transport dualStack congestion =>
    [single .global Schema.globalStateKey
      [("enabled", boolText true),
       ("ipv4_enabled", boolText families.ipv4),
       ("ipv6_enabled", boolText families.ipv6)],
     single .global Schema.transportModeKey [("mode", transport.name)],
     single .global Schema.dualStackKey [("mode", dualStack.name)],
     single .global Schema.congestionControlKey [("algorithm", congestion.name)]]

/-- The key of the record of a family. -/
def familyKey : Family → String
  | .ipv4 => Schema.ipv4ConfigKey
  | .ipv6 => Schema.ipv6ConfigKey

/-- The JSON text of a list of texts. -/
def listText (items : List String) : String :=
  (Json.array (items.map Json.ofString)).render

/-- The record of an address family. -/
def ofFamily (family : Family) (state : FamilyState) : AppRecord where
  scope := .addressFamily
  name := family.name
  key := familyKey family
  fields :=
    match state with
    | .disabled => [("enabled", boolText false)]
    | .enabled port entropy =>
      [("enabled", boolText true),
       ("udp_port", toString port.toNat),
       ("entropy_fields", listText entropy)]

/-- The field with the path limit of a family, if there is a limit. -/
def pathsFields (family : Family) (paths : Option UInt32) : Fields :=
  paths.toList.map fun paths => (maxPathsField family, toString paths.toNat)

/-- The record of an interface. -/
def ofInterface (name : String) (state : InterfaceState) : AppRecord where
  scope := .interface
  name := name
  key := Database.appl.recordKey Schema.interfaceConfigTable name
  fields :=
    [("enabled", boolText state.enabled),
     ("ipv4_enabled", boolText state.families.ipv4),
     ("ipv6_enabled", boolText state.families.ipv6)] ++
    pathsFields .ipv4 state.maxPaths.ipv4 ++ pathsFields .ipv6 state.maxPaths.ipv6 ++
    [("load_balance_mode", state.loadBalance.name),
     ("prefer_version", toString state.preferred.version)]

/-- The record of an ECMP group. -/
def ofGroup (family : Family) (name : String) (state : GroupState) : AppRecord :=
  let fullName := s!"{family.name}:{name}"
  { scope := .ecmp
    name := fullName
    key := Database.appl.recordKey Schema.ecmpGroupTable fullName
    fields :=
      [("prefix", state.networkText),
       ("max_paths", toString state.maxPaths.toNat),
       ("hash_algorithm", state.hash.name),
       ("ip_version", family.name)] }

/-- The record of the RDMA settings. -/
def ofRdma (config : RdmaConfig) : AppRecord :=
  single .rdma Schema.rdmaConfigKey
    [(maxConnectionsField .ipv4, toString config.maxConnections.ipv4.toNat),
     (maxConnectionsField .ipv6, toString config.maxConnections.ipv6.toNat),
     ("connection_mode", config.mode.name),
     ("connection_timeout", toString config.timeout.toNat)]

end AppRecord

/-- The records of a derived state, in the order of the scopes. -/
def DerivedState.records (state : DerivedState) : List AppRecord :=
  state.global.toList.flatMap AppRecord.ofGlobal ++
  state.families.toList.flatMap (fun (family, derived) =>
    derived.toList.map (AppRecord.ofFamily family)) ++
  state.interfaces.toList.map (fun (name, derived) => AppRecord.ofInterface name derived) ++
  state.groups.toList.flatMap (fun (family, groups) =>
    groups.toList.map fun (name, derived) => AppRecord.ofGroup family name derived) ++
  state.rdma.toList.map AppRecord.ofRdma

end DualStack
