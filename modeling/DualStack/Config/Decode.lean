import DualStack.Config.Entity
import DualStack.Net.Network
import DualStack.Schema

/-!
# Decoding records

How the fields of one record become an entity, and everything that can be wrong with a record.
Fields that are absent take their defaults; of several faults in a record the first that is
looked for is reported, except in the global record, whose faults are all reported because the
record gates the whole feature in any case.
-/

set_option autoImplicit false

namespace DualStack

/-- What is wrong with a record. -/
inductive Fault where
  | badNumber (field text : String)
  | badVersion (field : String) (error : ParseError)
  | unknownValue (unknown : UnknownValue)
  /-- A record other than the one that is read. -/
  | foreignKey
  | badFamily (error : ParseError)
  | missingPaths (family : Family)
  | noContainer
  | unknownContainer (name : String)
  | badNetwork (family : Family) (text group : String)
deriving DecidableEq, Repr

/-- The field with the path limit of a family. -/
def maxPathsField : Family → String
  | .ipv4 => "max_paths_v4"
  | .ipv6 => "max_paths_v6"

/-- The field with the connection limit of a family. -/
def maxConnectionsField : Family → String
  | .ipv4 => "max_connections_v4"
  | .ipv6 => "max_connections_v6"

/-- The wording of a fault. -/
def Fault.message : Fault → String
  | badNumber field text => s!"{field} {Text.quoted text} is not a valid number"
  | badVersion field error => s!"{field}: {error.message}"
  | unknownValue unknown => unknown.message
  | foreignKey => s!"unexpected record, only {Text.quoted Schema.globalKey} is read"
  | badFamily error => error.message
  | missingPaths family =>
    s!"{maxPathsField family} required when IPv{family.version} enabled"
  | noContainer => "expected <ipv4_groups|ipv6_groups>|<group>"
  | unknownContainer name => s!"unknown ECMP container {Text.quoted name}"
  | badNetwork family text group =>
    s!"Invalid IPv{family.version} prefix {Text.quoted text} in group {group}"

namespace Decode

/-- A number field: absent, or blanks around a text that `read` accepts. -/
def number? {α : Type} (read : String → Option α) (fields : Fields) (field : String) :
    Except Fault (Option α) :=
  match fields.value? field with
  | none => .ok none
  | some text =>
    match read (Text.trim text) with
    | some n => .ok (some n)
    | none => .error (.badNumber field text)

/-- A number field with a default for its absence. -/
def numberOr {α : Type} (read : String → Option α) (fields : Fields) (field : String)
    (default : α) : Except Fault α := do
  let n ← number? read fields field
  pure (n.getD default)

/-- The enabled IP versions; both if the field is absent. -/
def families (fields : Fields) : Except Fault FamilySet :=
  (FamilySet.parse (fields.valueOr "ip_versions" "4,6")).mapError (.badVersion "ip_versions")

/-- Whether a truth field is set. -/
def flag (fields : Fields) (field : String) : Bool :=
  (fields.value? field).any textIsTrue

/-- The value of a result, or a default, with the fault if there is one. -/
def orDefault {α : Type} (default : α) : Except Fault α → α × List Fault
  | .ok a => (a, [])
  | .error fault => (default, [fault])

/-- Whether the global record asks for the feature. -/
def globalRequested (fields : Fields) : Bool :=
  flag fields "enable"

/-- The global settings and every fault in them. A record with a fault never enables the
feature, but it still gates it. -/
def global (fields : Fields) : GlobalConfig × List Fault :=
  let (families, familyFaults) := orDefault FamilySet.full (families fields)
  let (congestion, congestionFaults) := orDefault .hybrid
    ((CongestionControl.ofName (fields.valueOr "congestion_control" "hybrid")).mapError
      Fault.unknownValue)
  let faults := familyFaults ++ congestionFaults
  ({ enabled := globalRequested fields && faults.isEmpty
     families := families
     transport := ⟨fields.valueOr "transport_mode" "uet"⟩
     dualStack := ⟨fields.valueOr "dual_stack_mode" "concurrent"⟩
     congestion := congestion }, faults)

/-- The texts between commas without blanks around them, the empty ones left out. -/
def listOf (text : String) : List String :=
  ((Text.pieces ',' text).map Text.trim).filter (· ≠ "")

/-- The settings of an address family. -/
def family (fields : Fields) : Except Fault FamilyConfig := do
  let port ← numberOr Text.uint16? fields "udp_port" 4791
  pure
    { enabled := flag fields "enabled"
      port := port
      entropy := ((fields.value? "entropy_fields").map listOf).getD [] }

/-- The path limit of a family: required if the family is enabled, otherwise not looked at. -/
def maxPaths (fields : Fields) (enabled : FamilySet) (family : Family) :
    Except Fault (Option UInt32) :=
  if enabled.get family then do
    match ← number? Text.uint32? fields (maxPathsField family) with
    | some paths => pure (some paths)
    | none => throw (.missingPaths family)
  else pure none

/-- Whether an interface record enables the feature; other records are not looked at. -/
def interfaceEnabled (fields : Fields) : Bool :=
  flag fields "ue_enable"

/-- The settings of an interface that enables the feature. -/
def enabledInterface (fields : Fields) : Except Fault InterfaceConfig := do
  let enabled ← families fields
  let paths4 ← maxPaths fields enabled .ipv4
  let paths6 ← maxPaths fields enabled .ipv6
  let preferred ← (Family.ofVersion (fields.valueOr "prefer_version" "4")).mapError
    (.badVersion "prefer_version")
  pure
    { families := enabled
      maxPaths := ⟨paths4, paths6⟩
      loadBalance := ⟨fields.valueOr "load_balance_mode" "ecmp"⟩
      preferred := preferred
      raw := fields.toHash }

/-- The settings of an interface, or nothing if the feature is not enabled on it. -/
def interface (fields : Fields) : Except Fault (Option InterfaceConfig) :=
  if interfaceEnabled fields then some <$> enabledInterface fields else .ok none

/-- The container of the groups of a family. -/
def container : Family → String
  | .ipv4 => "ipv4_groups"
  | .ipv6 => "ipv6_groups"

/-- Family and name of the group that a record key spells: container, bar, name. -/
def groupKey (key : String) : Except Fault (Family × String) :=
  match Text.cutFirst? '|' key with
  | none => .error .noContainer
  | some (start, name) =>
    match Family.all.find? (container · == start) with
    | some family => .ok (family, name)
    | none => .error (.unknownContainer start)

/-- The settings of an ECMP group. -/
def group (family : Family) (name : String) (fields : Fields) : Except Fault EcmpGroup := do
  let text := fields.valueOr "prefix" ""
  let _ ← (Network.parseFor family text).mapError fun _ => Fault.badNetwork family text name
  let paths ← numberOr Text.uint32? fields "max_paths" 4
  pure
    { networkText := text
      maxPaths := paths
      hash := ⟨fields.valueOr "hash_algorithm" "crc32"⟩ }

/-- The RDMA settings. -/
def rdma (fields : Fields) : Except Fault RdmaConfig := do
  let connections4 ← numberOr Text.uint32? fields (maxConnectionsField .ipv4) 500000
  let connections6 ← numberOr Text.uint32? fields (maxConnectionsField .ipv6) 500000
  let timeout ← numberOr Text.uint32? fields "connection_timeout" 30
  let mode ← (ConnectionMode.ofName (fields.valueOr "connection_mode" "ephemeral")).mapError
    Fault.unknownValue
  pure { maxConnections := ⟨connections4, connections6⟩, mode := mode, timeout := timeout }

end Decode

end DualStack
