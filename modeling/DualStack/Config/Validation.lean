import DualStack.Config.Decode
import DualStack.Config.Snapshot

/-!
# Validation of a snapshot

A snapshot is split into the configuration of the records that are in order and one error for
each fault. Of several records with one key only the last is looked at. A record with a fault
is left out and touches no other; the global record alone is kept, disabled. Errors come in
the order of the scopes and, within a scope, in code-point order of the record keys.
-/

set_option autoImplicit false

namespace DualStack

/-- A fault of a record, with the place of the record. -/
structure ValidationError where
  scope : Scope
  key : String
  message : String
deriving DecidableEq, Repr

/-- The wording of a validation error. -/
def ValidationError.text (error : ValidationError) : String :=
  s!"{error.scope.name} {error.key}: {error.message}"

/-- The accepted configuration of a snapshot and the errors of what was left out. -/
structure Validation where
  config : Config
  errors : List ValidationError
deriving DecidableEq

namespace Validation

/-- The records of a table by key, the last of a key counting. -/
def lastRecords (table : Table) : NameMap Fields :=
  NameMap.ofPairs table

/-- The fault of a failed result. -/
def faultOf {α : Type} : Except Fault α → List Fault
  | .ok _ => []
  | .error fault => [fault]

/-- Every fault of a record. -/
def faults (scope : Scope) (key : String) (fields : Fields) : List Fault :=
  match scope with
  | .global => if key = Schema.globalKey then (Decode.global fields).2 else [.foreignKey]
  | .addressFamily =>
    match Family.ofName key with
    | .ok _ => faultOf (Decode.family fields)
    | .error error => [.badFamily error]
  | .interface => faultOf (Decode.interface fields)
  | .ecmp =>
    match Decode.groupKey key with
    | .ok (family, name) => faultOf (Decode.group family name fields)
    | .error fault => [fault]
  | .rdma => if key = Schema.globalKey then faultOf (Decode.rdma fields) else [.foreignKey]

/-- The errors of a table, in code-point order of the record keys. -/
def tableErrors (scope : Scope) (table : Table) : List ValidationError :=
  (lastRecords table).toList.flatMap fun (key, fields) =>
    (faults scope key fields).map fun fault => ⟨scope, key, fault.message⟩

/-- The group that a record describes for a family, with its name. -/
def groupOf? (family : Family) (key : String) (fields : Fields) : Option (String × EcmpGroup) :=
  match Decode.groupKey key with
  | .ok (spelled, name) =>
    if spelled = family then
      (Decode.group family name fields).toOption.map fun group => (name, group)
    else none
  | .error _ => none

/-- The accepted configuration. -/
def configOf (snapshot : Snapshot) : Config where
  global := (lastRecords snapshot.global)[Schema.globalKey]?.map fun fields =>
    (Decode.global fields).1
  families :=
    let accepted (family : Family) : Option FamilyConfig :=
      (lastRecords snapshot.families)[family.name]?.bind fun fields =>
        (Decode.family fields).toOption
    ⟨accepted .ipv4, accepted .ipv6⟩
  interfaces := (lastRecords snapshot.interfaces).filterMap fun _ fields =>
    (Decode.interface fields).toOption.join
  groups :=
    let accepted (family : Family) : NameMap EcmpGroup :=
      NameMap.ofPairs ((lastRecords snapshot.groups).toList.filterMap fun (key, fields) =>
        groupOf? family key fields)
    ⟨accepted .ipv4, accepted .ipv6⟩
  rdma := (lastRecords snapshot.rdma)[Schema.globalKey]?.bind fun fields =>
    (Decode.rdma fields).toOption

/-- The errors of all tables, in the order of the scopes. -/
def errorsOf (snapshot : Snapshot) : List ValidationError :=
  Scope.all.flatMap fun scope => tableErrors scope (snapshot.table scope)

/-- Splits a snapshot into what is accepted and what is wrong. -/
def of (snapshot : Snapshot) : Validation :=
  ⟨configOf snapshot, errorsOf snapshot⟩

/-- Whether the global record asks for the feature but has a fault, which keeps it disabled. -/
def globalRefused (snapshot : Snapshot) : Bool :=
  (lastRecords snapshot.global)[Schema.globalKey]?.any fun fields =>
    Decode.globalRequested fields && !(Decode.global fields).2.isEmpty

end Validation

end DualStack
