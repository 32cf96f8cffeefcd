import DualStack.Schema
import DualStack.Store.Table

/-!
# Snapshots

A snapshot is the five configuration tables as one load read them. A load reads all of them or
none: if several reads fail, the failure of the first table in load order is reported.
-/

set_option autoImplicit false

namespace DualStack

/-- The raw records of the five configuration tables. -/
structure Snapshot where
  global : Table
  families : Table
  interfaces : Table
  groups : Table
  rdma : Table
deriving DecidableEq, Repr

namespace Snapshot

/-- The snapshot without a record. -/
def empty : Snapshot := ⟨[], [], [], [], []⟩

/-- The table of a scope. -/
def table (snapshot : Snapshot) : Scope → Table
  | .global => snapshot.global
  | .addressFamily => snapshot.families
  | .interface => snapshot.interfaces
  | .ecmp => snapshot.groups
  | .rdma => snapshot.rdma

/-- The number of raw records. -/
def size (snapshot : Snapshot) : Nat :=
  snapshot.global.length + snapshot.families.length + snapshot.interfaces.length +
    snapshot.groups.length + snapshot.rdma.length

/-- Whether there is no record. -/
def isEmpty (snapshot : Snapshot) : Bool :=
  snapshot.size == 0

/-- Reads the five tables of a store. The reads may be under way together, and then the failure of
whichever fails first is the one to report; a store in memory answers each of them without waiting,
so they come to an end in the order of the tables, and that is the order here. -/
def load (s : Store) : Except Failure Snapshot := do
  let global ← s.table Scope.global.table
  let families ← s.table Scope.addressFamily.table
  let interfaces ← s.table Scope.interface.table
  let groups ← s.table Scope.ecmp.table
  let rdma ← s.table Scope.rdma.table
  pure ⟨global, families, interfaces, groups, rdma⟩

end Snapshot

end DualStack
