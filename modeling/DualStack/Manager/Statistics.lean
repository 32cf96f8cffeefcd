import DualStack.Manager.LogEvent
import DualStack.State.PipelineError
import DualStack.Store.Memory
import DualStack.Text.Decimal
import DualStack.Json.Writer

/-!
# Statistics

The counters of an interface for each family, read from the state database. A counter that is
absent is zero; so is one whose text is no number, and that is logged. No value wraps.
-/

set_option autoImplicit false

namespace DualStack

/-- The counters of one family. -/
structure FamilyCounters where
  packetsSprayed : UInt64
  activePaths : UInt64
  connections : UInt64
deriving DecidableEq, Repr, Inhabited

/-- The counters of an interface. -/
abbrev InterfaceCounters := PerFamily FamilyCounters

namespace Statistics

/-- The table of the counters of a family. -/
def table : Family → String
  | .ipv4 => Schema.countersV4
  | .ipv6 => Schema.countersV6

/-- The store key of the counters of an interface for a family. -/
def key (family : Family) (interface : String) : String :=
  s!"{table family}:{interface}"

/-- The value of a counter, and what is logged about it. -/
def counter (fields : Fields) (field : String) : UInt64 × List LogEvent :=
  match fields.value? field with
  | none => (0, [])
  | some text =>
    match Text.uint64? (Text.trim text) with
    | some n => (n, [])
    | none => (0, [.badCounter])

/-- The counters in a hash, and what is logged about them. -/
def countersOf (fields : Fields) : FamilyCounters × List LogEvent :=
  let (packetsSprayed, log1) := counter fields "packets_sprayed"
  let (activePaths, log2) := counter fields "active_paths"
  let (connections, log3) := counter fields "active_connections"
  (⟨packetsSprayed, activePaths, connections⟩, log1 ++ log2 ++ log3)

/-- The counters of an interface, and what is logged about them. -/
def read (s : Store) (interface : String) :
    Except PipelineError (InterfaceCounters × List LogEvent) :=
  match s.hgetall (key .ipv4 interface) with
  | .error failure => .error (.storeUnavailable failure)
  | .ok fields4 =>
    match s.hgetall (key .ipv6 interface) with
    | .error failure => .error (.storeUnavailable failure)
    | .ok fields6 =>
      let (ipv4, log4) := countersOf fields4
      let (ipv6, log6) := countersOf fields6
      .ok (⟨ipv4, ipv6⟩, log4 ++ log6)

/-- The JSON value of the counters of a family. -/
def jsonOfCounters (counters : FamilyCounters) : Json :=
  Json.ofMembers
    [("packets_sprayed", Json.ofNat counters.packetsSprayed.toNat),
     ("active_paths", Json.ofNat counters.activePaths.toNat),
     ("connections", Json.ofNat counters.connections.toNat)]

/-- The JSON value of the counters of an interface. -/
def toJson (counters : InterfaceCounters) : Json :=
  Json.ofMembers (counters.toList.map fun (family, counters) =>
    (family.name, jsonOfCounters counters))

end Statistics

end DualStack
