import DualStack.Manager.LogEvent
import DualStack.State.Record

/-!
# Delivery of a derived state

Every record replaces the hash under its key, independently of the others: a record that cannot
be written is reported and the next one is tried, and nothing is rolled back. A written interface
record is followed by its notification on the channel; whether that succeeds has no effect on
the records. The report keeps what became of each record, in order, and everything else is read
off it.
-/

set_option autoImplicit false

namespace DualStack

/-- What became of the notification behind a written record. -/
inductive Notice where
  /-- The record has no notification. -/
  | notDue
  | published
  | failed
deriving DecidableEq, Repr

/-- What became of a record. -/
inductive Delivery where
  | written (key : String) (notice : Notice)
  | failed (key : String) (failure : Failure)
deriving DecidableEq, Repr

/-- A record that could not be written. -/
structure ApplyError where
  key : String
  error : PipelineError
deriving DecidableEq, Repr

/-- The outcome of delivering a state: what became of each record. -/
structure ApplyReport where
  deliveries : List Delivery
deriving DecidableEq, Repr

namespace ApplyReport

/-- The report of no record. -/
def empty : ApplyReport := ⟨[]⟩

/-- The number of records written. -/
def applied (report : ApplyReport) : Nat :=
  report.deliveries.countP fun
    | .written .. => true
    | .failed .. => false

/-- The records that could not be written, in order. -/
def errors (report : ApplyReport) : List ApplyError :=
  report.deliveries.filterMap fun
    | .written .. => none
    | .failed key failure => some ⟨key, .storeUnavailable failure⟩

/-- The number of notifications published. -/
def published (report : ApplyReport) : Nat :=
  report.deliveries.countP fun
    | .written _ .published => true
    | _ => false

/-- The number of notifications that could not be published. -/
def publishFailures (report : ApplyReport) : Nat :=
  report.deliveries.countP fun
    | .written _ .failed => true
    | _ => false

/-- Whether everything was written and published. -/
def isClean (report : ApplyReport) : Bool :=
  report.errors.isEmpty && report.publishFailures == 0

/-- What is logged during the delivery. -/
def log (report : ApplyReport) : List LogEvent :=
  report.deliveries.filterMap fun
    | .written _ .failed => some .publishFailed
    | .written .. => none
    | .failed .. => some .writeFailed

end ApplyReport

namespace DerivedState

/-- Publishes the notification that is due behind a written record. -/
def notify (state : DerivedState) (channel : String) (record : AppRecord) (s : Store) :
    Store × Notice :=
  if record.scope = .interface then
    match state.notifications[record.name]? with
    | none => (s, .notDue)
    | some notification =>
      match s.publish channel notification.render with
      | .ok s => (s, .published)
      | .error _ => (s, .failed)
  else (s, .notDue)

/-- Writes one record and publishes the notification behind it. -/
def deliver (state : DerivedState) (channel : String) (record : AppRecord) (s : Store) :
    Store × Delivery :=
  match s.replace record.key record.fields with
  | .error failure => (s, .failed record.key failure)
  | .ok s =>
    let (s, notice) := state.notify channel record s
    (s, .written record.key notice)

/-- Delivers records one after another. -/
def deliverAll (state : DerivedState) (channel : String) :
    List AppRecord → Store → Store × List Delivery
  | [], s => (s, [])
  | record :: records, s =>
    let (s, delivery) := state.deliver channel record s
    let (s, deliveries) := state.deliverAll channel records s
    (s, delivery :: deliveries)

/-- Delivers every record of a state. -/
def apply (state : DerivedState) (channel : String) (s : Store) : Store × ApplyReport :=
  let (s, deliveries) := state.deliverAll channel state.records s
  (s, ⟨deliveries⟩)

end DerivedState

end DualStack
