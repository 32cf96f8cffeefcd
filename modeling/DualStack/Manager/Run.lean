import DualStack.Manager.Delivery

/-!
# The manager and its runs

A run loads the five tables, validates and resolves them, and delivers the derived state. It
fails only if the tables cannot be loaded. Cancellation is looked at twice, before the load and
before the delivery; a run that is cancelled leaves everything as it was, and a delivery that has
begun is completed. The manager counts the runs that reached the delivery and keeps the last of
their reports.
-/

set_option autoImplicit false

namespace DualStack

/-- The three databases that the manager works on. -/
structure Databases where
  config : Store
  appl : Store
  state : Store
deriving DecidableEq

namespace Databases

/-- Three databases that hold nothing and have no faults. -/
def empty : Databases where
  config := Store.empty .config
  appl := Store.empty .appl
  state := Store.empty .state

/-- The store of a database. -/
def get (dbs : Databases) : Database → Store
  | .config => dbs.config
  | .appl => dbs.appl
  | .state => dbs.state

/-- The databases with one of the stores replaced. -/
def set (dbs : Databases) (database : Database) (s : Store) : Databases :=
  match database with
  | .config => { dbs with config := s }
  | .appl => { dbs with appl := s }
  | .state => { dbs with state := s }

end Databases

/-- Everything that one run reports. -/
structure RunReport where
  /-- The records that validation left out. -/
  validationErrors : List ValidationError
  /-- The entities that resolution dropped. -/
  resolveErrors : List PipelineError
  /-- What became of the records; empty if the run was cancelled. -/
  apply : ApplyReport
  /-- The run stopped before anything was written. -/
  cancelled : Bool
deriving DecidableEq, Repr

namespace RunReport

/-- The report of a run that was cancelled. -/
def ofCancelled : RunReport := ⟨[], [], ApplyReport.empty, true⟩

/-- Every error of the run. -/
def errors (report : RunReport) : List PipelineError :=
  report.validationErrors.map .validation ++ report.resolveErrors ++
    report.apply.errors.map ApplyError.error

/-- Whether the run reports no error and no failed notification. -/
def isClean (report : RunReport) : Bool :=
  report.validationErrors.isEmpty && report.resolveErrors.isEmpty && report.apply.isClean

end RunReport

/-- The manager: its channel, whether it is cancelled, and what its runs left behind. -/
structure Manager where
  channel : String
  cancelled : Bool
  /-- The number of runs that reached the delivery. It is not bounded: a counter of 64 bits would
  differ from it only after `2 ^ 64` runs, which are out of reach. -/
  runCount : Nat
  /-- The report of the last of these runs. -/
  lastReport : Option RunReport
deriving DecidableEq, Repr

/-- What a run returns and logs, and the manager and databases after it. -/
structure RunResult where
  manager : Manager
  databases : Databases
  result : Except PipelineError RunReport
  log : List LogEvent

namespace Manager

/-- A manager that publishes on `channel` and has not run. -/
def new (channel : String) : Manager := ⟨channel, false, 0, none⟩

/-- The name of the daemon. -/
def daemonName : String := "uemgrd"

/-- Requests cancellation. -/
def cancel (m : Manager) : Manager :=
  { m with cancelled := true }

/-- The manager once a table of the configuration is being listed. `cancelDuringLoad` says whether
cancellation is requested at that moment. -/
def listing (m : Manager) (cancelDuringLoad : Bool) : Manager :=
  if cancelDuringLoad then m.cancel else m

/-- What is logged while a snapshot is validated. -/
def validationLog (snapshot : Snapshot) : List LogEvent :=
  (if Validation.globalRefused snapshot then [.globalRefused] else []) ++
    (Validation.errorsOf snapshot).map fun error => .invalidRecord error.message

/-- What is logged while a configuration is resolved. -/
def resolutionLog (resolution : Resolution) : List LogEvent :=
  resolution.errors.map fun error => .groupDropped error.message

/-- Delivers the resolution of a validated snapshot and records the run. -/
def complete (m : Manager) (dbs : Databases) (validation : Validation) (resolution : Resolution) :
    Manager × Databases × RunReport :=
  let (appl, apply) := resolution.state.apply m.channel dbs.appl
  let report : RunReport := ⟨validation.errors, resolution.errors, apply, false⟩
  ({ m with runCount := m.runCount + 1, lastReport := some report },
    { dbs with appl := appl }, report)

/-- One run. `cancelDuringLoad` says whether cancellation is requested while the tables are
read. -/
def run (m : Manager) (dbs : Databases) (cancelDuringLoad : Bool) : RunResult :=
  if m.cancelled then ⟨m, dbs, .ok RunReport.ofCancelled, []⟩
  else
    let m := m.listing cancelDuringLoad
    match Snapshot.load dbs.config with
    | .error failure => ⟨m, dbs, .error (.storeUnavailable failure), [.loadFailed]⟩
    | .ok snapshot =>
      let validation := Validation.of snapshot
      let resolution := Resolution.of validation.config
      let log := validationLog snapshot ++ resolutionLog resolution
      if m.cancelled then ⟨m, dbs, .ok RunReport.ofCancelled, log⟩
      else
        let (m, dbs, report) := m.complete dbs validation resolution
        ⟨m, dbs, .ok report, log ++ report.apply.log⟩

/-- The validation errors of the current configuration, without writing anything. -/
def check (dbs : Databases) : Except PipelineError (List ValidationError) :=
  match Snapshot.load dbs.config with
  | .ok snapshot => .ok (Validation.of snapshot).errors
  | .error failure => .error (.storeUnavailable failure)

end Manager

/-- How a run requested by an event ended, as it is logged. -/
inductive TaskOutcome where
  | cancelled
  | applied (records : Nat)
  | appliedWithErrors (records invalid dropped failed publishFailures : Nat)
  | aborted (error : PipelineError)
deriving DecidableEq, Repr

/-- The outcome of the result of a run. -/
def TaskOutcome.of : Except PipelineError RunReport → TaskOutcome
  | .error error => aborted error
  | .ok report =>
    if report.cancelled then cancelled
    else if report.isClean then applied report.apply.applied
    else
      appliedWithErrors report.apply.applied report.validationErrors.length
        report.resolveErrors.length report.apply.errors.length report.apply.publishFailures

namespace Manager

/-- Runs once for an event, however the run ends. -/
def doTask (m : Manager) (dbs : Databases) (cancelDuringLoad : Bool) :
    Manager × Databases × TaskOutcome :=
  let result := m.run dbs cancelDuringLoad
  (result.manager, result.databases, TaskOutcome.of result.result)

end Manager

end DualStack
