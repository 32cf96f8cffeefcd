import DualStack.Proofs.Session

/-!
# Aborted runs leave no trace

A run is aborted if it is cancelled or the configuration cannot be loaded. It then leaves the
databases, the count of runs and the last report as they were. So the count is that of the runs that
reached the delivery and the last report is that of the last of them, whatever else happened in
between: faults that come and go, writes from outside to any of the databases, cancellation, and
commands that only look.
-/

set_option autoImplicit false

namespace DualStack

/-- What can happen to a manager and its databases: an action, or a write from outside to the
application database. -/
inductive Event where
  | act (action : Action)
  | changeAppl (change : StoreChange)

namespace Session

/-- The session after an event. -/
def next (s : Session) : Event → Session
  | .act action => (s.step action).1
  | .changeAppl change => (s.changed .appl (change.attempt s.databases.appl)).1

/-- The session after events, one after another. -/
def through (s : Session) (events : List Event) : Session :=
  events.foldl next s

/-- The report of a run that reaches the delivery. -/
def report? (s : Session) : Event → Option RunReport
  | .act (.run cancelDuringLoad) | .act (.doTask cancelDuringLoad) =>
    (s.manager.delivery? s.databases cancelDuringLoad).map fun snapshot =>
      snapshot.report s.manager.channel s.databases.appl
  | _ => none

/-- The reports of the runs that reach the delivery, in order. -/
def reports (s : Session) : List Event → List RunReport
  | [] => []
  | event :: events => (s.report? event).toList ++ (s.next event).reports events

end Session

/-- Whether a run delivered nothing: it failed or reports that it was cancelled. -/
def Aborted (result : Except PipelineError RunReport) : Prop :=
  (∃ error, result = .error error) ∨ ∃ report, result = .ok report ∧ report.cancelled = true

namespace Session

/-- The databases and what the manager keeps of its runs are the same. -/
structure Unchanged (s s' : Session) : Prop where
  databases : s'.databases = s.databases
  runCount : s'.manager.runCount = s.manager.runCount
  lastReport : s'.manager.lastReport = s.manager.lastReport

/-- What holds of runs, and of all that only looks, at one moment of a session. -/
structure LeavesNoTrace (s : Session) : Prop where
  error : ∀ cancelDuringLoad,
    (∃ error, (s.manager.run s.databases cancelDuringLoad).result = .error error) ↔
      s.manager.cancelled = false ∧ ∃ failure, Snapshot.load s.databases.config = .error failure
  aborted : ∀ cancelDuringLoad, Aborted (s.manager.run s.databases cancelDuringLoad).result →
    ∀ action ∈ [.run cancelDuringLoad, .doTask cancelDuringLoad], s.Unchanged (s.step action).1
  cancelled : s.manager.cancelled = true → ∀ events,
    (s.through events).manager.runCount = s.manager.runCount ∧
    (s.through events).manager.lastReport = s.manager.lastReport ∧
    ∀ cancelDuringLoad, ∀ action ∈ [.run cancelDuringLoad, .doTask cancelDuringLoad],
      (s.through events).Unchanged ((s.through events).step action).1
  untouched : ∀ cancelDuringLoad interface, ∀ action ∈ [.run cancelDuringLoad,
      .doTask cancelDuringLoad, .check cancelDuringLoad, .detect interface cancelDuringLoad,
      .statistics interface],
    (s.step action).1.databases.config = s.databases.config ∧
      (s.step action).1.databases.state = s.databases.state

end Session

/-! ## One run -/

namespace Manager

variable {m : Manager} {dbs : Databases} {cancelDuringLoad : Bool}

/-- A run fails exactly if the manager is not cancelled and the configuration cannot be loaded. -/
theorem error_run_iff : (∃ error, (m.run dbs cancelDuringLoad).result = .error error) ↔
    m.cancelled = false ∧ ∃ failure, Snapshot.load dbs.config = .error failure := by
  rw [result_run]
  cases m.cancelled <;> cases Snapshot.load dbs.config <;> simp

/-- A run delivers nothing exactly if it does not reach the delivery: it fails or reports that it
was cancelled. -/
theorem aborted_run_iff : Aborted (m.run dbs cancelDuringLoad).result ↔
    m.delivery? dbs cancelDuringLoad = none := by
  constructor
  · intro haborted
    cases hdelivery : m.delivery? dbs cancelDuringLoad with
    | none => rfl
    | some snapshot =>
      have hresult := (run_of_some hdelivery).2.2
      rcases haborted with ⟨error, herror⟩ | ⟨report, hreport, hcancelled⟩
      · rw [hresult] at herror
        cases herror
      · rw [hresult] at hreport
        cases hreport
        cases hcancelled
  · intro hdelivery
    have hreported := (run_of_none hdelivery).2.2
    cases hresult : (m.run dbs cancelDuringLoad).result with
    | error error => exact Or.inl ⟨error, rfl⟩
    | ok report =>
      refine Or.inr ⟨report, rfl, ?_⟩
      rw [hreported report hresult]
      rfl

/-- Being cancelled while a table is listed does not count as a run. -/
theorem runCount_listing (m : Manager) (cancelDuringLoad : Bool) :
    (m.listing cancelDuringLoad).runCount = m.runCount := by
  cases cancelDuringLoad <;> rfl

/-- Being cancelled while a table is listed leaves the last report in place. -/
theorem lastReport_listing (m : Manager) (cancelDuringLoad : Bool) :
    (m.listing cancelDuringLoad).lastReport = m.lastReport := by
  cases cancelDuringLoad <;> rfl

end Manager

namespace Session

variable {s : Session}

/-- A run that does not reach the delivery changes nothing, whether it was asked for directly or as
a task. -/
theorem unchanged_run {cancelDuringLoad : Bool}
    (h : s.manager.delivery? s.databases cancelDuringLoad = none) {action : Action}
    (haction : action ∈ [.run cancelDuringLoad, .doTask cancelDuringLoad]) :
    s.Unchanged (s.step action).1 := by
  obtain ⟨hmanager, hdatabases, -⟩ := Manager.run_of_none h
  -- a task is a run whose result is only logged
  have hstep : (s.step action).1 = ⟨(s.manager.run s.databases cancelDuringLoad).manager,
      (s.manager.run s.databases cancelDuringLoad).databases⟩ := by
    simp only [List.mem_cons, List.not_mem_nil, or_false] at haction
    rcases haction with rfl | rfl <;> rfl
  rw [hstep, hmanager, hdatabases]
  exact ⟨rfl, s.manager.runCount_listing cancelDuringLoad,
    s.manager.lastReport_listing cancelDuringLoad⟩

/-- A change of a store has no effect on the manager. -/
theorem manager_changed (s : Session) (database : Database) (result : Except Failure Store) :
    (s.changed database result).1.manager = s.manager := by
  cases result <;> rfl

/-- A command has no effect on the manager. -/
theorem manager_execute (s : Session) (command : Command) :
    (s.step (.execute command)).1.manager = s.manager := by
  cases hresult : command.execute s.databases with
  | error error => simp only [step, hresult]
  | ok result => simp only [step, hresult]

/-- A manager that lists a table is the one it was or that one cancelled. -/
theorem listing_eq_or (m : Manager) (cancelDuringLoad : Bool) :
    m.listing cancelDuringLoad = m ∨ m.listing cancelDuringLoad = m.cancel := by
  cases cancelDuringLoad with
  | false => exact Or.inl rfl
  | true => exact Or.inr rfl

/-- An event is a run, or it delivers nothing and at most cancels the manager. -/
theorem next_cases (s : Session) (event : Event) :
    (∃ cancelDuringLoad, s.next event = s.next (.act (.run cancelDuringLoad)) ∧
      s.report? event = s.report? (.act (.run cancelDuringLoad))) ∨
    (s.report? event = none ∧
      ((s.next event).manager = s.manager ∨ (s.next event).manager = s.manager.cancel)) := by
  cases event with
  | changeAppl change => exact Or.inr ⟨rfl, Or.inl (s.manager_changed _ _)⟩
  | act action =>
    cases action with
    | changeConfig change => exact Or.inr ⟨rfl, Or.inl (s.manager_changed _ _)⟩
    | changeState change => exact Or.inr ⟨rfl, Or.inl (s.manager_changed _ _)⟩
    | setUnavailable database value => exact Or.inr ⟨rfl, Or.inl (s.manager_changed _ _)⟩
    | failOn database key => exact Or.inr ⟨rfl, Or.inl (s.manager_changed _ _)⟩
    | cancel => exact Or.inr ⟨rfl, Or.inr rfl⟩
    | run cancelDuringLoad => exact Or.inl ⟨cancelDuringLoad, rfl, rfl⟩
    -- a task is a run whose result is only logged
    | doTask cancelDuringLoad => exact Or.inl ⟨cancelDuringLoad, rfl, rfl⟩
    | check cancelDuringLoad => exact Or.inr ⟨rfl, listing_eq_or s.manager cancelDuringLoad⟩
    | execute command => exact Or.inr ⟨rfl, Or.inl (s.manager_execute command)⟩
    | detect interface cancelDuringLoad =>
      exact Or.inr ⟨rfl, listing_eq_or s.manager cancelDuringLoad⟩
    | statistics interface => exact Or.inr ⟨rfl, Or.inl rfl⟩

/-! ## Counting runs -/

/-- From one session to a later one exactly the given reports were added. -/
structure Counted (s s' : Session) (reports : List RunReport) : Prop where
  runCount : s'.manager.runCount = s.manager.runCount + reports.length
  lastReport : s'.manager.lastReport = reports.getLast?.or s.manager.lastReport

/-- Reports that were added one after another add up. -/
theorem Counted.trans {s s' s'' : Session} {reports reports' : List RunReport}
    (h : Counted s s' reports) (h' : Counted s' s'' reports') :
    Counted s s'' (reports ++ reports') where
  runCount := by
    rw [h'.runCount, h.runCount, List.length_append, Nat.add_assoc]
  lastReport := by
    rw [h'.lastReport, h.lastReport, List.getLast?_append, Option.or_assoc]

/-- A run adds its report exactly if it reaches the delivery. -/
theorem counted_run (s : Session) (cancelDuringLoad : Bool) :
    Counted s (s.next (.act (.run cancelDuringLoad)))
      (s.report? (.act (.run cancelDuringLoad))).toList := by
  have hmanager : (s.next (.act (.run cancelDuringLoad))).manager =
      (s.manager.run s.databases cancelDuringLoad).manager := rfl
  have hreport : s.report? (.act (.run cancelDuringLoad)) =
      (s.manager.delivery? s.databases cancelDuringLoad).map fun snapshot =>
        snapshot.report s.manager.channel s.databases.appl := rfl
  rw [hreport]
  cases hdelivery : s.manager.delivery? s.databases cancelDuringLoad with
  | none =>
    obtain ⟨-, hcount, hlast⟩ := unchanged_run hdelivery List.mem_cons_self
    exact ⟨hcount, hlast⟩
  | some snapshot =>
    rw [(Manager.run_of_some hdelivery).1] at hmanager
    constructor
    · rw [hmanager]
      rfl
    · rw [hmanager]
      rfl

/-- An event adds the report of its delivery, if it has one. -/
theorem counted_next (s : Session) (event : Event) :
    Counted s (s.next event) (s.report? event).toList := by
  rcases s.next_cases event with ⟨cancelDuringLoad, hnext, hreport⟩ | ⟨hreport, hmanager⟩
  · rw [hnext, hreport]
    exact s.counted_run cancelDuringLoad
  · rw [hreport]
    rcases hmanager with hmanager | hmanager <;>
      exact ⟨by rw [hmanager]; rfl, by rw [hmanager]; rfl⟩

/-- Any events add exactly the reports of the runs that reach the delivery, by induction on the
events. -/
theorem counted_through (s : Session) (events : List Event) :
    Counted s (s.through events) (s.reports events) := by
  induction events generalizing s with
  | nil => exact ⟨rfl, rfl⟩
  | cons event events ih => exact (s.counted_next event).trans (ih (s.next event))

/-! ## After a cancellation -/

/-- A cancelled manager stays cancelled through any event and delivers nothing during it. -/
theorem cancelled_next (hs : s.manager.cancelled = true) (event : Event) :
    s.report? event = none ∧ (s.next event).manager.cancelled = true := by
  have hdelivery : ∀ cancelDuringLoad,
      s.manager.delivery? s.databases cancelDuringLoad = none := by
    intro cancelDuringLoad
    unfold Manager.delivery?
    rw [hs]
    rfl
  rcases s.next_cases event with ⟨cancelDuringLoad, hnext, hreport⟩ | ⟨hreport, hmanager⟩
  · constructor
    · rw [hreport]
      exact congrArg (Option.map _) (hdelivery cancelDuringLoad)
    · rw [hnext]
      have hcancelled := s.manager.cancelled_run s.databases cancelDuringLoad
      rw [hs, Bool.true_or] at hcancelled
      exact hcancelled
  · refine ⟨hreport, ?_⟩
    rcases hmanager with hmanager | hmanager
    · rw [hmanager]
      exact hs
    · rw [hmanager]
      rfl

/-- A cancelled manager delivers nothing any more, whatever events follow. -/
theorem cancelled_through (hs : s.manager.cancelled = true) (events : List Event) :
    s.reports events = [] ∧ (s.through events).manager.cancelled = true := by
  induction events generalizing s with
  | nil => exact ⟨rfl, hs⟩
  | cons event events ih =>
    obtain ⟨hreport, hnext⟩ := cancelled_next hs event
    obtain ⟨hreports, hthrough⟩ := ih hnext
    refine ⟨?_, hthrough⟩
    unfold reports
    rw [hreport, hreports]
    rfl

/-! ## Any moment of a session -/

/-- At every moment of a session, a run that is aborted and everything that only looks leave no
trace. -/
theorem leavesNoTrace (s : Session) : s.LeavesNoTrace where
  error _ := Manager.error_run_iff
  aborted _ haborted _ haction := unchanged_run (Manager.aborted_run_iff.1 haborted) haction
  cancelled hs events := by
    obtain ⟨hreports, hcancelled⟩ := cancelled_through hs events
    have hcounted := s.counted_through events
    rw [hreports] at hcounted
    refine ⟨hcounted.runCount, hcounted.lastReport, fun cancelDuringLoad action haction => ?_⟩
    refine unchanged_run ?_ haction
    unfold Manager.delivery?
    rw [hcancelled]
    rfl
  untouched cancelDuringLoad interface action haction := by
    obtain ⟨appl, hrun, -⟩ := s.manager.exists_databases_run s.databases cancelDuringLoad
    have hkept : (s.manager.run s.databases cancelDuringLoad).databases.config =
          s.databases.config ∧
        (s.manager.run s.databases cancelDuringLoad).databases.state = s.databases.state := by
      rw [hrun]
      exact ⟨rfl, rfl⟩
    simp only [List.mem_cons, List.not_mem_nil, or_false] at haction
    rcases haction with rfl | rfl | rfl | rfl | rfl
    · exact hkept
    · exact hkept
    · exact ⟨rfl, rfl⟩
    · exact ⟨rfl, rfl⟩
    · exact ⟨rfl, rfl⟩

/-- At every moment of a session the count of runs is that of the runs that reached the delivery,
and the last report is that of the last of them; these are the runs that report no cancellation.
A run fails exactly if the configuration cannot be loaded by a manager that is not cancelled. A run
that is aborted leaves everything as it was, after a cancellation every run does, and neither a run
nor anything that only looks touches the configuration or the counters. -/
theorem aborted_runs_leave_no_trace (channel : String) (dbs : Databases) (events : List Event) :
    let start : Session := ⟨Manager.new channel, dbs⟩
    let s := start.through events
    let reports := start.reports events
    s.manager.runCount = reports.length ∧
    s.manager.lastReport = reports.getLast? ∧
    (s.manager.lastReport = none ↔ s.manager.runCount = 0) ∧
    (∀ cancelDuringLoad report, s.report? (.act (.run cancelDuringLoad)) = some report ↔
      (s.manager.run s.databases cancelDuringLoad).result = .ok report ∧
        report.cancelled = false) ∧
    s.LeavesNoTrace := by
  intro start s reports
  have hcounted := start.counted_through events
  have hcount : s.manager.runCount = reports.length := hcounted.runCount.trans (Nat.zero_add _)
  have hlast : s.manager.lastReport = reports.getLast? := hcounted.lastReport.trans Option.or_none
  refine ⟨hcount, hlast, ?_, fun _ _ => Manager.map_report_delivery?_eq_some_iff, leavesNoTrace s⟩
  rw [hcount, hlast, List.getLast?_eq_none_iff, List.length_eq_zero_iff]

/-- A run that fails, two that deliver and one that comes after the cancellation. -/
example : ((start "channel").through [.act (.failOn .state "UE_INTERFACE_STATS_V4:Ethernet0"),
    .act (.setUnavailable .config true), .act (.run false), .act (.setUnavailable .config false),
    .act (.run false), .changeAppl (.del "UE_GLOBAL_STATE"), .act (.doTask false), .act .cancel,
    .act (.doTask false)]).manager.runCount = 2 := by
  decide +kernel

end Session

end DualStack
