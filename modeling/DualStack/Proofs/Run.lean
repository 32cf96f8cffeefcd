import DualStack.Manager.Run
import DualStack.Proofs.Delivery

/-!
# What a run leaves behind

A run reaches the delivery exactly if cancellation is requested neither before it nor while it
reads and the configuration can be loaded. It then delivers the state of the snapshot to the
application database; in every other case no database changes. The channel of the manager is
the same after every run.
-/

set_option autoImplicit false

namespace DualStack

/-- The state derived from a snapshot. -/
def Snapshot.derivedState (snapshot : Snapshot) : DerivedState :=
  (Resolution.of (Validation.of snapshot).config).state

/-- The report of the delivery of a snapshot. -/
def Snapshot.report (snapshot : Snapshot) (channel : String) (appl : Store) : RunReport where
  validationErrors := (Validation.of snapshot).errors
  resolveErrors := (Resolution.of (Validation.of snapshot).config).errors
  apply := (snapshot.derivedState.apply channel appl).2
  cancelled := false

namespace Manager

/-- The snapshot that a run delivers, if it reaches the delivery. -/
def delivery? (m : Manager) (dbs : Databases) (cancelDuringLoad : Bool) : Option Snapshot :=
  if m.cancelled || cancelDuringLoad then none else (Snapshot.load dbs.config).toOption

/-- Listing a table leaves the channel of the manager. -/
theorem channel_listing (m : Manager) (cancelDuringLoad : Bool) :
    (m.listing cancelDuringLoad).channel = m.channel := by
  cases cancelDuringLoad <;> rfl

/-- A manager is cancelled after listing a table if it was before or cancellation was requested
meanwhile. -/
theorem cancelled_listing (m : Manager) (cancelDuringLoad : Bool) :
    (m.listing cancelDuringLoad).cancelled = (m.cancelled || cancelDuringLoad) := by
  cases cancelDuringLoad <;> simp [listing, cancel]

/-- A run whose tables can be loaded: it is cancelled before the load, before the delivery, or it
delivers. -/
theorem run_of_load (m : Manager) {dbs : Databases} {snapshot : Snapshot}
    (h : Snapshot.load dbs.config = .ok snapshot) (cancelDuringLoad : Bool) :
    m.run dbs cancelDuringLoad =
      let resolution := Resolution.of (Validation.of snapshot).config
      let log := validationLog snapshot ++ resolutionLog resolution
      let applied := snapshot.derivedState.apply m.channel dbs.appl
      let report : RunReport :=
        ⟨(Validation.of snapshot).errors, resolution.errors, applied.2, false⟩
      if m.cancelled then ⟨m, dbs, .ok RunReport.ofCancelled, []⟩
      else if cancelDuringLoad then ⟨m.cancel, dbs, .ok RunReport.ofCancelled, log⟩
      else ⟨{ m with runCount := m.runCount + 1, lastReport := some report },
        { dbs with appl := applied.1 }, .ok report, log ++ report.apply.log⟩ := by
  unfold run
  cases hm : m.cancelled with
  | true => rfl
  | false =>
    rw [h]
    cases cancelDuringLoad with
    | true => rfl
    | false => simp [hm, listing, complete, Snapshot.derivedState]

/-- What a run returns: an error only if the configuration cannot be loaded. -/
theorem result_run (m : Manager) (dbs : Databases) (cancelDuringLoad : Bool) :
    (m.run dbs cancelDuringLoad).result =
      if m.cancelled then .ok RunReport.ofCancelled
      else match Snapshot.load dbs.config with
        | .error failure => .error (.storeUnavailable failure)
        | .ok snapshot =>
          .ok (if cancelDuringLoad then RunReport.ofCancelled
            else snapshot.report m.channel dbs.appl) := by
  cases hload : Snapshot.load dbs.config with
  | error failure =>
    unfold run
    rw [hload]
    cases m.cancelled <;> rfl
  | ok snapshot =>
    rw [m.run_of_load hload]
    cases m.cancelled <;> cases cancelDuringLoad <;> rfl

/-- A run delivers a snapshot exactly if the manager is not cancelled before or during the load, and
the load gives this snapshot. -/
theorem delivery?_eq_some_iff {m : Manager} {dbs : Databases} {cancelDuringLoad : Bool}
    {snapshot : Snapshot} : m.delivery? dbs cancelDuringLoad = some snapshot ↔
      m.cancelled = false ∧ cancelDuringLoad = false ∧ Snapshot.load dbs.config = .ok snapshot := by
  unfold delivery?
  cases m.cancelled <;> cases cancelDuringLoad <;> cases Snapshot.load dbs.config <;>
    simp [Except.toOption]

/-- A run that delivers nothing changes nothing, apart from a cancellation that came meanwhile, and
reports nothing but a cancellation. -/
theorem run_of_none {m : Manager} {dbs : Databases} {cancelDuringLoad : Bool}
    (h : m.delivery? dbs cancelDuringLoad = none) :
    (m.run dbs cancelDuringLoad).manager = m.listing cancelDuringLoad ∧
      (m.run dbs cancelDuringLoad).databases = dbs ∧
      ∀ report, (m.run dbs cancelDuringLoad).result = .ok report →
        report = RunReport.ofCancelled := by
  -- nothing is delivered if the manager is cancelled before, cannot load, or is cancelled meanwhile
  cases hm : m.cancelled with
  | true =>
    have hrun : m.run dbs cancelDuringLoad = ⟨m, dbs, .ok RunReport.ofCancelled, []⟩ := by
      unfold run
      rw [hm]
      rfl
    have hlisting : m.listing cancelDuringLoad = m := by
      cases m
      cases hm
      cases cancelDuringLoad <;> rfl
    rw [hrun, hlisting]
    exact ⟨rfl, rfl, fun _ hresult => (Except.ok.inj hresult).symm⟩
  | false =>
    cases hload : Snapshot.load dbs.config with
    | error failure =>
      unfold run
      rw [hload, hm]
      exact ⟨rfl, rfl, fun _ hresult => nomatch hresult⟩
    | ok snapshot =>
      cases cancelDuringLoad with
      | true =>
        rw [m.run_of_load hload, hm]
        exact ⟨rfl, rfl, fun _ hresult => (Except.ok.inj hresult).symm⟩
      | false =>
        rw [delivery?_eq_some_iff.2 ⟨hm, rfl, hload⟩] at h
        cases h

/-- A run that delivers a snapshot counts itself, keeps its report and returns it. -/
theorem run_of_some {m : Manager} {dbs : Databases} {cancelDuringLoad : Bool}
    {snapshot : Snapshot} (h : m.delivery? dbs cancelDuringLoad = some snapshot) :
    (m.run dbs cancelDuringLoad).manager =
        { m with
          runCount := m.runCount + 1
          lastReport := some (snapshot.report m.channel dbs.appl) } ∧
      (m.run dbs cancelDuringLoad).databases =
        { dbs with appl := (snapshot.derivedState.apply m.channel dbs.appl).1 } ∧
      (m.run dbs cancelDuringLoad).result = .ok (snapshot.report m.channel dbs.appl) := by
  obtain ⟨hm, rfl, hload⟩ := delivery?_eq_some_iff.1 h
  rw [m.run_of_load hload, hm]
  exact ⟨rfl, rfl, rfl⟩

/-- A run that delivers nothing leaves the databases as they are. -/
theorem databases_run_of_none {m : Manager} {dbs : Databases} {cancelDuringLoad : Bool}
    (h : m.delivery? dbs cancelDuringLoad = none) :
    (m.run dbs cancelDuringLoad).databases = dbs :=
  (run_of_none h).2.1

/-- A run that delivers a snapshot applies its state to the application database and changes nothing
else. -/
theorem databases_run_of_some {m : Manager} {dbs : Databases} {cancelDuringLoad : Bool}
    {snapshot : Snapshot} (h : m.delivery? dbs cancelDuringLoad = some snapshot) :
    (m.run dbs cancelDuringLoad).databases =
      { dbs with appl := (snapshot.derivedState.apply m.channel dbs.appl).1 } :=
  (run_of_some h).2.1

/-- A run changes no database but the application database, and of that not the faults. -/
theorem exists_databases_run (m : Manager) (dbs : Databases) (cancelDuringLoad : Bool) :
    ∃ appl, (m.run dbs cancelDuringLoad).databases = { dbs with appl := appl } ∧
      Store.SameFaults dbs.appl appl := by
  cases hdelivery : m.delivery? dbs cancelDuringLoad with
  | none => exact ⟨dbs.appl, databases_run_of_none hdelivery, Store.SameFaults.refl _⟩
  | some snapshot =>
    refine ⟨_, databases_run_of_some hdelivery, ?_⟩
    rw [DerivedState.apply_eq]
    exact DerivedState.sameFaults_delivered _ _ _ _

/-- What a run that can load makes of the application database: nothing if it is cancelled, and the
delivery of the state otherwise. -/
theorem appl_run_of_load (m : Manager) {dbs : Databases} {snapshot : Snapshot}
    (h : Snapshot.load dbs.config = .ok snapshot) (cancelDuringLoad : Bool) :
    (m.run dbs cancelDuringLoad).databases.appl =
      if m.cancelled || cancelDuringLoad then dbs.appl
      else (snapshot.derivedState.apply m.channel dbs.appl).1 := by
  rw [m.run_of_load h]
  cases m.cancelled <;> cases cancelDuringLoad <;> rfl

/-- A run that can load returns a report, with the validation errors unless it is cancelled. -/
theorem result_run_of_load (m : Manager) {dbs : Databases} {snapshot : Snapshot}
    (h : Snapshot.load dbs.config = .ok snapshot) (cancelDuringLoad : Bool) :
    ∃ report, (m.run dbs cancelDuringLoad).result = .ok report ∧
      report.validationErrors =
        if m.cancelled || cancelDuringLoad then [] else Validation.errorsOf snapshot := by
  rw [m.run_of_load h]
  cases m.cancelled <;> cases cancelDuringLoad <;> exact ⟨_, rfl, rfl⟩

/-- The runs that reach the delivery are those that report and do not report a cancellation. -/
theorem map_report_delivery?_eq_some_iff {m : Manager} {dbs : Databases} {cancelDuringLoad : Bool}
    {report : RunReport} :
    (m.delivery? dbs cancelDuringLoad).map (fun snapshot => snapshot.report m.channel dbs.appl) =
        some report ↔
      (m.run dbs cancelDuringLoad).result = .ok report ∧ report.cancelled = false := by
  cases hdelivery : m.delivery? dbs cancelDuringLoad with
  | none =>
    constructor
    · intro h
      cases h
    · rintro ⟨hresult, hreported⟩
      rw [(run_of_none hdelivery).2.2 report hresult] at hreported
      cases hreported
  | some snapshot =>
    rw [(run_of_some hdelivery).2.2]
    constructor
    · intro h
      cases h
      exact ⟨rfl, rfl⟩
    · rintro ⟨hresult, -⟩
      exact congrArg some (Except.ok.inj hresult)

/-- A run leaves the channel of the manager. -/
theorem channel_run (m : Manager) (dbs : Databases) (cancelDuringLoad : Bool) :
    (m.run dbs cancelDuringLoad).manager.channel = m.channel := by
  cases hdelivery : m.delivery? dbs cancelDuringLoad with
  | none =>
    rw [(run_of_none hdelivery).1]
    exact m.channel_listing cancelDuringLoad
  | some snapshot => rw [(run_of_some hdelivery).1]

/-- A manager is cancelled after a run if it was before or cancellation came meanwhile. -/
theorem cancelled_run (m : Manager) (dbs : Databases) (cancelDuringLoad : Bool) :
    (m.run dbs cancelDuringLoad).manager.cancelled = (m.cancelled || cancelDuringLoad) := by
  cases hdelivery : m.delivery? dbs cancelDuringLoad with
  | none =>
    rw [(run_of_none hdelivery).1]
    exact m.cancelled_listing cancelDuringLoad
  | some snapshot =>
    obtain ⟨-, rfl, -⟩ := delivery?_eq_some_iff.1 hdelivery
    rw [(run_of_some hdelivery).1]
    exact (Bool.or_false _).symm

end Manager

end DualStack
