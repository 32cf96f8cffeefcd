import DualStack.Proofs.Coherence
import DualStack.Proofs.Session

/-!
# The dry run predicts the run

A check and the validate command load and validate as a run does, and stop there. All three fail
with the same error if the configuration cannot be loaded, and otherwise find the same errors in the
same order. Where they find none, the resolution drops nothing either, so what is left to go wrong
in the run is the application database: the report is clean exactly if it takes every record and
every message.
-/

set_option autoImplicit false

namespace DualStack

namespace DerivedState

/-- A store rejects no record of a state and no message behind the records. -/
def TakenBy (state : DerivedState) (channel : String) (s : Store) : Prop :=
  (∀ r ∈ state.records, s.fails r.key = false) ∧
    (state.dueNotifications s ≠ [] → s.fails channel = false)

/-- The report of a delivery is clean exactly if the store takes every record and every message. -/
theorem isClean_apply_iff (state : DerivedState) (channel : String) (s : Store) :
    (state.apply channel s).2.isClean = true ↔ state.TakenBy channel s := by
  have herrors : (state.apply channel s).2.errors = [] ↔
      ∀ r ∈ state.records, s.fails r.key = false := by
    rw [apply_eq, errors_outcome, List.map_eq_nil_iff, List.filter_eq_nil_iff]
    simp only [Bool.not_eq_true]
  have hpublish : (state.apply channel s).2.publishFailures = 0 ↔
      (state.dueNotifications s ≠ [] → s.fails channel = false) := by
    rw [apply_eq, publishFailures_outcome, filterMap_notificationOf?]
    cases s.fails channel with
    | false => simp
    | true => simp [List.length_eq_zero_iff]
  unfold ApplyReport.isClean TakenBy
  rw [Bool.and_eq_true, List.isEmpty_iff, beq_iff_eq, herrors, hpublish]

end DerivedState

/-- The validating command prints the errors of a check, one on each line, and fails exactly if
there are some. -/
theorem Command.execute_validate (dbs : Databases) : Command.validate.execute dbs =
    (Manager.check dbs).map fun errors =>
      (if errors = [] then ⟨"Configuration is valid", true⟩
        else ⟨"\n".intercalate (errors.map ValidationError.text), false⟩, dbs) := by
  show (Manager.check dbs >>= _) = _
  cases Manager.check dbs with
  | error error => rfl
  | ok errors => cases errors <;> rfl

/-- The validating command leaves a session as it was. -/
theorem Session.step_validate (s : Session) : (s.step (.execute .validate)).1 = s := by
  cases hresult : Command.validate.execute s.databases with
  | error error => simp only [step, hresult]
  | ok result =>
    have hkept : result.2 = s.databases := by
      rw [Command.execute_validate] at hresult
      cases hcheck : Manager.check s.databases with
      | error error =>
        rw [hcheck] at hresult
        cases hresult
      | ok errors =>
        rw [hcheck] at hresult
        cases hresult
        rfl
    simp only [step, hresult, hkept]

namespace Manager

/-- A check, the validate command and a run of a manager that is not cancelled fail together, with
the failure of the load. Otherwise the check finds the errors that the run reports, and the command
says that there are none or lists them line by line. Neither changes anything. If there are none,
the resolution drops nothing, and the run is clean exactly if the application database takes what it
is given. -/
theorem dry_run_predicts_run {m : Manager} (hm : m.cancelled = false) (dbs : Databases) :
    let run := m.run dbs false
    let validate := Command.validate.execute dbs
    (∀ failure, Snapshot.load dbs.config = .error failure →
      run.result = .error (.storeUnavailable failure) ∧
      check dbs = .error (.storeUnavailable failure) ∧
      validate = .error (.storeUnavailable failure)) ∧
    (∀ snapshot, Snapshot.load dbs.config = .ok snapshot → ∃ report,
      run.result = .ok report ∧
      check dbs = .ok report.validationErrors ∧
      validate = .ok (if report.validationErrors = [] then ⟨"Configuration is valid", true⟩
        else ⟨"\n".intercalate (report.validationErrors.map ValidationError.text), false⟩, dbs) ∧
      (report.validationErrors = [] → report.resolveErrors = [] ∧
        (report.isClean = true ↔ snapshot.derivedState.TakenBy m.channel dbs.appl))) ∧
    (∀ cancelDuringLoad, ((Session.mk m dbs).step (.check cancelDuringLoad)).1.databases = dbs) ∧
    ((Session.mk m dbs).step (.execute .validate)).1 = ⟨m, dbs⟩ := by
  intro run validate
  have hvalidate : validate = _ := Command.execute_validate dbs
  refine ⟨?_, ?_, fun _ => rfl, Session.step_validate _⟩
  · intro failure hload
    have hcheck : check dbs = .error (.storeUnavailable failure) := by
      unfold check
      rw [hload]
    refine ⟨?_, hcheck, ?_⟩
    · show (m.run dbs false).result = _
      rw [result_run, hm, hload]
      rfl
    · rw [hvalidate, hcheck]
      rfl
  · intro snapshot hload
    have hrun := (run_of_some (delivery?_eq_some_iff.2 ⟨hm, rfl, hload⟩)).2.2
    have hcheck : check dbs = .ok (snapshot.report m.channel dbs.appl).validationErrors := by
      unfold check
      rw [hload]
      rfl
    refine ⟨snapshot.report m.channel dbs.appl, hrun, hcheck, ?_, fun hvalid => ?_⟩
    · rw [hvalidate, hcheck]
      rfl
    · have hresolve : (snapshot.report m.channel dbs.appl).resolveErrors = [] :=
        snapshot.errors_resolution
      refine ⟨hresolve, ?_⟩
      unfold RunReport.isClean
      rw [hvalid, hresolve, ← DerivedState.isClean_apply_iff]
      exact Iff.rfl

/-- A valid configuration, and an application database that publishes nothing. -/
theorem dry_run_before_failing_channel :
    let config : Store := { Store.empty .config with
      hashes := NameMap.ofPairs [("UE_INTERFACE|Ethernet0", Fields.toHash [("ue_enable", "true"),
        ("ip_versions", "6"), ("max_paths_v6", "8")])] }
    let dbs : Databases :=
      { Databases.empty with config := config, appl := (Store.empty .appl).failOn "channel" }
    check dbs = .ok [] ∧ ∃ report, ((Manager.new "channel").run dbs false).result = .ok report ∧
      report.resolveErrors = [] ∧ report.isClean = false := by
  intro config dbs
  have hcheck : check dbs = .ok [] := by
    decide +kernel
  have hunclean : (((Manager.new "channel").run dbs false).result.map RunReport.isClean).toOption =
      some false := by
    decide +kernel
  have hfaultless : config.Faultless := Store.faultless_empty .config
  obtain ⟨snapshot, hload⟩ := Snapshot.load_of_faultless hfaultless
  have hpredicted := @dry_run_predicts_run (Manager.new "channel") rfl dbs
  obtain ⟨report, hresult, hreported, -, hclean⟩ := hpredicted.2.1 snapshot hload
  rw [hcheck, Except.ok.injEq] at hreported
  rw [hresult] at hunclean
  exact ⟨hcheck, report, hresult, (hclean hreported.symm).1, Option.some.inj hunclean⟩

end Manager

end DualStack
