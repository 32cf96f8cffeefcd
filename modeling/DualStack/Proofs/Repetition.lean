import DualStack.Proofs.Run

/-!
# A run looks at no history

What a run returns, announces and writes is decided by the configuration, the faults of the stores
and the channel. What the application database held before, and which runs the manager had behind
it, shows in nothing of that: under the keys it writes a run leaves only its own fields, and it
touches no other key. So a second run on the same configuration finds every record as it is going to
write it, and announces the same again.
-/

set_option autoImplicit false

namespace DualStack

/-- The keys under which records were written, in order. -/
def ApplyReport.writtenKeys (report : ApplyReport) : List String :=
  report.deliveries.filterMap fun
    | .written key _ => some key
    | .failed .. => none

namespace RunResult

/-- The keys under which a run wrote records, none if it failed. -/
def writtenKeys (r : RunResult) : List String :=
  match r.result with
  | .ok report => report.apply.writtenKeys
  | .error _ => []

/-- Two runs, on application databases of different contents, that return the same, announce the
same, and leave the same hash under each key they write and every other hash as it was. -/
structure SameEffect (r r' : RunResult) (appl appl' : Store) : Prop where
  result : r'.result = r.result
  published : ∃ messages, r.databases.appl.published = appl.published ++ messages ∧
    r'.databases.appl.published = appl'.published ++ messages
  written : ∀ key ∈ r.writtenKeys, ∃ hash, r.databases.appl.hashes[key]? = some hash ∧
    r'.databases.appl.hashes[key]? = some hash
  kept : ∀ key, key ∉ r.writtenKeys → r.databases.appl.hashes[key]? = appl.hashes[key]? ∧
    r'.databases.appl.hashes[key]? = appl'.hashes[key]?

end RunResult

/-! ## Two deliveries -/

namespace DerivedState

variable (state : DerivedState) (channel : String) {s s' : Store} {key : String}

/-- The keys of written records are those of the accepted ones, in order. -/
theorem writtenKeys_outcome (s : Store) (records : List AppRecord) :
    (ApplyReport.mk (records.map (state.outcome channel s))).writtenKeys =
      (accepted s records).map AppRecord.key := by
  unfold ApplyReport.writtenKeys
  induction records with
  | nil => rfl
  | cons r records ih => cases hfails : s.fails r.key <;> simp_all [outcome, accepted]

/-- A delivery writes under a key exactly if the state has a record for it and the key does not
fail. -/
theorem mem_writtenKeys_apply : key ∈ (state.apply channel s).2.writtenKeys ↔
    ∃ r ∈ state.records, r.key = key ∧ s.fails key = false := by
  rw [apply_eq, writtenKeys_outcome]
  simp only [accepted, List.mem_map, List.mem_filter, Bool.not_eq_true']
  constructor
  · rintro ⟨r, ⟨hr, hfails⟩, rfl⟩
    exact ⟨r, hr, rfl, hfails⟩
  · rintro ⟨r, hr, rfl, hfails⟩
    exact ⟨r, ⟨hr, hfails⟩, rfl⟩

/-- A delivery leaves every hash that it does not write. -/
theorem getElem?_apply_of_notMem (h : key ∉ (state.apply channel s).2.writtenKeys) :
    (state.apply channel s).1.hashes[key]? = s.hashes[key]? := by
  rw [apply_eq]
  apply getElem?_delivered_of_notMem
  intro r hr hkey
  cases hfails : s.fails key with
  | true => rfl
  | false => exact absurd ((state.mem_writtenKeys_apply channel).2 ⟨r, hr, hkey, hfails⟩) h

variable (hs : Store.SameFaults s s')
include hs

/-- The report of a delivery depends on the faults of the store alone. -/
theorem report_apply_congr : (state.apply channel s').2 = (state.apply channel s).2 := by
  rw [apply_eq, apply_eq, outcome_congr hs]

/-- What a delivery publishes depends on the faults of the store alone, whatever was published
before. -/
theorem published_apply_congr : ∃ messages,
    (state.apply channel s).1.published = s.published ++ messages ∧
      (state.apply channel s').1.published = s'.published ++ messages := by
  refine ⟨state.messages channel s state.records, ?_, ?_⟩
  · rw [apply_eq]
    rfl
  · rw [apply_eq, ← messages_congr hs]
    rfl

/-- The hash that a delivery leaves under a key it writes does not depend on the hash that was
there. -/
theorem getElem?_apply_congr (h : key ∈ (state.apply channel s).2.writtenKeys) :
    ∃ hash, (state.apply channel s).1.hashes[key]? = some hash ∧
      (state.apply channel s').1.hashes[key]? = some hash := by
  obtain ⟨r, hr, rfl, hfails⟩ := (state.mem_writtenKeys_apply channel).1 h
  have hfails' : s'.fails r.key = false := (hs.fails_eq r.key).trans hfails
  refine ⟨r.fields.toHash, ?_, ?_⟩
  · rw [apply_eq]
    exact state.getElem?_delivered_of_mem channel hr hfails
  · rw [apply_eq]
    exact state.getElem?_delivered_of_mem channel hr hfails'

end DerivedState

/-! ## Two runs -/

namespace Manager

variable {m m' : Manager} {dbs dbs' : Databases}

/-- Two managers of the same channel run alike on the same configuration. -/
theorem sameEffect_run (hcancelled : m'.cancelled = m.cancelled) (hchannel : m'.channel = m.channel)
    (hconfig : dbs'.config = dbs.config) (hfaults : Store.SameFaults dbs.appl dbs'.appl)
    (cancelDuringLoad : Bool) :
    (m.run dbs cancelDuringLoad).SameEffect (m'.run dbs' cancelDuringLoad) dbs.appl dbs'.appl := by
  have hreport : ∀ snapshot : Snapshot,
      snapshot.report m'.channel dbs'.appl = snapshot.report m.channel dbs.appl := by
    intro snapshot
    unfold Snapshot.report
    rw [hchannel, DerivedState.report_apply_congr _ _ hfaults]
  have hresult : (m'.run dbs' cancelDuringLoad).result = (m.run dbs cancelDuringLoad).result := by
    simp only [result_run, hcancelled, hconfig, hreport]
  have hdelivery : m'.delivery? dbs' cancelDuringLoad = m.delivery? dbs cancelDuringLoad := by
    unfold delivery?
    rw [hcancelled, hconfig]
  cases hfound : m.delivery? dbs cancelDuringLoad with
  | none =>
    obtain ⟨-, hdbs, hreported⟩ := run_of_none hfound
    obtain ⟨-, hdbs', -⟩ := run_of_none (hdelivery.trans hfound)
    have hkeys : (m.run dbs cancelDuringLoad).writtenKeys = [] := by
      unfold RunResult.writtenKeys
      cases hreturned : (m.run dbs cancelDuringLoad).result with
      | error error => rfl
      | ok report =>
        rw [hreported report hreturned]
        rfl
    refine ⟨hresult, ⟨[], ?_, ?_⟩, ?_, ?_⟩
    · rw [hdbs, List.append_nil]
    · rw [hdbs', List.append_nil]
    · intro key hkey
      rw [hkeys] at hkey
      cases hkey
    · intro key _
      rw [hdbs, hdbs']
      exact ⟨rfl, rfl⟩
  | some snapshot =>
    -- both runs deliver the same state; only what their stores held before can differ
    obtain ⟨-, hdbs, hreturned⟩ := run_of_some hfound
    obtain ⟨-, hdbs', -⟩ := run_of_some (hdelivery.trans hfound)
    have hkeys : (m.run dbs cancelDuringLoad).writtenKeys =
        (snapshot.derivedState.apply m.channel dbs.appl).2.writtenKeys := by
      unfold RunResult.writtenKeys
      rw [hreturned]
      rfl
    rw [hchannel] at hdbs'
    refine ⟨hresult, ?_, ?_, ?_⟩
    · rw [hdbs, hdbs']
      exact DerivedState.published_apply_congr _ _ hfaults
    · intro key hkey
      rw [hkeys] at hkey
      rw [hdbs, hdbs']
      exact DerivedState.getElem?_apply_congr _ _ hfaults hkey
    · intro key hkey
      rw [hkeys] at hkey
      have hkey' : key ∉ (snapshot.derivedState.apply m.channel dbs'.appl).2.writtenKeys := by
        rwa [DerivedState.report_apply_congr _ _ hfaults]
      rw [hdbs, hdbs']
      exact ⟨DerivedState.getElem?_apply_of_notMem _ _ hkey,
        DerivedState.getElem?_apply_of_notMem _ _ hkey'⟩

/-- Whatever the application database held and whatever the managers did before, two runs on the
same configuration with the same faults have the same effect. A run that follows another with
nothing changed leaves every hash as it is and announces the same messages again. -/
theorem run_whatever_came_before (hm : m.cancelled = false) (hm' : m'.cancelled = false)
    (hchannel : m'.channel = m.channel) (hconfig : dbs'.config = dbs.config)
    (hfaults : Store.SameFaults dbs.appl dbs'.appl) (cancelDuringLoad : Bool) :
    (m.run dbs cancelDuringLoad).SameEffect (m'.run dbs' cancelDuringLoad) dbs.appl dbs'.appl ∧
    (let first := m.run dbs false
     let again := first.manager.run first.databases false
     first.SameEffect again dbs.appl first.databases.appl ∧
     again.databases.appl.hashes = first.databases.appl.hashes) := by
  refine ⟨sameEffect_run (hm'.trans hm.symm) hchannel hconfig hfaults cancelDuringLoad, ?_⟩
  intro first again
  have hcancelled : first.manager.cancelled = m.cancelled := by
    have hafter := m.cancelled_run dbs false
    rwa [Bool.or_false] at hafter
  obtain ⟨appl, hafter, hsame⟩ := m.exists_databases_run dbs false
  have hkept : first.databases.config = dbs.config := by
    show (m.run dbs false).databases.config = dbs.config
    rw [hafter]
  have hfaults' : Store.SameFaults dbs.appl first.databases.appl := by
    show Store.SameFaults dbs.appl (m.run dbs false).databases.appl
    rw [hafter]
    exact hsame
  have heffect : first.SameEffect again dbs.appl first.databases.appl :=
    sameEffect_run hcancelled (m.channel_run dbs false) hkept hfaults' false
  refine ⟨heffect, ?_⟩
  apply Std.ExtTreeMap.ext_getElem?
  intro key
  by_cases hkey : key ∈ first.writtenKeys
  · obtain ⟨hash, hfirst, hagain⟩ := heffect.written key hkey
    rw [hfirst, hagain]
  · exact (heffect.kept key hkey).2

/-- A manager with runs behind it, on a database with a leftover and one key that fails. -/
theorem run_over_leftovers :
    let config : Store := { Store.empty .config with
      hashes := NameMap.ofPairs [("UE_GLOBAL|global", Fields.toHash [("enable", "true")]),
        ("UE_INTERFACE|Ethernet0", Fields.toHash [("ue_enable", "true"), ("ip_versions", "4"),
          ("max_paths_v4", "8")])] }
    let appl : Store := (Store.empty .appl).failOn "UE_DUAL_STACK"
    let appl' : Store := { appl with
      hashes := NameMap.ofPairs [("UE_INTERFACE_CONFIG:Ethernet0",
        Fields.toHash [("max_paths_v6", "2")])]
      published := [("channel", "before")] }
    let dbs : Databases := { Databases.empty with config := config, appl := appl }
    let dbs' : Databases := { dbs with appl := appl' }
    let r := (Manager.new "channel").run dbs false
    let r' := (Manager.mk "channel" false 3 (some RunReport.ofCancelled)).run dbs' false
    r.writtenKeys = ["UE_GLOBAL_STATE", "UE_TRANSPORT_MODE", "UE_CONGESTION_CONTROL",
      "UE_INTERFACE_CONFIG:Ethernet0"] ∧
    r'.databases.appl.hashes[("UE_INTERFACE_CONFIG:Ethernet0" : String)]? =
      r.databases.appl.hashes[("UE_INTERFACE_CONFIG:Ethernet0" : String)]? ∧
    r.SameEffect r' appl appl' := by
  intro config appl appl' dbs dbs' r r'
  have hkeys : r.writtenKeys = ["UE_GLOBAL_STATE", "UE_TRANSPORT_MODE", "UE_CONGESTION_CONTROL",
      "UE_INTERFACE_CONFIG:Ethernet0"] := by
    decide +kernel
  have hfaults : Store.SameFaults dbs.appl dbs'.appl := ⟨rfl, rfl, rfl⟩
  have heffect : r.SameEffect r' dbs.appl dbs'.appl :=
    (@run_whatever_came_before (Manager.new "channel")
      (Manager.mk "channel" false 3 (some RunReport.ofCancelled)) dbs dbs'
      rfl rfl rfl rfl hfaults false).1
  obtain ⟨hash, hfirst, hother⟩ := heffect.written "UE_INTERFACE_CONFIG:Ethernet0" (by simp [hkeys])
  exact ⟨hkeys, hother.trans hfirst.symm, heffect⟩

end Manager

end DualStack
