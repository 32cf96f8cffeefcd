import DualStack.Proofs.Derivation
import DualStack.Proofs.Loading
import DualStack.Proofs.ReadBack
import DualStack.Proofs.Session

/-!
# What one record can change

Two worlds are compared that differ in a single hash of the configuration database, and one run in
each. The record in that hash reaches at most the key of its own entity in the application database,
the messages of its own interface, and the errors under its own key; everything else comes out the
same. The global record is the exception, since it gates all the others. A hash of no table that
is loaded changes nothing at all.

The comparison goes through the last records of the two snapshots, which differ in one place, and
follows each record of the derived state back to the one place it comes from.
-/

set_option autoImplicit false

namespace DualStack

/-- Whether a message is about an interface. -/
def Notification.isAbout (interface message : String) : Bool :=
  (parse? message).any (·.interface == interface)

/-- A published message is about the interface that it was made for and no other. -/
theorem Notification.isAbout_render (interface : String) (n : Notification) :
    isAbout interface n.render = (n.interface == interface) := by
  unfold isAbout
  rw [parse?_render]
  rfl

/-! ## Snapshots that differ in one place -/

/-- Two snapshots with the same last record in every place but one. -/
def Snapshot.SameBut (scope : Scope) (key : String) (a b : Snapshot) : Prop :=
  ∀ other name, ¬ (other = scope ∧ name = key) →
    Validation.lastRecord? (b.table other) name = Validation.lastRecord? (a.table other) name

/-- Being alike in every place but one does not depend on which snapshot comes first. -/
theorem Snapshot.SameBut.symm {scope : Scope} {key : String} {a b : Snapshot}
    (h : SameBut scope key a b) : SameBut scope key b a :=
  fun other name hplace => (h other name hplace).symm

/-- The keys of the application database that a record of the configuration reaches: that of the
entity its key spells, or all keys for a global record. -/
def Scope.Reaches : Scope → String → String → Prop
  | .global, _, _ => True
  | .addressFamily, key, target =>
    ∃ family : Family, key = family.name ∧ target = AppRecord.familyKey family
  | .interface, key, target => target = AppRecord.interfaceKey key
  | .ecmp, key, target => ∃ family name, key = Decode.groupRecordKey family name ∧
    target = AppRecord.groupKey family name
  | .rdma, key, target => key = Schema.globalKey ∧ target = Schema.rdmaConfigKey

namespace Snapshot

section

variable {scope : Scope} {key : String} {a b : Snapshot} (h : SameBut scope key a b)
include h

/-- The global settings do not depend on the records of other scopes. -/
theorem global_congr (hscope : scope ≠ .global) :
    (Validation.configOf b).global = (Validation.configOf a).global := by
  have hrecord : b.globalRecord? = a.globalRecord? :=
    h .global _ fun ⟨hglobal, _⟩ => hscope hglobal.symm
  rw [global_configOf, global_configOf, hrecord]

/-- Whether the feature is enabled does not depend on the records of other scopes. -/
theorem featureOf_congr (hscope : scope ≠ .global) :
    Resolution.featureOf (Validation.configOf b) =
      Resolution.featureOf (Validation.configOf a) := by
  unfold Resolution.featureOf
  rw [global_congr h hscope]

/-- The settings of a family depend on no other record than its own. -/
theorem get_families_congr {family : Family}
    (hplace : ¬ (.addressFamily = scope ∧ family.name = key)) :
    (Validation.configOf b).families.get family =
      (Validation.configOf a).families.get family := by
  have hrecord : Validation.lastRecord? b.families family.name =
      Validation.lastRecord? a.families family.name := h .addressFamily _ hplace
  rw [get_families_configOf, get_families_configOf, hrecord]

/-- The settings of an interface depend on no other record than its own. -/
theorem getElem?_interfaces_congr {name : String} (hplace : ¬ (.interface = scope ∧ name = key)) :
    (Validation.configOf b).interfaces[name]? = (Validation.configOf a).interfaces[name]? := by
  have hrecord : Validation.lastRecord? b.interfaces name =
      Validation.lastRecord? a.interfaces name := h .interface _ hplace
  rw [getElem?_interfaces_configOf, getElem?_interfaces_configOf, hrecord]

/-- The settings of a group depend on no other record than its own. -/
theorem getElem?_groups_congr {family : Family} {name : String}
    (hplace : ¬ (.ecmp = scope ∧ Decode.groupRecordKey family name = key)) :
    ((Validation.configOf b).groups.get family)[name]? =
      ((Validation.configOf a).groups.get family)[name]? := by
  have hrecord : Validation.lastRecord? b.groups (Decode.groupRecordKey family name) =
      Validation.lastRecord? a.groups (Decode.groupRecordKey family name) := h .ecmp _ hplace
  rw [getElem?_groups_configOf, getElem?_groups_configOf, hrecord]

/-- The RDMA settings depend on no other record than their own. -/
theorem rdma_congr (hplace : ¬ (.rdma = scope ∧ Schema.globalKey = key)) :
    (Validation.configOf b).rdma = (Validation.configOf a).rdma := by
  have hrecord : Validation.lastRecord? b.rdma Schema.globalKey =
      Validation.lastRecord? a.rdma Schema.globalKey := h .rdma _ hplace
  rw [rdma_configOf, rdma_configOf, hrecord]

/-- A record of one state that the changed place does not reach is a record of the other. -/
theorem mem_records_of_sameBut {r : AppRecord} (hr : r ∈ a.derivedState.records)
    (hreach : ¬ scope.Reaches key r.key) : r ∈ b.derivedState.records := by
  have hstate : ∀ s : Snapshot, s.derivedState =
      (Resolution.of (Validation.configOf s)).state := fun _ => rfl
  have hscope : scope ≠ .global := by
    rintro rfl
    exact hreach trivial
  have hfeature := featureOf_congr h hscope
  obtain ⟨own, hr⟩ := DerivedState.mem_records.1 hr
  refine DerivedState.mem_records.2 ⟨own, ?_⟩
  -- Whatever the record was made from lies in another place than the changed one.
  cases own with
  | global =>
    have hglobal : b.derivedState.global = a.derivedState.global :=
      congrArg (Option.map Resolution.globalOf) (global_congr h hscope)
    unfold DerivedState.recordsOf at hr ⊢
    rwa [hglobal]
  | addressFamily =>
    rw [DerivedState.mem_recordsOf_addressFamily] at hr ⊢
    obtain ⟨family, derived, hderived, rfl⟩ := hr
    have hplace : ¬ (.addressFamily = scope ∧ family.name = key) := by
      rintro ⟨rfl, rfl⟩
      exact hreach ⟨family, rfl, rfl⟩
    refine ⟨family, derived, ?_, rfl⟩
    rw [← hderived, hstate, hstate, Resolution.get_families_of, Resolution.get_families_of,
      get_families_congr h hplace, hfeature]
  | interface =>
    rw [DerivedState.mem_recordsOf_interface] at hr ⊢
    obtain ⟨name, derived, hderived, rfl⟩ := hr
    have hplace : ¬ (.interface = scope ∧ name = key) := by
      rintro ⟨rfl, rfl⟩
      exact hreach rfl
    refine ⟨name, derived, ?_, rfl⟩
    rw [← hderived, hstate, hstate, Resolution.getElem?_interfaces_of,
      Resolution.getElem?_interfaces_of, getElem?_interfaces_congr h hplace, hfeature]
  | ecmp =>
    rw [DerivedState.mem_recordsOf_ecmp] at hr ⊢
    obtain ⟨family, name, derived, hderived, rfl⟩ := hr
    have hplace : ¬ (.ecmp = scope ∧ Decode.groupRecordKey family name = key) := by
      rintro ⟨rfl, rfl⟩
      exact hreach ⟨family, name, rfl, rfl⟩
    refine ⟨family, name, derived, ?_, rfl⟩
    rw [← hderived, hstate, hstate, Resolution.getElem?_groups_of, Resolution.getElem?_groups_of,
      getElem?_groups_congr h hplace]
  | rdma =>
    obtain ⟨config, hconfig, rfl⟩ := List.mem_map.1 hr
    have hplace : ¬ (.rdma = scope ∧ Schema.globalKey = key) := by
      rintro ⟨rfl, rfl⟩
      exact hreach ⟨rfl, rfl⟩
    have hrdma : b.derivedState.rdma = a.derivedState.rdma := rdma_congr h hplace
    refine List.mem_map.2 ⟨config, ?_, rfl⟩
    rwa [hrdma]

/-- The errors of all other records are the same, in the same order. -/
theorem errorsOf_filter_congr :
    ((Validation.errorsOf b).filter fun error => ¬ (error.scope = scope ∧ error.key = key)) =
      (Validation.errorsOf a).filter fun error => ¬ (error.scope = scope ∧ error.key = key) := by
  have hof : ∀ s : Snapshot, ((Validation.errorsOf s).filter fun error =>
      ¬ (error.scope = scope ∧ error.key = key)) =
        Scope.all.flatMap fun other => ((Validation.lastRecords (s.table other)).toList.filter
          fun pair => ¬ (other = scope ∧ pair.1 = key)).flatMap fun pair =>
            Validation.recordErrors other pair.1 pair.2 := by
    intro s
    unfold Validation.errorsOf
    rw [List.filter_flatMap]
    congr 1
    funext other
    rw [← Validation.filter_tableErrors other _ fun name => ¬ (other = scope ∧ name = key)]
    refine List.filter_congr fun error herror => ?_
    rw [Validation.scope_of_mem_tableErrors herror]
  rw [hof b, hof a]
  congr 1
  funext other
  congr 1
  refine NameMap.filter_toList_congr (fun name => ¬ (other = scope ∧ name = key)) ?_
  intro name hplace
  rw [Validation.getElem?_lastRecords, Validation.getElem?_lastRecords]
  exact h other name (of_decide_eq_true hplace)

/-- A delivery leaves the same hash under every key that the changed place does not reach. -/
theorem getElem?_apply_congr (channel : String) (s : Store) {target : String}
    (hreach : ¬ scope.Reaches key target) :
    (b.derivedState.apply channel s).1.hashes[target]? =
      (a.derivedState.apply channel s).1.hashes[target]? := by
  rw [DerivedState.apply_eq, DerivedState.apply_eq]
  by_cases hwritten : ∃ r ∈ a.derivedState.records, r.key = target ∧ s.fails target = false
  · obtain ⟨r, hr, rfl, hfails⟩ := hwritten
    have hr' := mem_records_of_sameBut h hr hreach
    rw [DerivedState.getElem?_delivered_of_mem _ channel hr hfails,
      DerivedState.getElem?_delivered_of_mem _ channel hr' hfails]
  · have hkept : ∀ r ∈ a.derivedState.records, r.key = target → s.fails target = true := by
      intro r hr hkey
      by_contra hfails
      exact hwritten ⟨r, hr, hkey, Bool.eq_false_iff.2 hfails⟩
    have hkept' : ∀ r ∈ b.derivedState.records, r.key = target → s.fails target = true := by
      rintro r hr rfl
      exact hkept r (mem_records_of_sameBut h.symm hr hreach) rfl
    rw [DerivedState.getElem?_delivered_of_notMem _ channel hkept,
      DerivedState.getElem?_delivered_of_notMem _ channel hkept']

end

end Snapshot

/-! ## Messages -/

namespace Emission

/-- The messages that are not about an interface are those of the other interfaces. -/
theorem filter_texts (e : Emission) (channel interface : String) :
    ((e.texts channel).filter fun text => !Notification.isAbout interface text) =
      if e.appl.fails channel then []
      else ((e.config.interfaces.toList.filter fun pair => !(pair.1 == interface)).filter
        fun (name, _) => !e.appl.fails (AppRecord.interfaceKey name)).map fun (name, config) =>
          (Notification.setDualStack name config.raw
            (Resolution.flagsOf (Resolution.featureOf e.config) config)).render := by
  have habout : ∀ n : Notification,
      (!Notification.isAbout interface n.render) = !(n.interface == interface) := by
    intro n
    rw [Notification.isAbout_render]
  unfold texts
  split
  · rfl
  · rw [List.filter_map, List.filter_filter, List.filter_filter]
    refine congrArg (List.map _) (List.filter_congr ?_)
    rintro ⟨name, config⟩ -
    simp only [Function.comp_apply, habout, Notification.setDualStack, Bool.and_comm]

/-- The texts of an emission depend on the interfaces, the feature and the faults alone. -/
theorem texts_congr {e e' : Emission} (channel : String) (happl : e'.appl = e.appl)
    (hinterfaces : e'.config.interfaces = e.config.interfaces)
    (hfeature : Resolution.featureOf e'.config = Resolution.featureOf e.config) :
    e'.texts channel = e.texts channel := by
  unfold texts
  rw [happl, hinterfaces, hfeature]

end Emission

/-- What a delivery publishes are the texts of its emission, behind what was published before. -/
theorem Snapshot.published_apply (snapshot : Snapshot) (channel : String) (s : Store) :
    (snapshot.derivedState.apply channel s).1.published = s.published ++
      ((Emission.mk (Validation.configOf snapshot) s).texts channel).map fun text =>
        (channel, text) := by
  rw [DerivedState.apply_eq, ← Emission.messages_state]
  rfl

namespace Snapshot

section

variable {key : String} {a b : Snapshot}

/-- Changing the record of an interface changes only messages about it. -/
theorem published_apply_of_interface (h : SameBut .interface key a b) (channel : String)
    (s : Store) :
    ((b.derivedState.apply channel s).1.published.filter fun message =>
        !Notification.isAbout key message.2) =
      (a.derivedState.apply channel s).1.published.filter fun message =>
        !Notification.isAbout key message.2 := by
  have hfeature := featureOf_congr h (by decide)
  have hinterfaces : ((Validation.configOf b).interfaces.toList.filter fun pair =>
      !(pair.1 == key)) = (Validation.configOf a).interfaces.toList.filter fun pair =>
        !(pair.1 == key) := by
    refine NameMap.filter_toList_congr (fun name => !(name == key)) fun name hname => ?_
    refine getElem?_interfaces_congr h fun hplace => ?_
    simp [hplace.2] at hname
  have hkept : ∀ texts : List String, ((texts.map fun text => (channel, text)).filter
      fun message => !Notification.isAbout key message.2) =
        (texts.filter fun text => !Notification.isAbout key text).map fun text =>
          (channel, text) := fun texts => List.filter_map
  rw [published_apply, published_apply, List.filter_append, List.filter_append, hkept, hkept,
    Emission.filter_texts, Emission.filter_texts, hinterfaces, hfeature]

/-- Changing a record that is neither global nor of an interface changes no message. -/
theorem published_apply_of_ne {scope : Scope} (h : SameBut scope key a b)
    (hglobal : scope ≠ .global) (hinterface : scope ≠ .interface) (channel : String) (s : Store) :
    (b.derivedState.apply channel s).1.published =
      (a.derivedState.apply channel s).1.published := by
  have hinterfaces : (Validation.configOf b).interfaces = (Validation.configOf a).interfaces := by
    apply Std.ExtTreeMap.ext_getElem?
    intro name
    exact getElem?_interfaces_congr h fun hplace => hinterface hplace.1.symm
  have htexts : (Emission.mk (Validation.configOf b) s).texts channel =
      (Emission.mk (Validation.configOf a) s).texts channel :=
    Emission.texts_congr channel rfl hinterfaces (featureOf_congr h hglobal)
  rw [published_apply, published_apply, htexts]

end

end Snapshot

/-! ## Runs -/

/-- Two worlds with the same application database that differ in one hash of the configuration at
most. -/
structure Databases.SameBut (changed : String) (dbs dbs' : Databases) : Prop where
  database : dbs.config.database = .config
  database' : dbs'.config.database = .config
  appl : dbs'.appl = dbs.appl
  hashes : ∀ key, key ≠ changed → dbs'.config.hashes[key]? = dbs.config.hashes[key]?

/-- Two runs that leave the same hashes, apart from some keys, and report the same validation
errors, apart from those of one record. -/
structure RunResult.AgreeApart (r r' : RunResult) (targets : String → Prop) (scope : Scope)
    (key : String) : Prop where
  hashes : ∀ target, ¬ targets target →
    r'.databases.appl.hashes[target]? = r.databases.appl.hashes[target]?
  errors : ∃ report report', r.result = .ok report ∧ r'.result = .ok report' ∧
    (report'.validationErrors.filter fun error => ¬ (error.scope = scope ∧ error.key = key)) =
      report.validationErrors.filter fun error => ¬ (error.scope = scope ∧ error.key = key)

section

variable {dbs dbs' : Databases} {snapshot snapshot' : Snapshot}
  (hload : Snapshot.load dbs.config = .ok snapshot)
  (hload' : Snapshot.load dbs'.config = .ok snapshot')
include hload hload'

/-- Stores that differ in the hash of one record are loaded as snapshots that differ in this record
at most. -/
theorem Databases.SameBut.sameBut_snapshot {scope : Scope} {key : String}
    (h : dbs.SameBut (Database.config.recordKey scope.table key) dbs') :
    snapshot.SameBut scope key snapshot' := by
  intro other name hplace
  have hhash := h.hashes (Database.config.recordKey other.table name) fun heq =>
    hplace (Scope.recordKey_table_inj.1 heq)
  rw [Snapshot.lastRecord?_of_load hload, Snapshot.lastRecord?_of_load hload']
  unfold Store.record?
  rw [h.database, h.database', hhash]

/-- Stores that differ in a hash of no managed record are loaded as the same snapshot. -/
theorem Databases.SameBut.eq_snapshot {changed : String} (h : dbs.SameBut changed dbs')
    (hchanged : ∀ (scope : Scope) key, changed ≠ Database.config.recordKey scope.table key) :
    snapshot' = snapshot := by
  apply Snapshot.ext_table
  intro scope
  rw [Snapshot.table_of_load hload, Snapshot.table_of_load hload']
  apply Store.records_congr (h.database'.trans h.database.symm)
  intro key
  rw [h.database]
  exact h.hashes _ (hchanged scope key).symm

namespace Manager

variable (m : Manager) (cancelDuringLoad : Bool) (happl : dbs'.appl = dbs.appl)
include happl

/-- Two runs on configurations that differ in one record agree apart from the keys that this record
reaches. -/
theorem run_agreeApart {scope : Scope} {key : String} (h : snapshot.SameBut scope key snapshot') :
    (m.run dbs cancelDuringLoad).AgreeApart (m.run dbs' cancelDuringLoad) (scope.Reaches key)
      scope key := by
  constructor
  · intro target hreach
    rw [m.appl_run_of_load hload, m.appl_run_of_load hload', happl]
    split
    · rfl
    · exact Snapshot.getElem?_apply_congr h m.channel dbs.appl hreach
  · obtain ⟨report, hresult, herrors⟩ := m.result_run_of_load hload cancelDuringLoad
    obtain ⟨report', hresult', herrors'⟩ := m.result_run_of_load hload' cancelDuringLoad
    refine ⟨report, report', hresult, hresult', ?_⟩
    rw [herrors, herrors']
    split
    · rfl
    · exact Snapshot.errorsOf_filter_congr h

/-- Two runs on configurations that differ in the record of an interface publish the same, apart
from messages about it. -/
theorem published_run_of_interface {key : String}
    (h : snapshot.SameBut .interface key snapshot') :
    ((m.run dbs' cancelDuringLoad).databases.appl.published.filter fun message =>
        !Notification.isAbout key message.2) =
      (m.run dbs cancelDuringLoad).databases.appl.published.filter fun message =>
        !Notification.isAbout key message.2 := by
  rw [m.appl_run_of_load hload, m.appl_run_of_load hload', happl]
  split
  · rfl
  · exact Snapshot.published_apply_of_interface h m.channel dbs.appl

omit happl in
/-- A record that is neither global nor of an interface reaches its own key and errors only. -/
theorem run_of_changed_record {scope : Scope} {key : String}
    (h : dbs.SameBut (Database.config.recordKey scope.table key) dbs') (hglobal : scope ≠ .global)
    (hinterface : scope ≠ .interface) {targets : String → Prop}
    (htargets : ∀ target, scope.Reaches key target → targets target) :
    (m.run dbs cancelDuringLoad).AgreeApart (m.run dbs' cancelDuringLoad) targets scope key ∧
      (m.run dbs' cancelDuringLoad).databases.appl.published =
        (m.run dbs cancelDuringLoad).databases.appl.published := by
  have hsame := h.sameBut_snapshot hload hload'
  have hagree := m.run_agreeApart hload hload' cancelDuringLoad h.appl hsame
  refine ⟨⟨fun target hout => hagree.hashes target fun hin => hout (htargets target hin),
    hagree.errors⟩, ?_⟩
  rw [m.appl_run_of_load hload, m.appl_run_of_load hload', h.appl]
  split
  · rfl
  · exact Snapshot.published_apply_of_ne hsame hglobal hinterface m.channel dbs.appl

end Manager

end

/-- A run depends on the configuration it loads and on the application database. -/
theorem Manager.run_congr (m : Manager) {dbs dbs' : Databases} {snapshot : Snapshot}
    (hload : Snapshot.load dbs.config = .ok snapshot)
    (hload' : Snapshot.load dbs'.config = .ok snapshot) (happl : dbs'.appl = dbs.appl)
    (cancelDuringLoad : Bool) :
    let r := m.run dbs cancelDuringLoad
    let r' := m.run dbs' cancelDuringLoad
    r'.databases.appl = r.databases.appl ∧ r'.manager = r.manager ∧ r'.result = r.result ∧
      r'.log = r.log := by
  intro r r'
  have hr : r = _ := m.run_of_load hload cancelDuringLoad
  have hr' : r' = _ := m.run_of_load hload' cancelDuringLoad
  rw [hr, hr', happl]
  cases m.cancelled with
  | true => exact ⟨happl, rfl, rfl, rfl⟩
  | false =>
    cases cancelDuringLoad with
    | true => exact ⟨happl, rfl, rfl, rfl⟩
    | false => exact ⟨rfl, rfl, rfl, rfl⟩

/-- What one changed hash of the configuration can change, by the table it belongs to: an interface
its own key, messages and errors; a group, a family and a record of the RDMA table their own key
and errors; a hash of no loaded table nothing at all. -/
theorem Manager.run_of_one_change (m : Manager) {dbs dbs' : Databases} {changed : String}
    (h : dbs.SameBut changed dbs') {snapshot snapshot' : Snapshot}
    (hload : Snapshot.load dbs.config = .ok snapshot)
    (hload' : Snapshot.load dbs'.config = .ok snapshot') (cancelDuringLoad : Bool) :
    let r := m.run dbs cancelDuringLoad
    let r' := m.run dbs' cancelDuringLoad
    let recordKey (scope : Scope) (key : String) := Database.config.recordKey scope.table key
    (∀ name, changed = recordKey .interface name →
      r.AgreeApart r' (· = AppRecord.interfaceKey name) .interface name ∧
      (r'.databases.appl.published.filter fun message =>
          !Notification.isAbout name message.2) =
        r.databases.appl.published.filter fun message => !Notification.isAbout name message.2) ∧
    (∀ family name, changed = recordKey .ecmp (Decode.groupRecordKey family name) →
      r.AgreeApart r' (· = AppRecord.groupKey family name) .ecmp
        (Decode.groupRecordKey family name) ∧
      r'.databases.appl.published = r.databases.appl.published) ∧
    (∀ family : Family, changed = recordKey .addressFamily family.name →
      r.AgreeApart r' (· = AppRecord.familyKey family) .addressFamily family.name ∧
      r'.databases.appl.published = r.databases.appl.published) ∧
    (∀ key, changed = recordKey .rdma key →
      r.AgreeApart r' (· = Schema.rdmaConfigKey) .rdma key ∧
      r'.databases.appl.published = r.databases.appl.published) ∧
    ((∀ scope key, changed ≠ recordKey scope key) →
      r'.databases.appl = r.databases.appl ∧ r'.manager = r.manager ∧
        r'.result = r.result ∧ r'.log = r.log) := by
  intro r r' recordKey
  refine ⟨?_, ?_, ?_, ?_, ?_⟩
  · rintro name rfl
    have hsame := h.sameBut_snapshot hload hload'
    exact ⟨m.run_agreeApart hload hload' cancelDuringLoad h.appl hsame,
      m.published_run_of_interface hload hload' cancelDuringLoad h.appl hsame⟩
  · rintro family name rfl
    refine m.run_of_changed_record hload hload' cancelDuringLoad h (by decide) (by decide) ?_
    rintro target ⟨family', name', hkey, rfl⟩
    obtain ⟨rfl, rfl⟩ := Decode.groupRecordKey_inj.1 hkey
    rfl
  · rintro family rfl
    refine m.run_of_changed_record hload hload' cancelDuringLoad h (by decide) (by decide) ?_
    rintro target ⟨family', hkey, rfl⟩
    rw [Family.name_inj.1 hkey]
  · rintro key rfl
    exact m.run_of_changed_record hload hload' cancelDuringLoad h (by decide) (by decide)
      fun _ => And.right
  · intro hchanged
    have hsnapshot := h.eq_snapshot hload hload' hchanged
    rw [hsnapshot] at hload'
    exact m.run_congr hload hload' h.appl cancelDuringLoad

/-- An interface that is added is written and announced, and an interface with an error next to it
is not touched. -/
theorem Manager.run_of_added_interface :
    let before : Hash := Fields.toHash [("ue_enable", "true"), ("max_paths_v4", "4"),
      ("max_paths_v6", "2")]
    let invalid : Hash := Fields.toHash [("ue_enable", "true")]
    let config : Store := { Store.empty .config with
      hashes := NameMap.ofPairs [("UE_INTERFACE|Ethernet0", before),
        ("UE_INTERFACE|Ethernet4", invalid)] }
    let config' : Store := { config with
      hashes := config.hashes.insert "UE_INTERFACE|Ethernet8" before }
    let dbs : Databases := { Databases.empty with config := config }
    let dbs' : Databases := { Databases.empty with config := config' }
    let r := (Manager.new "channel").run dbs false
    let r' := (Manager.new "channel").run dbs' false
    r.databases.appl.hashes.size = 1 ∧ r'.databases.appl.hashes.size = 2 ∧
      r.databases.appl.published.length = 1 ∧ r'.databases.appl.published.length = 2 ∧
      r.AgreeApart r' (· = AppRecord.interfaceKey "Ethernet8") .interface "Ethernet8" := by
  intro before invalid config config' dbs dbs' r r'
  have hfaultless : config.Faultless := Store.faultless_empty .config
  have hfaultless' : config'.Faultless := Store.faultless_empty .config
  obtain ⟨snapshot, hload⟩ := Snapshot.load_of_faultless hfaultless
  obtain ⟨snapshot', hload'⟩ := Snapshot.load_of_faultless hfaultless'
  have hsame : dbs.SameBut "UE_INTERFACE|Ethernet8" dbs' := by
    refine ⟨rfl, rfl, rfl, fun key hkey => ?_⟩
    show (config.hashes.insert "UE_INTERFACE|Ethernet8" before)[key]? = config.hashes[key]?
    rw [Std.ExtTreeMap.getElem?_insert]
    exact if_neg fun heq => hkey (Std.LawfulEqCmp.eq_of_compare heq).symm
  have hone := (Manager.new "channel").run_of_one_change hsame hload hload' false
  refine ⟨by decide +kernel, by decide +kernel, by decide +kernel, by decide +kernel, ?_⟩
  exact (hone.1 "Ethernet8" (by decide)).1

end DualStack
