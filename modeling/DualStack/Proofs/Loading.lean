import DualStack.Proofs.Entities
import Mathlib.Data.List.Basic

/-!
# What a load reads

A table that can be read holds the records whose store keys are its name, the separator and the
record key, and each of them once. So the record under a key of a table is the hash under one key
of the store, and which other keys there are does not matter. The five tables of the configuration
have no bar in their names, which is why a store key belongs to one of them at most.
-/

set_option autoImplicit false

namespace DualStack

namespace Database

/-- The key of a record goes on from the start of the keys of its table with its name. -/
theorem recordKey_eq_append (database : Database) (table key : String) :
    (database.recordKey table key).toList =
      (database.recordKey table "").toList ++ key.toList := by
  simp [toList_recordKey]

/-- A key starts as those of a table exactly if it is the key of one of its records. -/
theorem startsWith_recordKey_iff {database : Database} {table storeKey : String} :
    Text.startsWith (database.recordKey table "") storeKey = true ↔
      ∃ key, storeKey = database.recordKey table key := by
  rw [Text.startsWith_iff]
  constructor
  · rintro ⟨rest, hrest⟩
    refine ⟨String.ofList rest, String.toList_injective ?_⟩
    rw [recordKey_eq_append, String.toList_ofList, hrest]
  · rintro ⟨key, rfl⟩
    rw [recordKey_eq_append database table key]
    exact List.prefix_append _ _

/-- A store key is cut into table and record key at its first separator, so it is the key of one
record of one table, if the names of tables have no separator in them. -/
theorem recordKey_eq_recordKey_iff {database : Database} {table table' key key' : String}
    (htable : database.separator ∉ table.toList) (htable' : database.separator ∉ table'.toList) :
    database.recordKey table key = database.recordKey table' key' ↔
      table = table' ∧ key = key' := by
  constructor
  · intro h
    have hcut := Text.cutFirst?_eq_some_mk_iff.2 ⟨database.toList_recordKey table key, htable⟩
    have hcut' := Text.cutFirst?_eq_some_mk_iff.2
      ⟨database.toList_recordKey table' key', htable'⟩
    rw [h] at hcut
    exact Prod.mk.inj (Option.some.inj (hcut.symm.trans hcut'))
  · rintro ⟨rfl, rfl⟩
    rfl

end Database

namespace Text

/-- What is left behind a start is the text that gives the whole when it is put behind it. -/
theorem rest?_eq_some_iff {lead s rest : String} :
    rest? lead s = some rest ↔ s.toList = lead.toList ++ rest.toList := by
  unfold rest?
  rw [Option.map_eq_some_iff]
  constructor
  · rintro ⟨cs, hafter, rfl⟩
    rw [String.toList_ofList]
    exact after?_eq_some_iff.1 hafter
  · intro h
    exact ⟨rest.toList, after?_eq_some_iff.2 h, String.ofList_toList⟩

end Text

namespace Store

/-- A name is cut off a key of a table exactly if the key is the one of the record of this name. -/
theorem rest?_tableLead_eq_some_iff {s : Store} {table storeKey key : String} :
    Text.rest? (s.tableLead table) storeKey = some key ↔
      storeKey = s.database.recordKey table key := by
  rw [Text.rest?_eq_some_iff, tableLead, ← Database.recordKey_eq_append, String.toList_inj]

/-- The record under a key of a table: the hash under one key of the store, unless it is empty. -/
def record? (s : Store) (table key : String) : Option Fields :=
  (s.hashes[s.database.recordKey table key]?.map Std.ExtTreeMap.toList).filter (!·.isEmpty)

/-- The records of a table, by the keys of the store. -/
def records (s : Store) (table : String) : Table :=
  s.hashes.keys.filterMap fun storeKey =>
    (Text.rest? (s.tableLead table) storeKey).bind fun key =>
      (s.record? table key).map fun fields => (key, fields)

/-- The records that are read under keys are the hashes there that have a field, each with the name
cut off its key. -/
theorem readRecords_eq_ok {s : Store} {table : String} {keys : List String} {found : Table}
    (h : s.readRecords (s.tableLead table) keys = .ok found) :
    found = keys.filterMap fun storeKey =>
      (Text.rest? (s.tableLead table) storeKey).bind fun key =>
        (s.record? table key).map fun fields => (key, fields) := by
  induction keys generalizing found with
  | nil =>
    cases h
    rfl
  | cons storeKey keys ih =>
    unfold readRecords at h
    cases hrest : Text.rest? (s.tableLead table) storeKey with
    | none =>
      rw [hrest] at h
      rw [List.filterMap_cons, hrest]
      exact ih h
    | some key =>
      simp only [hrest] at h
      obtain ⟨fields, hfields, h⟩ := exists_of_bind_eq_ok h
      obtain ⟨others, hothers, h⟩ := exists_of_bind_eq_ok h
      have hread : fields = (s.hashes[storeKey]?.getD ∅).toList := by
        unfold hgetall at hfields
        rw [guarded_eq] at hfields
        split at hfields
        · cases hfields
        · cases hfields
          rfl
      -- no hash and a hash without a field are read alike, and both count as no record
      have hrecord : s.record? table key = if fields.isEmpty then none else some fields := by
        rw [rest?_tableLead_eq_some_iff] at hrest
        unfold record?
        rw [← hrest, hread]
        cases s.hashes[storeKey]? with
        | none => rfl
        | some hash =>
          rw [Option.getD_some, Option.map_some, Option.filter_some]
          cases hash.toList.isEmpty <;> rfl
      rw [List.filterMap_cons, hrest, Option.bind_some, hrecord, ← ih hothers]
      cases hempty : fields.isEmpty with
      | true =>
        rw [hempty] at h
        cases h
        rfl
      | false =>
        rw [hempty] at h
        cases h
        rfl

/-- A table that can be read is the list of its records. -/
theorem table_eq_ok {s : Store} {name : String} {found : Table} (h : s.table name = .ok found) :
    found = s.records name := by
  unfold table at h
  obtain ⟨keys, hkeys, h⟩ := exists_of_bind_eq_ok h
  unfold Store.keys at hkeys
  rw [guarded_eq] at hkeys
  split at hkeys
  · cases hkeys
  · cases hkeys
    rw [readRecords_eq_ok h, List.filterMap_filter]
    refine List.filterMap_congr fun storeKey _ => ?_
    -- A key that does not match the pattern has no rest behind the lead of the table.
    rw [keyMatches_lead, ← Text.isSome_rest?]
    cases Text.rest? (s.tableLead name) storeKey <;> rfl

/-- A store lists a record exactly if it has it under the key of table and name. -/
theorem mem_records {s : Store} {name key : String} {fields : Fields} :
    (key, fields) ∈ s.records name ↔ s.record? name key = some fields := by
  unfold records
  simp only [List.mem_filterMap, Option.bind_eq_some_iff, rest?_tableLead_eq_some_iff,
    Option.map_eq_some_iff, Prod.mk.injEq]
  constructor
  · rintro ⟨storeKey, -, key', rfl, fields', hrecord, rfl, rfl⟩
    exact hrecord
  · intro hrecord
    refine ⟨_, ?_, key, rfl, fields, hrecord, rfl, rfl⟩
    rw [Std.ExtTreeMap.mem_keys, Std.ExtTreeMap.mem_iff_isSome_getElem?]
    unfold record? at hrecord
    cases hhash : s.hashes[s.database.recordKey name key]? with
    | some hash => rfl
    | none =>
      rw [hhash] at hrecord
      cases hrecord

/-- The records of a table depend on the hashes of that table alone. -/
theorem records_congr {s s' : Store} {name : String} (hdatabase : s'.database = s.database)
    (h : ∀ key, s'.hashes[s.database.recordKey name key]? =
      s.hashes[s.database.recordKey name key]?) : s'.records name = s.records name := by
  have hlead : s'.tableLead name = s.tableLead name := by
    unfold tableLead
    rw [hdatabase]
  have hrecord : s'.record? name = s.record? name := by
    funext key
    unfold record?
    rw [hdatabase, h key]
  have hkeys : (s'.hashes.keys.filter fun key => (Text.rest? (s.tableLead name) key).isSome) =
      s.hashes.keys.filter fun key => (Text.rest? (s.tableLead name) key).isSome := by
    apply filter_keys_congr
    intro storeKey hrest
    obtain ⟨key, hkey⟩ := Option.isSome_iff_exists.1 hrest
    rw [rest?_tableLead_eq_some_iff.1 hkey]
    exact h key
  have hkept : ∀ s : Store, s.records name =
      (s.hashes.keys.filter fun key => (Text.rest? (s.tableLead name) key).isSome).filterMap
        fun storeKey => (Text.rest? (s.tableLead name) storeKey).bind fun key =>
          (s.record? name key).map fun fields => (key, fields) := by
    intro s
    unfold records
    rw [List.filterMap_filter]
    refine List.filterMap_congr fun storeKey _ => ?_
    cases Text.rest? (s.tableLead name) storeKey <;> rfl
  rw [hkept s', hkept s, hlead, hrecord, hkeys]

end Store

/-! ## The configuration -/

namespace Scope

/-- There is no bar in the name of a managed table. -/
theorem bar_notMem_table (scope : Scope) : '|' ∉ scope.table.toList := by
  cases scope <;> decide

/-- Tables and record keys are told apart in a store key by its first bar. -/
theorem recordKey_table_inj {scope scope' : Scope} {key key' : String} :
    Database.config.recordKey scope.table key = Database.config.recordKey scope'.table key' ↔
      scope = scope' ∧ key = key' := by
  rw [Database.recordKey_eq_recordKey_iff scope.bar_notMem_table scope'.bar_notMem_table]
  refine and_congr_left' ?_
  cases scope <;> cases scope' <;> decide

end Scope

namespace Validation

/-- If a table has one record of a key at most, this is the last one. -/
theorem lastRecord?_eq {table : Table} {key : String} {found : Option Fields}
    (h : ∀ fields, (key, fields) ∈ table ↔ found = some fields) :
    lastRecord? table key = found := by
  cases hrecord : lastRecord? table key with
  | some fields => exact ((h fields).1 (mem_of_lastRecord? hrecord)).symm
  | none =>
    cases found with
    | none => rfl
    | some fields =>
      have hnone := Option.map_eq_none_iff.1 hrecord
      have hmem := List.mem_reverse.2 ((h fields).2 rfl)
      exact absurd (List.find?_eq_none.1 hnone _ hmem) (by simp)

end Validation

namespace Snapshot

/-- A snapshot is its five tables. -/
theorem ext_table {a b : Snapshot} (h : ∀ scope, a.table scope = b.table scope) : a = b := by
  obtain ⟨global, families, interfaces, groups, rdma⟩ := a
  have hglobal : global = b.global := h .global
  have hfamilies : families = b.families := h .addressFamily
  have hinterfaces : interfaces = b.interfaces := h .interface
  have hgroups : groups = b.groups := h .ecmp
  have hrdma : rdma = b.rdma := h .rdma
  rw [hglobal, hfamilies, hinterfaces, hgroups, hrdma]

/-- A loaded table has the records of the store. -/
theorem table_of_load {s : Store} {snapshot : Snapshot} (h : load s = .ok snapshot)
    (scope : Scope) : snapshot.table scope = s.records scope.table := by
  unfold load at h
  obtain ⟨global, hglobal, h⟩ := exists_of_bind_eq_ok h
  obtain ⟨families, hfamilies, h⟩ := exists_of_bind_eq_ok h
  obtain ⟨interfaces, hinterfaces, h⟩ := exists_of_bind_eq_ok h
  obtain ⟨groups, hgroups, h⟩ := exists_of_bind_eq_ok h
  obtain ⟨rdma, hrdma, h⟩ := exists_of_bind_eq_ok h
  cases h
  cases scope with
  | global => exact Store.table_eq_ok hglobal
  | addressFamily => exact Store.table_eq_ok hfamilies
  | interface => exact Store.table_eq_ok hinterfaces
  | ecmp => exact Store.table_eq_ok hgroups
  | rdma => exact Store.table_eq_ok hrdma

/-- The record under a key of a loaded snapshot is what the store has there. -/
theorem lastRecord?_of_load {s : Store} {snapshot : Snapshot} (h : load s = .ok snapshot)
    (scope : Scope) (key : String) :
    Validation.lastRecord? (snapshot.table scope) key = s.record? scope.table key := by
  apply Validation.lastRecord?_eq
  intro fields
  rw [table_of_load h, Store.mem_records]

end Snapshot

end DualStack
