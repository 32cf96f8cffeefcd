import DualStack.Proofs.Loading
import DualStack.Proofs.Run
import Mathlib.Data.String.Basic

/-!
# When a load succeeds, and with what

A load asks for the keys of five patterns and for the hashes under the keys that match them, so it
fails exactly if the store is unavailable, one of the patterns is a failing key, or a stored key of
one of the tables is. A load that succeeds lists every record of the five tables once, in the order
of the record keys. That order is the one in which the store lists its keys, since all keys of a
table begin alike. No other key has a part in the outcome, and nothing changes in the store.
-/

set_option autoImplicit false

namespace DualStack

namespace Database

/-- Keys of one table are in the order of the record keys. -/
theorem recordKey_lt_iff {database : Database} {table key key' : String} :
    database.recordKey table key < database.recordKey table key' ↔ key < key' := by
  have hmono : ∀ {a b : String}, a < b →
      database.recordKey table a < database.recordKey table b := by
    intro a b hlt
    rw [String.lt_iff_toList_lt] at hlt ⊢
    rw [recordKey_eq_append database table a, recordKey_eq_append database table b]
    exact List.append_left_lt hlt
  constructor
  · intro hlt
    rcases lt_trichotomy key key' with h | rfl | h
    · exact h
    · exact absurd hlt (lt_irrefl _)
    · exact absurd (hmono h) (lt_asymm hlt)
  · exact hmono

end Database

namespace Store

variable {s : Store}

/-- A store has a record exactly if there is a hash with a field under its key, and the fields are
those of this hash by name. -/
theorem record?_eq_some_iff {table key : String} {fields : Fields} :
    s.record? table key = some fields ↔
      ∃ hash, s.hashes[s.database.recordKey table key]? = some hash ∧ hash ≠ ∅ ∧
        hash.toList = fields := by
  unfold record?
  rw [Option.filter_eq_some_iff, Option.map_eq_some_iff]
  constructor
  · rintro ⟨⟨hash, hhash, rfl⟩, hfull⟩
    refine ⟨hash, hhash, ?_, rfl⟩
    rintro rfl
    cases hfull
  · rintro ⟨hash, hhash, hfull, rfl⟩
    refine ⟨⟨hash, hhash, rfl⟩, ?_⟩
    have hlist : hash.toList ≠ [] := fun hnil => hfull (Std.ExtTreeMap.toList_eq_nil_iff.1 hnil)
    simpa using hlist

/-- Two stores that differ in the hash under one key at most. -/
structure SameBut (s : Store) (changed : String) (s' : Store) : Prop where
  faults : SameFaults s s'
  hashes : ∀ key, key ≠ changed → s'.hashes[key]? = s.hashes[key]?

/-- The records of a table come in the order of their keys. -/
theorem ascending_records (s : Store) (table : String) :
    (s.records table).Pairwise fun a b => a.1 < b.1 := by
  refine List.pairwise_filterMap.2 (Std.ExtTreeMap.ordered_keys.imp ?_)
  intro storeKey storeKey' hlt record hrecord record' hrecord'
  obtain ⟨key, hkey, hrecord⟩ := Option.bind_eq_some_iff.1 hrecord
  obtain ⟨key', hkey', hrecord'⟩ := Option.bind_eq_some_iff.1 hrecord'
  obtain ⟨fields, -, rfl⟩ := Option.map_eq_some_iff.1 hrecord
  obtain ⟨fields', -, rfl⟩ := Option.map_eq_some_iff.1 hrecord'
  rw [rest?_tableLead_eq_some_iff] at hkey hkey'
  rw [compare_lt_iff_lt, hkey, hkey', Database.recordKey_lt_iff] at hlt
  exact hlt

end Store

namespace Snapshot

/-- A snapshot lists the five tables of a store: the records that are not empty, each once, by
record key and each with its fields by name. -/
structure Lists (snapshot : Snapshot) (s : Store) : Prop where
  mem_iff : ∀ scope key fields, (key, fields) ∈ snapshot.table scope ↔
    ∃ hash, s.hashes[Database.config.recordKey scope.table key]? = some hash ∧ hash ≠ ∅ ∧
      hash.toList = fields
  ascending : ∀ scope, (snapshot.table scope).Pairwise fun a b => a.1 < b.1
  fieldsAscending : ∀ scope, ∀ record ∈ snapshot.table scope,
    record.2.Pairwise fun a b => a.1 < b.1

/-- A load lists the records of the five tables, each once and by key. -/
theorem lists_of_load {s : Store} (hs : s.database = .config) {snapshot : Snapshot}
    (h : load s = .ok snapshot) : snapshot.Lists s where
  mem_iff scope key fields := by
    rw [table_of_load h, Store.mem_records, Store.record?_eq_some_iff, hs]
  ascending scope := by
    rw [table_of_load h]
    exact s.ascending_records scope.table
  fieldsAscending scope := by
    rintro ⟨key, fields⟩ hrecord
    rw [table_of_load h, Store.mem_records, Store.record?_eq_some_iff] at hrecord
    obtain ⟨hash, -, -, rfl⟩ := hrecord
    exact (NameMap.pairwise_toList hash).imp compare_lt_iff_lt.1

/-- A load succeeds exactly if the store is available and neither the pattern of a table nor the key
of one of its hashes is failing. -/
theorem load_succeeds_iff {s : Store} (hs : s.database = .config) :
    (∃ snapshot, load s = .ok snapshot) ↔
      s.unavailable = false ∧
      (∀ scope : Scope, Database.config.recordKey scope.table "*" ∉ s.failing) ∧
      (∀ scope : Scope, ∀ key ∈ s.hashes,
        Text.startsWith (Database.config.recordKey scope.table "") key = true →
          key ∉ s.failing) := by
  have hfails : ∀ key, s.fails key = false ↔ s.unavailable = false ∧ key ∉ s.failing := by
    intro key
    rw [← Bool.not_eq_true, Store.fails_iff, not_or, Bool.not_eq_true]
  have hpattern : ∀ table, Database.config.recordKey table "" ++ "*" =
      Database.config.recordKey table "*" := by
    intro table
    apply String.toList_injective
    rw [Database.recordKey_eq_append _ table "*", String.toList_append]
  have hlead : ∀ table, s.tableLead table = Database.config.recordKey table "" := by
    intro table
    rw [Store.tableLead, hs]
  rw [exists_load_iff]
  simp only [Store.exists_table_iff, hlead, hpattern, hfails]
  constructor
  · intro h
    exact ⟨(h .global).1.1, fun scope => (h scope).1.2,
      fun scope key hkey hstart => ((h scope).2 key hkey hstart).2⟩
  · rintro ⟨havailable, hpatterns, hkeys⟩ scope
    exact ⟨⟨havailable, hpatterns scope⟩,
      fun key hkey hstart => ⟨havailable, hkeys scope key hkey hstart⟩⟩

end Snapshot

/-- The keys of a table whose name has no bar are no keys of the five tables, unless it is one of
them. -/
theorem Scope.recordKey_table_ne {table : String} (hbar : '|' ∉ table.toList)
    (htable : table ∉ Schema.managedTables) (key : String) (scope : Scope) (key' : String) :
    Database.config.recordKey table key ≠ Database.config.recordKey scope.table key' := by
  rw [ne_eq, Database.recordKey_eq_recordKey_iff hbar scope.bar_notMem_table]
  rintro ⟨rfl, -⟩
  exact htable (List.mem_map_of_mem scope.mem_all)

namespace Snapshot

section

variable {s s' : Store} (hs : s.database = .config)
include hs

/-- A key of one table has no part in another. -/
theorem table_of_change {scope other : Scope} {key : String}
    (h : s.SameBut (Database.config.recordKey scope.table key) s') {snapshot snapshot' : Snapshot}
    (hload : load s = .ok snapshot) (hload' : load s' = .ok snapshot') (hother : other ≠ scope) :
    snapshot'.table other = snapshot.table other := by
  rw [table_of_load hload, table_of_load hload']
  refine Store.records_congr h.faults.database fun otherKey => h.hashes _ fun heq => ?_
  rw [hs, Scope.recordKey_table_inj] at heq
  exact hother heq.1

/-- A change under a key of no managed table makes no difference to a load. -/
theorem load_of_foreign_change {changed : String} (h : s.SameBut changed s')
    (hchanged : ∀ (scope : Scope) key, changed ≠ Database.config.recordKey scope.table key) :
    load s' = load s := by
  refine load_congr h.faults ?_
  rintro key ⟨table, htable, hstart⟩
  obtain ⟨scope, -, rfl⟩ := List.mem_map.1 htable
  rw [Store.tableLead, hs, Database.startsWith_recordKey_iff] at hstart
  obtain ⟨recordKey, rfl⟩ := hstart
  exact h.hashes _ (hchanged scope recordKey).symm

end

/-- A load of the configuration database succeeds exactly if the store is available and neither
the pattern of a table nor a stored key of it fails. It then lists the five tables. A stored key is
the key of one record of one table at most, and what is stored under it has a part in that table
only. A key of another table is a key of none: whatever is stored under it, the load has the same
outcome. Nothing that loads changes the store. -/
theorem outcome_of_load {s : Store} (hs : s.database = .config) :
    ((∃ snapshot, load s = .ok snapshot) ↔
      s.unavailable = false ∧
      (∀ scope : Scope, Database.config.recordKey scope.table "*" ∉ s.failing) ∧
      (∀ scope : Scope, ∀ key ∈ s.hashes,
        Text.startsWith (Database.config.recordKey scope.table "") key = true →
          key ∉ s.failing)) ∧
    (∀ snapshot, load s = .ok snapshot → snapshot.Lists s) ∧
    (∀ (scope scope' : Scope) (key key' : String),
      Database.config.recordKey scope.table key = Database.config.recordKey scope'.table key' →
        scope = scope' ∧ key = key') ∧
    (∀ s' (scope : Scope) key, s.SameBut (Database.config.recordKey scope.table key) s' →
      ∀ snapshot snapshot', load s = .ok snapshot → load s' = .ok snapshot' →
        ∀ other, other ≠ scope → snapshot'.table other = snapshot.table other) ∧
    (∀ table, '|' ∉ table.toList → table ∉ Schema.managedTables →
      ∀ key (scope : Scope) key',
        Database.config.recordKey table key ≠ Database.config.recordKey scope.table key') ∧
    (∀ s' changed, s.SameBut changed s' →
      (∀ (scope : Scope) key, changed ≠ Database.config.recordKey scope.table key) →
        load s' = load s) ∧
    (∀ (m : Manager) dbs cancelDuringLoad, dbs.config = s →
      (m.run dbs cancelDuringLoad).databases.config = s) := by
  refine ⟨load_succeeds_iff hs, fun _ => lists_of_load hs, ?_, ?_, ?_, ?_, ?_⟩
  · intro scope scope' key key' heq
    exact Scope.recordKey_table_inj.1 heq
  · intro s' scope key h snapshot snapshot' hload hload' other hother
    exact table_of_change hs h hload hload' hother
  · intro table hbar htable key scope key'
    exact Scope.recordKey_table_ne hbar htable key scope key'
  · intro s' changed h hchanged
    exact load_of_foreign_change hs h hchanged
  · rintro m dbs cancelDuringLoad rfl
    obtain ⟨appl, hdatabases, -⟩ := m.exists_databases_run dbs cancelDuringLoad
    rw [hdatabases]

/-- A failing key of a table whose name ends like that of a loaded one is in no way of a load, and
neither is an empty record. -/
theorem outcome_of_load_beside_addresses :
    let record : Hash := Fields.toHash [("ue_enable", "true"), ("ip_versions", "6")]
    let s : Store := { Store.empty .config with
      hashes := NameMap.ofPairs [("UE_INTERFACE|Ethernet4", record), ("UE_INTERFACE|", record),
        ("UE_INTERFACE|Ethernet0", ∅), ("UE_INTERFACE_X|Ethernet0", record),
        ("INTERFACE|Ethernet0", record)]
      failing := (∅ : NameSet).insert "INTERFACE|Ethernet0" }
    let snapshot : Snapshot :=
      ⟨[], [], [("", record.toList), ("Ethernet4", record.toList)], [], []⟩
    s.database = .config ∧ load s = .ok snapshot ∧ snapshot.Lists s ∧
      ∀ scope : Scope, Database.config.recordKey scope.table "*" ∉ s.failing := by
  intro record s snapshot
  have hload : load s = .ok snapshot := by
    apply toOption_eq_some_iff.1
    decide +kernel
  have houtcome := @outcome_of_load s rfl
  exact ⟨rfl, hload, houtcome.2.1 snapshot hload, (houtcome.1.1 ⟨snapshot, hload⟩).2.1⟩

end Snapshot

end DualStack
