import DualStack.Proofs.LoadOutcome
import DualStack.Proofs.StoreHistory
import Mathlib.Data.List.Sort

/-!
# A table after one of its entries is set

An entry of a table is set by replacing the hash under one key of the store. A table lists its
records in the order of the store keys, which for keys of one table is the order of the record keys,
so the entry leaves the list where its key stood and comes in again where its key belongs. A store
key with the name of a table in front of its first separator is no key of another table, and hence
entries that are set in different places do not disturb each other.
-/

set_option autoImplicit false

namespace DualStack

/-! ## What is expected -/

/-- The fields by name, each name once with its last value. -/
structure Fields.LastByName (fields listed : Fields) : Prop where
  ascending : listed.Pairwise fun a b => a.1 < b.1
  mem_iff : ∀ name value, (name, value) ∈ listed ↔ fields.value? name = some value

/-- A table without the record of a key. -/
def Table.without (table : Table) (key : String) : Table :=
  table.filter fun record => record.1 ≠ key

/-- A table with a record put at its place in the order of the keys. -/
def Table.placed (table : Table) (record : String × Fields) : Table :=
  table.orderedInsert (fun a b => a.1 ≤ b.1) record

/-- The hash of fields lists them by name, each with its last value. -/
theorem Fields.lastByName_toHash (fields : Fields) : fields.LastByName fields.toHash.toList where
  ascending := (NameMap.pairwise_toList _).imp compare_lt_iff_lt.1
  mem_iff name value := by
    rw [Std.ExtTreeMap.mem_toList_iff_getElem?_eq_some, getElem?_toHash]

namespace Table

variable {table : Table} {key : String}

/-- A table without a key has the records of all other keys. -/
theorem mem_without {record : String × Fields} :
    record ∈ table.without key ↔ record ∈ table ∧ record.1 ≠ key := by
  simp [without]

/-- A table stays in order when the records of a key are left out. -/
theorem ascending_without (h : table.Pairwise fun a b => a.1 < b.1) (key : String) :
    (table.without key).Pairwise fun a b => a.1 < b.1 :=
  h.filter _

/-- A table with a record placed has this record and those from before. -/
theorem mem_placed {record new : String × Fields} :
    record ∈ table.placed new ↔ record = new ∨ record ∈ table := by
  unfold placed
  rw [List.mem_orderedInsert]

/-- A table stays in order when a record of a new key is placed. -/
theorem ascending_placed (h : table.Pairwise fun a b => a.1 < b.1) {new : String × Fields}
    (hnew : ∀ record ∈ table, record.1 ≠ new.1) :
    (table.placed new).Pairwise fun a b => a.1 < b.1 := by
  induction table with
  | nil => exact List.pairwise_singleton _ _
  | cons first rest ih =>
    obtain ⟨hfirst, hrest⟩ := List.pairwise_cons.1 h
    obtain ⟨hother, hothers⟩ := List.forall_mem_cons.1 hnew
    unfold placed
    rw [List.orderedInsert]
    split
    · next hle =>
      have hlt : new.1 < first.1 := lt_of_le_of_ne hle hother.symm
      refine List.pairwise_cons.2 ⟨List.forall_mem_cons.2 ⟨hlt, fun record hrecord => ?_⟩, h⟩
      exact hlt.trans (hfirst record hrecord)
    · next hle =>
      refine List.pairwise_cons.2 ⟨fun record hrecord => ?_, ih hrest hothers⟩
      rcases mem_placed.1 hrecord with rfl | hrecord
      · exact lt_of_not_ge hle
      · exact hfirst record hrecord

end Table

/-! ## One entry -/

namespace Store

variable {s : Store}

/-- The store with an entry of a table set. -/
def withEntry (s : Store) (table key : String) (fields : Fields) : Store :=
  s.effect (.replace (s.database.recordKey table key) fields)

/-- Setting an entry fails exactly if operations on its store key do. -/
theorem setEntry_eq (s : Store) (table key : String) (fields : Fields) :
    s.setEntry table key fields =
      if s.fails (s.database.recordKey table key) then
        .error (s.failure .del (s.database.recordKey table key))
      else .ok (s.withEntry table key fields) := by
  unfold setEntry
  rw [replace_eq]
  rfl

/-- On a store without faults an entry is set. -/
theorem setEntry_of_faultless (hs : s.Faultless) (table key : String) (fields : Fields) :
    s.setEntry table key fields = .ok (s.withEntry table key fields) := by
  rw [setEntry_eq, hs]
  rfl

/-- Setting an entry leaves the faults of a store. -/
theorem sameFaults_withEntry (s : Store) (table key : String) (fields : Fields) :
    s.SameFaults (s.withEntry table key fields) :=
  ⟨rfl, rfl, rfl⟩

/-- On a store without faults a table is read as the records of the store. -/
theorem table_of_faultless (hs : s.Faultless) (name : String) :
    s.table name = .ok (s.records name) := by
  obtain ⟨found, hfound⟩ := (exists_table_iff s name).2 ⟨hs _, fun key _ _ => hs key⟩
  rw [hfound, table_eq_ok hfound]

/-- Under the key of an entry there are its fields, or nothing if it has none; under every other
key there is what there was. -/
theorem getElem?_hashes_withEntry (table key : String) (fields : Fields) (storeKey : String) :
    (s.withEntry table key fields).hashes[storeKey]? =
      if storeKey = s.database.recordKey table key then
        (if fields = [] then none else some fields.toHash)
      else s.hashes[storeKey]? := by
  split
  · next heq =>
    subst heq
    cases fields <;> simp [withEntry, effect]
  · next hne => exact getElem?_hashes_effect fun heq => hne (Option.some.inj heq).symm

/-- After an entry is set, its key has the record of its fields, or none if they are empty, and
every other key has what it had. -/
theorem record?_withEntry (table key : String) (fields : Fields) (table' key' : String) :
    (s.withEntry table key fields).record? table' key' =
      if s.database.recordKey table' key' = s.database.recordKey table key then
        (if fields = [] then none else some fields.toHash.toList)
      else s.record? table' key' := by
  show (((s.withEntry table key fields).hashes[s.database.recordKey table' key']?).map _).filter _
    = _
  rw [getElem?_hashes_withEntry]
  split
  · by_cases hfields : fields = []
    · simp [hfields]
    · have hlist : fields.toHash.toList ≠ [] := fun hnil =>
        Fields.toHash_ne_empty hfields (Std.ExtTreeMap.toList_eq_nil_iff.1 hnil)
      simpa [hfields] using hlist
  · rfl

/-- The records of the table that an entry is set in. -/
theorem records_withEntry (table key : String) (fields : Fields) :
    (s.withEntry table key fields).records table =
      if fields = [] then Table.without (s.records table) key
      else (Table.without (s.records table) key).placed (key, fields.toHash.toList) := by
  have hbefore := Table.ascending_without (s.ascending_records table) key
  have hafter := (s.withEntry table key fields).ascending_records table
  -- both lists are in strict order of the keys, so it is enough to compare their members
  split
  · next hfields =>
    refine hafter.eq_of_mem_iff hbefore fun ⟨key', fields'⟩ => ?_
    rw [mem_records, record?_withEntry, Table.mem_without, mem_records, if_pos hfields]
    by_cases hkey : key' = key <;> simp [hkey, Database.recordKey_inj]
  · next hfields =>
    have hothers : ∀ record ∈ Table.without (s.records table) key, record.1 ≠ key :=
      fun record hrecord => (Table.mem_without.1 hrecord).2
    refine hafter.eq_of_mem_iff (Table.ascending_placed hbefore hothers)
      fun ⟨key', fields'⟩ => ?_
    rw [mem_records, record?_withEntry, Table.mem_placed, Table.mem_without, mem_records,
      if_neg hfields]
    by_cases hkey : key' = key
    · simp [hkey, eq_comm]
    · simp [hkey, Database.recordKey_inj]

/-- The records of another table are as before. -/
theorem records_withEntry_of_ne {table other : String} (hne : other ≠ table)
    (htable : s.database.separator ∉ table.toList) (hother : s.database.separator ∉ other.toList)
    (key : String) (fields : Fields) :
    (s.withEntry table key fields).records other = s.records other := by
  refine records_congr rfl fun key' => ?_
  rw [getElem?_hashes_withEntry, if_neg fun heq => hne ?_]
  exact ((Database.recordKey_eq_recordKey_iff hother htable).1 heq).1

/-- Entries that are set under different store keys can be set in either order. -/
theorem withEntry_comm {table key other key' : String}
    (hne : s.database.recordKey table key ≠ s.database.recordKey other key')
    (fields fields' : Fields) :
    (s.withEntry table key fields).withEntry other key' fields' =
      (s.withEntry other key' fields').withEntry table key fields := by
  have hhashes : ((s.withEntry table key fields).withEntry other key' fields').hashes =
      ((s.withEntry other key' fields').withEntry table key fields).hashes := by
    refine Std.ExtTreeMap.ext_getElem? fun storeKey => ?_
    simp only [getElem?_hashes_withEntry]
    show (if storeKey = s.database.recordKey other key' then _ else _) =
      if storeKey = s.database.recordKey table key then _ else _
    grind
  exact congrArg (fun hashes => { s with hashes := hashes }) hhashes

/-- After an entry of a table is set, the table is as before but for the entry: the record of its
key is gone from its place, and if the entry has fields, they are listed by name, each with its last
value, at the place of the key. Where the names of tables have no separator in them, no other table
is changed, and entries in different places can be set in either order. -/
theorem table_after_setEntry (hs : s.Faultless) (table key : String) (fields : Fields) :
    ∃ after before listed, s.setEntry table key fields = .ok after ∧
      s.table table = .ok before ∧ fields.LastByName listed ∧
      after.table table = .ok
        (if fields = [] then before.without key else (before.without key).placed (key, listed)) ∧
      ∀ other, s.database.separator ∉ table.toList → s.database.separator ∉ other.toList →
        (other ≠ table → after.table other = s.table other) ∧
        ∀ key' fields', (other, key') ≠ (table, key) → ∃ both,
          (s.setEntry table key fields >>= fun one => one.setEntry other key' fields') = .ok both ∧
          (s.setEntry other key' fields' >>= fun one => one.setEntry table key fields) =
            .ok both := by
  have hset : ∀ {s : Store}, s.Faultless → ∀ table key fields,
      (s.withEntry table key fields).Faultless :=
    fun hs table key fields => (sameFaults_withEntry _ table key fields).faultless hs
  have hafter := hset hs table key fields
  refine ⟨s.withEntry table key fields, s.records table, fields.toHash.toList,
    setEntry_of_faultless hs table key fields, table_of_faultless hs table,
    fields.lastByName_toHash, ?_, fun other htable hother => ⟨fun hne => ?_, ?_⟩⟩
  · rw [table_of_faultless hafter, records_withEntry]
  · rw [table_of_faultless hafter, table_of_faultless hs,
      records_withEntry_of_ne hne htable hother]
  · intro key' fields' hplace
    have hkeys : s.database.recordKey table key ≠ s.database.recordKey other key' := by
      rw [ne_eq, Database.recordKey_eq_recordKey_iff htable hother]
      rintro ⟨rfl, rfl⟩
      exact hplace rfl
    refine ⟨(s.withEntry table key fields).withEntry other key' fields', ?_, ?_⟩
    · rw [setEntry_of_faultless hs]
      exact setEntry_of_faultless hafter other key' fields'
    · rw [setEntry_of_faultless hs, withEntry_comm hkeys]
      exact setEntry_of_faultless (hset hs other key' fields') table key fields

/-- A record key with the separator in it, between two others of which one ends in a star, and a
name that is given twice. -/
theorem table_after_entry_between :
    let s : Store := { Store.empty .appl with
      hashes := NameMap.ofPairs [("T:v4:c", Fields.toHash [("x", "1")]),
        ("T:v4:a*", Fields.toHash [("x", "2")]), ("T:v4:b", Fields.toHash [("old", "3")]),
        ("T", Fields.toHash [("x", "4")]), ("T2:v4:b", Fields.toHash [("x", "5")])] }
    let fields : Fields := [("y", "6"), ("x", "7"), ("y", "8")]
    s.Faultless ∧ ∃ after before listed, s.setEntry "T" "v4:b" fields = .ok after ∧
      s.table "T" = .ok before ∧ fields.LastByName listed ∧
      after.table "T" = .ok ((before.without "v4:b").placed ("v4:b", listed)) ∧
      after.table "T2" = s.table "T2" ∧
      after.table "T" = .ok [("v4:a*", [("x", "2")]), ("v4:b", [("x", "7"), ("y", "8")]),
        ("v4:c", [("x", "1")])] := by
  intro s fields
  have hs : s.Faultless := faultless_empty .appl
  obtain ⟨after, before, listed, hset, hbefore, hlisted, hafter, hothers⟩ :=
    table_after_setEntry hs "T" "v4:b" fields
  have hread : (s.setEntry "T" "v4:b" fields >>= fun after => after.table "T") =
      .ok [("v4:a*", [("x", "2")]), ("v4:b", [("x", "7"), ("y", "8")]),
        ("v4:c", [("x", "1")])] := by
    apply toOption_eq_some_iff.1
    decide +kernel
  rw [hset] at hread
  exact ⟨hs, after, before, listed, hset, hbefore, hlisted, hafter,
    (hothers "T2" (by decide) (by decide)).1 (by decide), hread⟩

end Store

end DualStack
