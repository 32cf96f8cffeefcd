import DualStack.Proofs.Loading
import DualStack.Proofs.Subscription
import Mathlib.Tactic.TFAE

/-!
# What is announced is what is loaded

Three parts of the daemon go by the start of a key, each in its own way: the load lists the keys
behind the lead of a table, the subscription asks the server for the channels that match a pattern,
and the event loop reads a table off the name of a channel. They agree on every key: what the one
reads the others hear of, under the name of the same table, and nothing else.
-/

set_option autoImplicit false

namespace DualStack

/-- Two stores of configuration with the same faults that differ in the hash under one key at
most. -/
structure Store.DifferAt (key : String) (s s' : Store) : Prop where
  database : s.database = .config
  faults : SameFaults s s'
  others : ∀ other, other ≠ key → s'.hashes[other]? = s.hashes[other]?

/-! ## The lead of a table -/

/-- The tables that are managed are those of the five scopes. -/
theorem Schema.exists_managedTables_iff {P : String → Prop} :
    (∃ table ∈ Schema.managedTables, P table) ↔ ∃ scope : Scope, P scope.table := by
  simp [Schema.managedTables, Scope.mem_all]

/-- The key of a record without a name is its table with a bar behind it. -/
theorem Database.recordKey_empty (table : String) :
    Database.config.recordKey table "" = table ++ "|" := by
  rw [← String.toList_inj, Database.toList_recordKey]
  simp [Database.separator]

/-- In the configuration database the keys of a table start with its name and a bar. -/
theorem Store.tableLead_config {s : Store} (hs : s.database = .config) (table : String) :
    s.tableLead table = table ++ "|" := by
  unfold Store.tableLead
  rw [hs, Database.recordKey_empty]

/-- A key starts with a table and a bar exactly if it is the key of one of its records. -/
theorem Text.startsWith_bar_iff {table key : String} :
    Text.startsWith (table ++ "|") key = true ↔
      ∃ name, key = Database.config.recordKey table name := by
  rw [← Database.recordKey_empty, Database.startsWith_recordKey_iff]

/-! ## The pattern -/

namespace Subscription

/-- The part of a pattern in front of its last star. -/
def beforeStar? (pattern : String) : Option String :=
  (Text.cutLast? '*' pattern).map Prod.fst

/-- The channel of a key starts as the pattern of a table asks for. -/
def Matches (databaseNumber : Nat) (table key : String) : Prop :=
  ∃ lead, beforeStar? (pattern databaseNumber table) = some lead ∧
    Text.startsWith lead (channel databaseNumber key) = true

/-- In front of the star, the pattern of a table is the channel of the start that its keys have. -/
theorem beforeStar?_pattern (databaseNumber : Nat) (table : String) :
    beforeStar? (pattern databaseNumber table) =
      some (channel databaseNumber (table ++ "|")) := by
  have hpattern : (pattern databaseNumber table).toList =
      (channel databaseNumber (table ++ "|")).toList ++ '*' :: [] := by
    rw [toList_channel]
    show (((("__keyspace@" ++ toString databaseNumber) ++ "__:") ++ table) ++ "|*").toList = _
    simp
  unfold beforeStar? Text.cutLast?
  rw [Text.cutLast_eq_some_iff.2 ⟨hpattern, by simp⟩]
  simp

/-- A channel starts with another exactly if its key does. -/
theorem startsWith_channel_iff (databaseNumber : Nat) (lead key : String) :
    Text.startsWith (channel databaseNumber lead) (channel databaseNumber key) = true ↔
      Text.startsWith lead key = true := by
  rw [Text.startsWith_iff, Text.startsWith_iff, toList_channel, toList_channel]
  simp only [List.prefix_append_right_inj]

/-- The channel of a key matches the pattern of a table exactly if the key starts with the table and
a bar. -/
theorem matches_iff (databaseNumber : Nat) (table key : String) :
    Matches databaseNumber table key ↔ Text.startsWith (table ++ "|") key = true := by
  unfold Matches
  rw [beforeStar?_pattern]
  simp [startsWith_channel_iff]

end Subscription

/-! ## The load -/

namespace Snapshot

/-- A load reads no key that is not behind the lead of a table. -/
theorem exists_scope_of_load_ne {key : String} {s s' : Store} (h : Store.DifferAt key s s')
    (hloads : load s' ≠ load s) :
    ∃ scope : Scope, Text.startsWith (scope.table ++ "|") key = true := by
  by_contra hnone
  refine hloads (load_congr h.faults fun other hother => h.others other ?_)
  rintro rfl
  obtain ⟨table, htable, hlead⟩ := hother
  obtain ⟨scope, -, rfl⟩ := List.mem_map.1 htable
  rw [Store.tableLead_config h.database] at hlead
  exact hnone ⟨scope, hlead⟩

/-- A record that is added to an empty store is loaded. -/
theorem exists_load_ne_of_startsWith {scope : Scope} {key : String}
    (h : Text.startsWith (scope.table ++ "|") key = true) :
    ∃ s s' snapshot snapshot', Store.DifferAt key s s' ∧ load s = .ok snapshot ∧
      load s' = .ok snapshot' ∧ snapshot' ≠ snapshot := by
  obtain ⟨name, rfl⟩ := Text.startsWith_bar_iff.1 h
  let s := Store.empty .config
  let s' : Store := { s with
    hashes := s.hashes.insert (Database.config.recordKey scope.table name)
      (Fields.toHash [("enable", "true")]) }
  have hfaults : Store.SameFaults s s' := ⟨rfl, rfl, rfl⟩
  have hs : s.Faultless := Store.faultless_empty .config
  obtain ⟨snapshot, hload⟩ := load_of_faultless hs
  obtain ⟨snapshot', hload'⟩ := load_of_faultless (hfaults.faultless hs)
  refine ⟨s, s', snapshot, snapshot', ⟨rfl, hfaults, fun other hother => ?_⟩, hload, hload', ?_⟩
  · rw [Std.ExtTreeMap.getElem?_insert, if_neg (by simpa using hother.symm)]
  · rintro rfl
    have hnone : Validation.lastRecord? (snapshot'.table scope) name = none :=
      lastRecord?_of_load hload scope name
    have hsome : Validation.lastRecord? (snapshot'.table scope) name =
        some [("enable", "true")] := by
      rw [lastRecord?_of_load hload']
      show ((s.hashes.insert (Database.config.recordKey scope.table name) _)[
        Database.config.recordKey scope.table name]?.map _).filter _ = _
      rw [Std.ExtTreeMap.getElem?_insert_self]
      rfl
    rw [hnone] at hsome
    cases hsome

end Snapshot

namespace Subscription

/-- A key is behind the lead of a table that is loaded, its channel matches the pattern of that
table, and that table is read off its channel, all of them together or none. The keys that are
announced under the name of a table that the manager reads are those that can change the result of a
load, and each of them can change the snapshot. -/
theorem announced_as_loaded (databaseNumber : Nat) (key : String) :
    (∀ scope : Scope, List.TFAE [
      Text.startsWith (scope.table ++ "|") key = true,
      Matches databaseNumber scope.table key,
      tableOf? (channel databaseNumber key) = some scope.table]) ∧
    List.TFAE [
      ∃ scope : Scope, Text.startsWith (scope.table ++ "|") key = true,
      ∃ table ∈ Schema.managedTables, Matches databaseNumber table key,
      ∃ table ∈ Schema.managedTables, tableOf? (channel databaseNumber key) = some table,
      ∃ s s', Store.DifferAt key s s' ∧ Snapshot.load s' ≠ Snapshot.load s,
      ∃ s s' snapshot snapshot', Store.DifferAt key s s' ∧ Snapshot.load s = .ok snapshot ∧
        Snapshot.load s' = .ok snapshot' ∧ snapshot' ≠ snapshot] := by
  have hname : ∀ scope : Scope,
      tableOf? (channel databaseNumber key) = some scope.table ↔
        Text.startsWith (scope.table ++ "|") key = true := by
    intro scope
    have htable : scope.table ∈ Schema.managedTables := List.mem_map_of_mem (Scope.mem_all scope)
    rw [tableOf?_channel_eq_some_iff databaseNumber htable, Database.recordKey_empty]
  constructor
  · intro scope
    tfae_have 2 ↔ 1 := matches_iff databaseNumber scope.table key
    tfae_have 3 ↔ 1 := hname scope
    tfae_finish
  · simp only [Schema.exists_managedTables_iff]
    tfae_have 2 ↔ 1 := exists_congr fun scope => matches_iff databaseNumber scope.table key
    tfae_have 3 ↔ 1 := exists_congr hname
    tfae_have 4 → 1 := fun ⟨_, _, h, hloads⟩ => Snapshot.exists_scope_of_load_ne h hloads
    tfae_have 1 → 5 := fun ⟨_, hlead⟩ => Snapshot.exists_load_ne_of_startsWith hlead
    tfae_have 5 → 4 := by
      rintro ⟨s, s', snapshot, snapshot', h, hload, hload', hne⟩
      refine ⟨s, s', h, fun hsame => hne ?_⟩
      exact Except.ok.inj (hload'.symm.trans (hsame.trans hload))
    tfae_finish

end Subscription

end DualStack
