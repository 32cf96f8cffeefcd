import DualStack.Config.Snapshot

/-!
# What the operations of a store do

Each operation of a store looks at the faults of the store and at one key. This module says when
an operation fails, what a replaced hash leaves behind, and on which keys a table and the whole
configuration depend: reading a table looks at the hashes whose keys start with the lead of the
table, and at no others.
-/

set_option autoImplicit false

namespace DualStack

/-- A chain of two steps that succeeds has a first step that succeeds and a second that does so with
its result. -/
theorem exists_of_bind_eq_ok {ε α β : Type} {x : Except ε α} {f : α → Except ε β} {b : β}
    (h : x >>= f = .ok b) : ∃ a, x = .ok a ∧ f a = .ok b := by
  cases hx : x with
  | error e =>
    rw [hx] at h
    cases h
  | ok a =>
    rw [hx] at h
    exact ⟨a, rfl, h⟩

/-- A chain of two steps that fails fails in the first step, or in the second with the result of the
first. -/
theorem of_bind_eq_error {ε α β : Type} {x : Except ε α} {f : α → Except ε β} {e : ε}
    (h : x >>= f = .error e) : x = .error e ∨ ∃ a, x = .ok a ∧ f a = .error e := by
  cases hx : x with
  | error e' =>
    rw [hx] at h
    cases h
    exact .inl rfl
  | ok a =>
    rw [hx] at h
    exact .inr ⟨a, rfl, h⟩

/-- What succeeds after its errors are reworded has succeeded before. -/
theorem eq_ok_of_mapError_eq_ok {ε ε' α : Type} {x : Except ε α} {f : ε → ε'} {a : α}
    (h : x.mapError f = .ok a) : x = .ok a := by
  cases x with
  | error e => cases h
  | ok b =>
    cases h
    rfl

/-- A mapped result that succeeds comes from a result that does. -/
theorem exists_of_map_eq_ok {ε α β : Type} {x : Except ε α} {f : α → β} {b : β}
    (h : f <$> x = .ok b) : ∃ a, x = .ok a ∧ f a = b := by
  cases x with
  | error e => cases h
  | ok a => exact ⟨a, rfl, Except.ok.inj h⟩

/-- There is no scope besides those that are listed. -/
theorem Scope.mem_all (scope : Scope) : scope ∈ Scope.all := by
  cases scope <;> decide

namespace NameMap

variable {α : Type} {m : NameMap α} {pairs : List (String × α)} {name : String}

/-- Pairs in two parts may be inserted one part after the other. -/
theorem insertAll_append (m : NameMap α) (pairs pairs' : List (String × α)) :
    insertAll m (pairs ++ pairs') = insertAll (insertAll m pairs) pairs' :=
  List.foldl_append

/-- Inserting pairs of other names leaves what a name has. -/
theorem getElem?_insertAll_of_forall_ne (h : ∀ pair ∈ pairs, pair.1 ≠ name) :
    (insertAll m pairs)[name]? = m[name]? := by
  have hnone : pairs.reverse.find? (·.1 == name) = none := by
    simpa using h
  rw [getElem?_insertAll, hnone]
  rfl

/-- If no pair comes later with the name of a pair, that pair counts. -/
theorem getElem?_insertAll_of_last {a : α} {pairs' : List (String × α)}
    (h : ∀ pair ∈ pairs', pair.1 ≠ name) :
    (insertAll m (pairs ++ (name, a) :: pairs'))[name]? = some a := by
  have hstep : insertAll m (pairs ++ (name, a) :: pairs') =
      insertAll ((insertAll m pairs).insert name a) pairs' := by
    rw [insertAll_append]
    rfl
  rw [hstep, getElem?_insertAll_of_forall_ne h, Std.ExtTreeMap.getElem?_insert_self]

/-- Among pairs of distinct names each one counts. -/
theorem getElem?_insertAll_of_mem (hpairs : pairs.Pairwise fun a b => a.1 ≠ b.1) {a : α}
    (h : (name, a) ∈ pairs) : (insertAll m pairs)[name]? = some a := by
  obtain ⟨before, after, rfl⟩ := List.append_of_mem h
  refine getElem?_insertAll_of_last fun pair hpair => ?_
  exact ((List.pairwise_cons.1 (List.pairwise_append.1 hpairs).2.1).1 pair hpair).symm

/-- A name is in the map after pairs are inserted exactly if it was before or is the name of a
pair. -/
theorem mem_insertAll : name ∈ insertAll m pairs ↔ name ∈ m ∨ ∃ pair ∈ pairs, pair.1 = name := by
  rw [Std.ExtTreeMap.mem_iff_isSome_getElem?, Std.ExtTreeMap.mem_iff_isSome_getElem?,
    getElem?_insertAll, Option.isSome_or, Option.isSome_map, Bool.or_eq_true, List.find?_isSome,
    or_comm]
  simp

/-- Maps that agree on the names that pass a test list the same pairs under these names. -/
theorem filter_toList_congr {m' : NameMap α} (p : String → Bool)
    (h : ∀ name, p name = true → m'[name]? = m[name]?) :
    (m'.toList.filter fun pair => p pair.1) = m.toList.filter fun pair => p pair.1 := by
  have hfilter : (m'.filter fun name _ => p name) = m.filter fun name _ => p name := by
    apply Std.ExtTreeMap.ext_getElem?
    intro name
    rw [Std.ExtTreeMap.getElem?_filter', Std.ExtTreeMap.getElem?_filter']
    cases hp : p name with
    | true => rw [h name hp]
    | false => simp
  have hlist := congrArg Std.ExtTreeMap.toList hfilter
  rwa [Std.ExtTreeMap.toList_filter, Std.ExtTreeMap.toList_filter] at hlist

/-- A map lists one pair of a name that has a value and none of another. -/
theorem filter_toList_eq (m : NameMap α) (name : String) :
    (m.toList.filter fun pair => pair.1 == name) = m[name]?.toList.map fun a => (name, a) := by
  have hsame : ∀ m' : NameMap α, m[name]? = m'[name]? →
      (m.toList.filter fun pair => pair.1 == name) =
        m'.toList.filter fun pair => pair.1 == name := by
    intro m' hname
    refine filter_toList_congr (· == name) fun other hother => ?_
    rwa [beq_iff_eq.1 hother]
  cases hname : m[name]? with
  | none =>
    rw [hsame ∅ (by simp [hname])]
    simp
  | some a =>
    have hone : ((∅ : NameMap α).insert name a).toList = [(name, a)] := rfl
    rw [hsame ((∅ : NameMap α).insert name a) (by simp [hname]), hone]
    simp

end NameMap

namespace Fields

/-- Fields that are not empty make a hash that is not. -/
theorem toHash_ne_empty {fields : Fields} (h : fields ≠ []) : fields.toHash ≠ ∅ := by
  cases fields with
  | nil => exact absurd rfl h
  | cons pair rest =>
    intro hempty
    have hmem : pair.1 ∈ toHash (pair :: rest) :=
      NameMap.mem_insertAll.2 (.inr ⟨pair, List.mem_cons_self, rfl⟩)
    rw [hempty] at hmem
    exact Std.ExtTreeMap.not_mem_empty hmem

end Fields

namespace Text

/-- A text starts with another exactly if that is a prefix of its characters. -/
theorem startsWith_iff {lead s : String} :
    startsWith lead s = true ↔ lead.toList <+: s.toList := by
  unfold startsWith
  rw [Option.isSome_iff_exists]
  constructor
  · rintro ⟨rest, hrest⟩
    exact ⟨rest, (after?_eq_some_iff.1 hrest).symm⟩
  · rintro ⟨rest, hrest⟩
    exact ⟨rest, after?_eq_some_iff.2 hrest.symm⟩

/-- Something is left behind a start exactly if the text starts with it. -/
theorem isSome_rest? (lead s : String) : (rest? lead s).isSome = startsWith lead s := by
  simp [rest?, startsWith]

end Text

/-! ## Keys of tables -/

namespace Database

/-- The key of a record is its table, the separator of the database and its name, character by
character. -/
@[simp]
theorem toList_recordKey (database : Database) (table key : String) :
    (database.recordKey table key).toList =
      table.toList ++ database.separator :: key.toList := by
  have hsep : (toString database.separator).toList = [database.separator] := by
    cases database <;> rfl
  show ((table ++ toString database.separator) ++ key).toList = _
  simp [hsep]

/-- Within a table, records of different names have different keys. -/
theorem recordKey_inj {database : Database} {table key key' : String} :
    database.recordKey table key = database.recordKey table key' ↔ key = key' := by
  constructor
  · intro h
    have hlist := congrArg String.toList h
    rw [toList_recordKey, toList_recordKey, List.append_cancel_left_eq, List.cons.injEq] at hlist
    exact String.toList_injective hlist.2
  · rintro rfl
    rfl

/-- Of two separators in a key, either may stand behind the name of the table. -/
theorem recordKey_assoc (database : Database) (table key rest : String) :
    database.recordKey (database.recordKey table key) rest =
      database.recordKey table (database.recordKey key rest) := by
  apply String.toList_injective
  simp

/-- The key of a record starts as the keys of its table do. -/
theorem startsWith_recordKey (database : Database) (table key : String) :
    Text.startsWith (database.recordKey table "") (database.recordKey table key) = true := by
  rw [Text.startsWith_iff, toList_recordKey, toList_recordKey]
  exact ⟨key.toList, by simp⟩

end Database

namespace Store

/-! ## Faults -/

/-- Whether operations on a key, a key pattern or a channel fail. -/
def fails (s : Store) (key : String) : Bool :=
  s.unavailable || s.failing.contains key

/-- Operations on a key fail exactly if the store is unavailable or the key is a failing one. -/
theorem fails_iff {s : Store} {key : String} :
    s.fails key = true ↔ s.unavailable = true ∨ key ∈ s.failing := by
  rw [fails, Bool.or_eq_true, Std.ExtTreeSet.contains_iff_mem]

/-- The failure of an operation, of a key on which operations fail. -/
def failure (s : Store) (operation : Operation) (key : String) : Failure :=
  .database operation.name
    (if s.unavailable then "store unavailable" else s!"injected failure for {key}")

/-- No operation on the store fails. -/
def Faultless (s : Store) : Prop :=
  ∀ key, s.fails key = false

/-- An empty store has no faults. -/
theorem faultless_empty (database : Database) : (empty database).Faultless := by
  intro key
  simp [empty, fails]

/-- Two stores of one database with the same faults. -/
structure SameFaults (s s' : Store) : Prop where
  database : s'.database = s.database
  unavailable : s'.unavailable = s.unavailable
  failing : s'.failing = s.failing

/-- A store has its own faults. -/
theorem SameFaults.refl (s : Store) : SameFaults s s := ⟨rfl, rfl, rfl⟩

/-- With the same faults, operations fail on the same keys. -/
theorem SameFaults.fails_eq {s s' : Store} (h : SameFaults s s') (key : String) :
    s'.fails key = s.fails key := by
  simp only [fails, h.unavailable, h.failing]

/-- With the same faults, an operation on a key has the same failure. -/
theorem SameFaults.failure_eq {s s' : Store} (h : SameFaults s s') (operation : Operation)
    (key : String) : s'.failure operation key = s.failure operation key := by
  simp only [failure, h.unavailable]

/-- With the same faults, a store is without faults if the other is. -/
theorem SameFaults.faultless {s s' : Store} (h : SameFaults s s') (hs : s.Faultless) :
    s'.Faultless := by
  intro key
  rw [h.fails_eq]
  exact hs key

/-- The fault of an operation in closed form: its failure if its key fails, and none otherwise. -/
theorem fault?_eq (s : Store) (operation : Operation) (key : String) :
    s.fault? operation key =
      if s.fails key then some (s.failure operation key) else none := by
  unfold fault? fails failure
  cases s.unavailable <;> simp

/-- An operation succeeds exactly if its key does not fail. -/
theorem guarded_eq {α : Type} (s : Store) (operation : Operation) (key : String) (result : α) :
    s.guarded operation key result =
      if s.fails key then .error (s.failure operation key) else .ok result := by
  unfold guarded
  rw [fault?_eq]
  cases s.fails key <;> rfl

/-! ## Writing -/

/-- On a store without faults fields are set. -/
theorem hset_of_faultless {s : Store} (hs : s.Faultless) (key : String) (fields : Fields) :
    s.hset key fields = .ok { s with
      hashes := s.hashes.insert key (NameMap.insertAll (s.hashes[key]?.getD ∅) fields) } := by
  unfold hset
  rw [guarded_eq, hs key]
  rfl

/-- On a store without faults a key is removed. -/
theorem del_of_faultless {s : Store} (hs : s.Faultless) (key : String) :
    s.del key = .ok { s with hashes := s.hashes.erase key } := by
  unfold del
  rw [guarded_eq, hs key]
  rfl

/-- A hash that is filled right after its removal holds the given fields and no others. -/
theorem insert_insertAll_erase (hashes : NameMap Hash) (key : String) (fields : Fields) :
    (hashes.erase key).insert key (NameMap.insertAll ((hashes.erase key)[key]?.getD ∅) fields) =
      hashes.insert key fields.toHash := by
  apply Std.ExtTreeMap.ext_getElem?
  intro k
  rw [Std.ExtTreeMap.getElem?_erase_self, Option.getD_none, insertAll_empty]
  simp only [Std.ExtTreeMap.getElem?_insert, Std.ExtTreeMap.getElem?_erase]
  split <;> rfl

/-- Replacing a hash fails as its removal does and then changes nothing; otherwise nothing of the
older hash is left. -/
theorem replace_eq (s : Store) (key : String) (fields : Fields) :
    s.replace key fields =
      if s.fails key then .error (s.failure .del key)
      else .ok { s with
        hashes := if fields.isEmpty then s.hashes.erase key
          else s.hashes.insert key fields.toHash } := by
  unfold replace del
  rw [guarded_eq]
  cases hfails : s.fails key with
  | true => rfl
  | false =>
    have hcleared : fails { s with hashes := s.hashes.erase key } key = false := hfails
    cases hempty : fields.isEmpty with
    | true => rfl
    | false =>
      show hset { s with hashes := s.hashes.erase key } key fields = _
      unfold hset
      rw [guarded_eq, hcleared, insert_insertAll_erase]
      rfl

/-! ## Reading tables -/

/-- The pattern of a table matches the keys that start with its lead. -/
theorem keyMatches_lead (lead key : String) :
    keyMatches (lead ++ "*") key = Text.startsWith lead key := by
  have hlist : (lead ++ "*").toList = lead.toList ++ ['*'] := by simp
  unfold keyMatches Text.startsWith
  rw [hlist]
  simp

/-- Maps that agree on the names that pass a test have the same names among these. -/
theorem filter_keys_congr {α : Type} {m m' : NameMap α} (p : String → Bool)
    (h : ∀ key, p key = true → m'[key]? = m[key]?) : m'.keys.filter p = m.keys.filter p := by
  have hpairs := NameMap.filter_toList_congr p h
  rw [← Std.ExtTreeMap.map_fst_toList_eq_keys, ← Std.ExtTreeMap.map_fst_toList_eq_keys,
    List.filter_map, List.filter_map]
  exact congrArg (List.map Prod.fst) hpairs

/-- Records are read alike from stores with the same faults and the same hashes under the keys of
the table. -/
theorem readRecords_congr {s s' : Store} (hs : SameFaults s s') (lead : String)
    (h : ∀ key, Text.startsWith lead key = true → s'.hashes[key]? = s.hashes[key]?)
    (keys : List String) : s'.readRecords lead keys = s.readRecords lead keys := by
  induction keys with
  | nil => rfl
  | cons key keys ih =>
    unfold readRecords
    cases hrest : Text.rest? lead key with
    | none => exact ih
    | some rest =>
      have hstart : Text.startsWith lead key = true := by
        rw [← Text.isSome_rest?, hrest]
        rfl
      have hread : s'.hgetall key = s.hgetall key := by
        unfold hgetall
        rw [guarded_eq, guarded_eq, hs.fails_eq, hs.failure_eq, h key hstart]
      simp only [hread, ih]

/-- A table depends only on the hashes whose keys start with its lead. -/
theorem table_congr {s s' : Store} (hs : SameFaults s s') (name : String)
    (h : ∀ key, Text.startsWith (s.tableLead name) key = true →
      s'.hashes[key]? = s.hashes[key]?) : s'.table name = s.table name := by
  have hlead : s'.tableLead name = s.tableLead name := by
    unfold tableLead
    rw [hs.database]
  have hkeys : s'.keys (s.tableLead name ++ "*") = s.keys (s.tableLead name ++ "*") := by
    unfold keys
    rw [guarded_eq, guarded_eq, hs.fails_eq, hs.failure_eq, filter_keys_congr]
    intro key hkey
    rw [keyMatches_lead] at hkey
    exact h key hkey
  unfold table
  simp only [hlead, hkeys, readRecords_congr hs (s.tableLead name) h]

/-- Records can be read exactly if no key among them fails. -/
theorem exists_readRecords_iff (s : Store) (lead : String) (keys : List String) :
    (∃ found, s.readRecords lead keys = .ok found) ↔
      ∀ key ∈ keys, Text.startsWith lead key = true → s.fails key = false := by
  induction keys with
  | nil => simp [readRecords]
  | cons key keys ih =>
    unfold readRecords
    rw [List.forall_mem_cons, ← ih]
    cases hrest : Text.rest? lead key with
    | none =>
      -- a key of another table is passed over, so its faults do not matter
      have hstart : Text.startsWith lead key = false := by
        rw [← Text.isSome_rest?, hrest]
        rfl
      simp [hstart]
    | some recordKey =>
      have hstart : Text.startsWith lead key = true := by
        rw [← Text.isSome_rest?, hrest]
        rfl
      simp only [hstart, true_implies]
      constructor
      · rintro ⟨found, hfound⟩
        obtain ⟨fields, hread, hfound⟩ := exists_of_bind_eq_ok hfound
        obtain ⟨records, hrecords, -⟩ := exists_of_bind_eq_ok hfound
        refine ⟨?_, records, hrecords⟩
        unfold hgetall at hread
        rw [guarded_eq] at hread
        cases hfails : s.fails key with
        | true =>
          rw [hfails] at hread
          cases hread
        | false => rfl
      · rintro ⟨hfails, records, hrecords⟩
        have hread : s.hgetall key = .ok (s.hashes[key]?.getD ∅).toList := by
          unfold hgetall
          rw [guarded_eq, hfails]
          rfl
        rw [hread, hrecords]
        exact ⟨_, rfl⟩

/-- A table can be read exactly if neither the pattern of its keys fails nor a key that is there. -/
theorem exists_table_iff (s : Store) (name : String) :
    (∃ found, s.table name = .ok found) ↔
      s.fails (s.tableLead name ++ "*") = false ∧
        ∀ key ∈ s.hashes, Text.startsWith (s.tableLead name) key = true → s.fails key = false := by
  have hmatched : (∀ key ∈ s.hashes.keys.filter (keyMatches (s.tableLead name ++ "*")),
      Text.startsWith (s.tableLead name) key = true → s.fails key = false) ↔
        ∀ key ∈ s.hashes, Text.startsWith (s.tableLead name) key = true → s.fails key = false := by
    simp only [List.mem_filter, Std.ExtTreeMap.mem_keys, keyMatches_lead]
    exact ⟨fun h key hkey hstart => h key ⟨hkey, hstart⟩ hstart,
      fun h key hkey hstart => h key hkey.1 hstart⟩
  rw [← hmatched, ← exists_readRecords_iff]
  unfold table keys
  simp only [guarded_eq]
  cases s.fails (s.tableLead name ++ "*") with
  | true =>
    constructor
    · rintro ⟨found, ⟨⟩⟩
    · rintro ⟨⟨⟩, -⟩
  | false => simp [bind, Except.bind]

end Store

/-! ## Loading the configuration -/

namespace Snapshot

/-- A load depends only on the hashes whose keys start with the lead of a managed table. -/
theorem load_congr {s s' : Store} (hs : Store.SameFaults s s')
    (h : ∀ key, (∃ name ∈ Schema.managedTables, Text.startsWith (s.tableLead name) key = true) →
      s'.hashes[key]? = s.hashes[key]?) : load s' = load s := by
  have htable : ∀ scope : Scope, s'.table scope.table = s.table scope.table := by
    intro scope
    apply Store.table_congr hs
    intro key hkey
    exact h key ⟨scope.table, List.mem_map_of_mem (Scope.mem_all scope), hkey⟩
  unfold load
  simp only [htable]

/-- A load succeeds exactly if each of the five tables can be read. -/
theorem exists_load_iff (s : Store) :
    (∃ snapshot, load s = .ok snapshot) ↔
      ∀ scope : Scope, ∃ found, s.table scope.table = .ok found := by
  constructor
  · rintro ⟨snapshot, h⟩
    obtain ⟨global, hglobal, h⟩ := exists_of_bind_eq_ok h
    obtain ⟨families, hfamilies, h⟩ := exists_of_bind_eq_ok h
    obtain ⟨interfaces, hinterfaces, h⟩ := exists_of_bind_eq_ok h
    obtain ⟨groups, hgroups, h⟩ := exists_of_bind_eq_ok h
    obtain ⟨rdma, hrdma, h⟩ := exists_of_bind_eq_ok h
    intro scope
    cases scope with
    | global => exact ⟨global, hglobal⟩
    | addressFamily => exact ⟨families, hfamilies⟩
    | interface => exact ⟨interfaces, hinterfaces⟩
    | ecmp => exact ⟨groups, hgroups⟩
    | rdma => exact ⟨rdma, hrdma⟩
  · intro h
    obtain ⟨global, hglobal⟩ := h .global
    obtain ⟨families, hfamilies⟩ := h .addressFamily
    obtain ⟨interfaces, hinterfaces⟩ := h .interface
    obtain ⟨groups, hgroups⟩ := h .ecmp
    obtain ⟨rdma, hrdma⟩ := h .rdma
    refine ⟨⟨global, families, interfaces, groups, rdma⟩, ?_⟩
    unfold load
    rw [hglobal, hfamilies, hinterfaces, hgroups, hrdma]
    rfl

/-- A store without faults can be loaded. -/
theorem load_of_faultless {s : Store} (hs : s.Faultless) :
    ∃ snapshot, load s = .ok snapshot :=
  (exists_load_iff s).2 fun scope =>
    (Store.exists_table_iff s scope.table).2 ⟨hs _, fun key _ _ => hs key⟩

end Snapshot

end DualStack
