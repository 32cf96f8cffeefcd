import DualStack.Config.Validation
import DualStack.Proofs.Store

/-!
# Where the entities of a configuration come from

Every entity of an accepted configuration is looked up by what names it, and comes from the last
record under one key: the key that spells it. For ECMP groups this rests on how a key is split,
at its first bar, so that a family and a name are spelled by one key and by no other, whatever
bars the name has in it. The errors under a key come from the same record.
-/

set_option autoImplicit false

namespace DualStack

/-- A result is kept as an option exactly if it is no error. -/
theorem toOption_eq_some_iff {ε α : Type} {x : Except ε α} {a : α} :
    x.toOption = some a ↔ x = .ok a := by
  cases x <;> simp [Except.toOption]

/-- Leaving out items before they are expanded is expanding them to nothing. -/
theorem flatMap_filter {α β : Type} (l : List α) (p : α → Bool) (f : α → List β) :
    (l.filter p).flatMap f = l.flatMap fun a => if p a then f a else [] := by
  induction l with
  | nil => rfl
  | cons a l ih => cases hp : p a <;> simp [hp, ih]

/-- The two families have different names. -/
theorem Family.name_inj {family family' : Family} :
    family.name = family'.name ↔ family = family' := by
  cases family <;> cases family' <;> decide

namespace Text

/-- A text is cut at the first separator in one way only. -/
theorem cutFirst?_eq_some_mk_iff {sep : Char} {s left right : String} :
    cutFirst? sep s = some (left, right) ↔
      s.toList = left.toList ++ sep :: right.toList ∧ sep ∉ left.toList := by
  rw [cutFirst?, Option.map_eq_some_iff, ← cutFirst_eq_some_iff]
  constructor
  · rintro ⟨⟨l, r⟩, hcut, heq⟩
    obtain ⟨rfl, rfl⟩ := Prod.mk.inj heq
    simpa using hcut
  · intro hcut
    exact ⟨(left.toList, right.toList), hcut, by simp⟩

end Text

/-- A configuration is determined by its entities. -/
theorem Config.ext_entity {a b : Config} (hglobal : b.global = a.global)
    (hfamilies : ∀ family, b.families.get family = a.families.get family)
    (hinterfaces : ∀ name : String, b.interfaces[name]? = a.interfaces[name]?)
    (hgroups : ∀ family, ∀ name : String,
      (b.groups.get family)[name]? = (a.groups.get family)[name]?)
    (hrdma : b.rdma = a.rdma) : b = a := by
  have hallFamilies : b.families = a.families := PerFamily.ext_get hfamilies
  have hallInterfaces : b.interfaces = a.interfaces :=
    Std.ExtTreeMap.ext_getElem? fun {name} => hinterfaces name
  have hallGroups : b.groups = a.groups :=
    PerFamily.ext_get fun family => Std.ExtTreeMap.ext_getElem? fun {name} => hgroups family name
  cases a
  cases b
  rw [Config.mk.injEq]
  exact ⟨hglobal, hallFamilies, hallInterfaces, hallGroups, hrdma⟩

/-! ## Records -/

namespace Validation

/-- The fields of the last record of a table under a key. -/
def lastRecord? (table : Table) (key : String) : Option Fields :=
  (table.reverse.find? (·.1 == key)).map Prod.snd

/-- In the map of last records a key has its last record. -/
theorem getElem?_lastRecords (table : Table) (key : String) :
    (lastRecords table)[key]? = lastRecord? table key :=
  NameMap.getElem?_ofPairs table key

/-- The last record of a key is a record of the table. -/
theorem mem_of_lastRecord? {table : Table} {key : String} {fields : Fields}
    (h : lastRecord? table key = some fields) : (key, fields) ∈ table := by
  obtain ⟨⟨found, _⟩, hfind, rfl⟩ := Option.map_eq_some_iff.1 h
  obtain rfl : found = key := by simpa using List.find?_some hfind
  exact List.mem_reverse.1 (List.mem_of_find?_eq_some hfind)

end Validation

/-- A flag is set exactly if its field has the one text that counts as true. -/
theorem Decode.flag_eq_true_iff {fields : Fields} {field : String} :
    flag fields field = true ↔ fields.value? field = some "true" := by
  unfold flag textIsTrue
  cases fields.value? field <;> simp

/-- The global record of a snapshot, if there is one. -/
def Snapshot.globalRecord? (snapshot : Snapshot) : Option Fields :=
  Validation.lastRecord? snapshot.global Schema.globalKey

/-! ## The keys of groups -/

namespace Decode

/-- The key of the record of a group: container, bar, name. -/
def groupRecordKey (family : Family) (name : String) : String :=
  s!"{container family}|{name}"

/-- The key of a group is the container of its family, a bar and the name, character by
character. -/
theorem toList_groupRecordKey (family : Family) (name : String) :
    (groupRecordKey family name).toList = (container family).toList ++ '|' :: name.toList := by
  show ((container family ++ "|") ++ name).toList = _
  simp

/-- There is no bar in the container of a family, so the first bar of a key ends it. -/
theorem bar_notMem_container (family : Family) : '|' ∉ (container family).toList := by
  cases family <;> decide

/-- A container is found for a family exactly by its own spelling. -/
theorem find?_container_eq_some_iff {start : String} {family : Family} :
    Family.all.find? (container · == start) = some family ↔ start = container family := by
  constructor
  · intro hfind
    have hcontainer := List.find?_some hfind
    rw [beq_iff_eq] at hcontainer
    exact hcontainer.symm
  · rintro rfl
    cases family <;> decide

/-- The key of a group is the text that is cut, at its first bar, into its container and name. -/
theorem eq_groupRecordKey_iff {key name : String} {family : Family} :
    key = groupRecordKey family name ↔
      Text.cutFirst? '|' key = some (container family, name) := by
  rw [Text.cutFirst?_eq_some_mk_iff, ← toList_groupRecordKey, String.toList_inj]
  exact ⟨fun hkey => ⟨hkey, bar_notMem_container family⟩, fun h => h.1⟩

/-- A key spells a group exactly if it is the key of that group. -/
theorem groupKey_eq_ok_iff {key name : String} {family : Family} :
    groupKey key = .ok (family, name) ↔ key = groupRecordKey family name := by
  rw [eq_groupRecordKey_iff]
  unfold groupKey
  cases hcut : Text.cutFirst? '|' key with
  | none => simp
  | some parts =>
    obtain ⟨start, rest⟩ := parts
    cases hfind : Family.all.find? (container · == start) with
    | none =>
      have hstart : start ≠ container family := by
        intro heq
        rw [find?_container_eq_some_iff.2 heq] at hfind
        cases hfind
      simp [hfind, hstart]
    | some spelled =>
      rw [find?_container_eq_some_iff] at hfind
      subst hfind
      have hcontainer : container spelled = container family ↔ spelled = family := by
        cases spelled <;> cases family <;> decide
      simp [find?_container_eq_some_iff.2 rfl, hcontainer]

/-- A family and a name are determined by the key that they spell, even if the name has bars in
it. -/
theorem groupRecordKey_inj {family family' : Family} {name name' : String} :
    groupRecordKey family name = groupRecordKey family' name' ↔
      family = family' ∧ name = name' := by
  rw [← groupKey_eq_ok_iff, groupKey_eq_ok_iff.2 rfl, Except.ok.injEq, Prod.mk.injEq]

end Decode

namespace Validation

/-- A record describes a group exactly if its key spells family and name and its fields are
accepted. -/
theorem groupOf?_eq_some_iff {family : Family} {key name : String} {fields : Fields}
    {group : EcmpGroup} :
    groupOf? family key fields = some (name, group) ↔
      key = Decode.groupRecordKey family name ∧ Decode.group family name fields = .ok group := by
  rw [← Decode.groupKey_eq_ok_iff]
  unfold groupOf?
  cases hkey : Decode.groupKey key with
  | error fault => simp
  | ok spelled =>
    obtain ⟨spelled, rest⟩ := spelled
    by_cases hfamily : spelled = family
    · subst hfamily
      simp only [if_true, Option.map_eq_some_iff, toOption_eq_some_iff, Prod.mk.injEq,
        Except.ok.injEq, true_and]
      constructor
      · rintro ⟨accepted, hok, rfl, rfl⟩
        exact ⟨rfl, hok⟩
      · rintro ⟨rfl, hok⟩
        exact ⟨group, hok, rfl, rfl⟩
    · simp [hfamily]

end Validation

/-! ## Errors -/

namespace Validation

/-- The errors of a record. -/
def recordErrors (scope : Scope) (key : String) (fields : Fields) : List ValidationError :=
  (faults scope key fields).map fun fault => ⟨scope, key, fault.message⟩

/-- The errors of a record are filed under its own scope and key. -/
theorem place_of_mem_recordErrors {scope : Scope} {key : String} {fields : Fields}
    {error : ValidationError} (h : error ∈ recordErrors scope key fields) :
    error.scope = scope ∧ error.key = key := by
  obtain ⟨fault, -, rfl⟩ := List.mem_map.1 h
  exact ⟨rfl, rfl⟩

/-- The errors of a table are those of the last record of each key, by key. -/
theorem tableErrors_eq (scope : Scope) (table : Table) : tableErrors scope table =
    (lastRecords table).toList.flatMap fun pair => recordErrors scope pair.1 pair.2 := rfl

/-- The errors of a table are of its scope. -/
theorem scope_of_mem_tableErrors {scope : Scope} {table : Table} {error : ValidationError}
    (h : error ∈ tableErrors scope table) : error.scope = scope := by
  obtain ⟨pair, -, hpair⟩ := List.mem_flatMap.1 h
  exact (place_of_mem_recordErrors hpair).1

/-- The errors of some of the keys of a table are those of the records under these keys. -/
theorem filter_tableErrors (scope : Scope) (table : Table) (p : String → Bool) :
    ((tableErrors scope table).filter fun error => p error.key) =
      ((lastRecords table).toList.filter fun pair => p pair.1).flatMap fun pair =>
        recordErrors scope pair.1 pair.2 := by
  have hrecord : ∀ pair : String × Fields,
      ((recordErrors scope pair.1 pair.2).filter fun error => p error.key) =
        if p pair.1 then recordErrors scope pair.1 pair.2 else [] := by
    intro pair
    have hkey : ∀ error ∈ recordErrors scope pair.1 pair.2, p error.key = p pair.1 :=
      fun error herror => congrArg p (place_of_mem_recordErrors herror).2
    split
    · next hp => exact List.filter_eq_self.2 fun error herror => (hkey error herror).trans hp
    · next hp =>
      refine List.filter_eq_nil_iff.2 fun error herror => ?_
      rw [hkey error herror]
      exact hp
  rw [tableErrors_eq, List.filter_flatMap, flatMap_filter]
  simp only [hrecord]

/-- The errors of one scope are those of its table. -/
theorem filter_errorsOf (snapshot : Snapshot) (scope : Scope) (p : String → Bool) :
    ((errorsOf snapshot).filter fun error => error.scope = scope ∧ p error.key) =
      (tableErrors scope (snapshot.table scope)).filter fun error => p error.key := by
  have hscope : ∀ other : Scope, ((tableErrors other (snapshot.table other)).filter fun error =>
      error.scope = scope ∧ p error.key) =
        if other = scope then
          (tableErrors scope (snapshot.table scope)).filter fun error => p error.key
        else [] := by
    intro other
    split
    · next heq =>
      subst heq
      refine List.filter_congr fun error herror => ?_
      simp [scope_of_mem_tableErrors herror]
    · next hne =>
      refine List.filter_eq_nil_iff.2 fun error herror => ?_
      simp [scope_of_mem_tableErrors herror, hne]
  unfold errorsOf
  rw [List.filter_flatMap]
  simp only [hscope]
  cases scope <;> simp [Scope.all]

/-- The errors under a key. -/
def errorsAt (validation : Validation) (scope : Scope) (key : String) : List ValidationError :=
  validation.errors.filter fun error => error.scope = scope ∧ error.key = key

/-- The errors under a key are those of the last record there. -/
theorem errorsAt_of (snapshot : Snapshot) (scope : Scope) (key : String) :
    (of snapshot).errorsAt scope key =
      (lastRecord? (snapshot.table scope) key).toList.flatMap (recordErrors scope key) := by
  have hat : (of snapshot).errorsAt scope key =
      (errorsOf snapshot).filter fun error => error.scope = scope ∧ (error.key == key) := by
    unfold errorsAt of
    simp
  rw [hat, filter_errorsOf snapshot scope (· == key), filter_tableErrors scope _ (· == key),
    NameMap.filter_toList_eq, getElem?_lastRecords]
  cases lastRecord? (snapshot.table scope) key <;> simp

end Validation

/-! ## Entities -/

namespace Snapshot

variable (snapshot : Snapshot)

/-- The global settings come from the last global record, whatever its faults are. -/
theorem global_configOf : (Validation.configOf snapshot).global =
    snapshot.globalRecord?.map fun fields => (Decode.global fields).1 := by
  unfold Validation.configOf globalRecord?
  rw [Validation.getElem?_lastRecords]

/-- The settings of a family come from the last record under its name, if that is accepted. -/
theorem get_families_configOf (family : Family) :
    (Validation.configOf snapshot).families.get family =
      (Validation.lastRecord? snapshot.families family.name).bind fun fields =>
        (Decode.family fields).toOption := by
  cases family <;> rw [← Validation.getElem?_lastRecords] <;> rfl

/-- The settings of an interface come from the last record under its name, if that enables the
feature and is accepted. -/
theorem getElem?_interfaces_configOf (name : String) :
    (Validation.configOf snapshot).interfaces[name]? =
      (Validation.lastRecord? snapshot.interfaces name).bind fun fields =>
        (Decode.interface fields).toOption.join := by
  rw [← Validation.getElem?_lastRecords]
  exact Std.ExtTreeMap.getElem?_filterMap'

/-- The RDMA settings come from the last record under the key that is read, if that is accepted. -/
theorem rdma_configOf : (Validation.configOf snapshot).rdma =
    (Validation.lastRecord? snapshot.rdma Schema.globalKey).bind fun fields =>
      (Decode.rdma fields).toOption := by
  rw [← Validation.getElem?_lastRecords]
  rfl

/-- The groups of a family that the records of a snapshot describe. -/
def groupsOf (family : Family) : List (String × EcmpGroup) :=
  (Validation.lastRecords snapshot.groups).toList.filterMap fun (key, fields) =>
    Validation.groupOf? family key fields

/-- A family has a group exactly if the last record under the key of the group is accepted. -/
theorem mem_groupsOf {family : Family} {name : String} {group : EcmpGroup} :
    (name, group) ∈ snapshot.groupsOf family ↔
      ∃ fields, Validation.lastRecord? snapshot.groups (Decode.groupRecordKey family name) =
        some fields ∧ Decode.group family name fields = .ok group := by
  unfold groupsOf
  simp only [List.mem_filterMap, Prod.exists, Std.ExtTreeMap.mem_toList_iff_getElem?_eq_some,
    Validation.getElem?_lastRecords, Validation.groupOf?_eq_some_iff]
  constructor
  · rintro ⟨key, fields, hrecord, rfl, hgroup⟩
    exact ⟨fields, hrecord, hgroup⟩
  · rintro ⟨fields, hrecord, hgroup⟩
    exact ⟨_, fields, hrecord, rfl, hgroup⟩

/-- No name is described twice, since one key spells it. -/
theorem pairwise_groupsOf (family : Family) :
    (snapshot.groupsOf family).Pairwise fun a b => a.1 ≠ b.1 := by
  refine List.pairwise_filterMap.2 ((NameMap.pairwise_toList _).imp ?_)
  rintro ⟨key, fields⟩ ⟨key', fields'⟩ hlt ⟨name, group⟩ hgroup ⟨name', group'⟩ hgroup' hname
  obtain ⟨hkey, -⟩ := Validation.groupOf?_eq_some_iff.1 hgroup
  obtain ⟨hkey', -⟩ := Validation.groupOf?_eq_some_iff.1 hgroup'
  simp only at hname
  rw [hkey, hkey', hname] at hlt
  simp at hlt

/-- The settings of a group come from the last record under the key that family and name spell, if
that is accepted. -/
theorem getElem?_groups_configOf (family : Family) (name : String) :
    ((Validation.configOf snapshot).groups.get family)[name]? =
      (Validation.lastRecord? snapshot.groups (Decode.groupRecordKey family name)).bind
        fun fields => (Decode.group family name fields).toOption := by
  have hgroups : (Validation.configOf snapshot).groups.get family =
      NameMap.insertAll ∅ (snapshot.groupsOf family) := by
    cases family <;> rfl
  rw [hgroups]
  cases hdescribed : (Validation.lastRecord? snapshot.groups
      (Decode.groupRecordKey family name)).bind fun fields =>
        (Decode.group family name fields).toOption with
  | some group =>
    obtain ⟨fields, hrecord, hgroup⟩ := Option.bind_eq_some_iff.1 hdescribed
    exact NameMap.getElem?_insertAll_of_mem (snapshot.pairwise_groupsOf family)
      (snapshot.mem_groupsOf.2 ⟨fields, hrecord, toOption_eq_some_iff.1 hgroup⟩)
  | none =>
    rw [NameMap.getElem?_insertAll_of_forall_ne, Std.ExtTreeMap.getElem?_empty]
    rintro ⟨other, group⟩ hmem rfl
    obtain ⟨fields, hrecord, hgroup⟩ := snapshot.mem_groupsOf.1 hmem
    rw [hrecord] at hdescribed
    simp [hgroup, Except.toOption] at hdescribed

end Snapshot

end DualStack
