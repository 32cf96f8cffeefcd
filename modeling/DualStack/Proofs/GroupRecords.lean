import DualStack.Proofs.Accounting
import DualStack.Proofs.Coherence
import DualStack.Proofs.FieldTexts
import DualStack.Proofs.LastWins
import DualStack.Proofs.Provenance
import DualStack.Proofs.Records

/-!
# Which groups have a record

A group has a record in the state exactly if the last record under its key describes it: the network
is one of the family, and the path limit is absent or a number. The record spells the group with the
texts as they are configured. Every other key of the table, be it that its record describes no group
or that it spells none, leaves one error behind and nothing else: the state is that of the snapshot
without the records under that key, so an earlier record there counts as little as the last.
-/

set_option autoImplicit false

namespace DualStack

/-! ## What a record describes -/

/-- A record describes a group of a family with a path limit. -/
structure Fields.Describes (fields : Fields) (family : Family) (paths : UInt32) : Prop where
  network : ∃ network, Network.parseFor family (fields.valueOr "prefix" "") = .ok network
  paths : fields.value? "max_paths" = none ∧ paths = 4 ∨
    ∃ text, fields.value? "max_paths" = some text ∧
      Text.IsNumeral (Text.trim text).toList paths.toNat

/-- The group that a record describes. -/
def Fields.toGroup (fields : Fields) (paths : UInt32) : EcmpGroup :=
  ⟨fields.valueOr "prefix" "", paths, ⟨fields.valueOr "hash_algorithm" "crc32"⟩⟩

/-- The record of a described group: the texts as they are configured, the limit in digits. -/
def Fields.groupRecord (fields : Fields) (family : Family) (name : String) (paths : UInt32) :
    AppRecord where
  scope := .ecmp
  name := s!"{family.name}:{name}"
  key := AppRecord.groupKey family name
  fields :=
    [("prefix", fields.valueOr "prefix" ""),
     ("max_paths", toString paths.toNat),
     ("hash_algorithm", fields.valueOr "hash_algorithm" "crc32"),
     ("ip_version", family.name)]

namespace Decode

variable {fields : Fields}

/-- A number field is read as its default if it is missing, and otherwise as the number that its
trimmed text is. -/
theorem numberOr_eq_ok_iff {α : Type} {read : String → Option α} {field : String}
    {default n : α} : numberOr read fields field default = .ok n ↔
      fields.value? field = none ∧ n = default ∨
        ∃ text, fields.value? field = some text ∧ read (Text.trim text) = some n := by
  unfold numberOr number?
  cases fields.value? field with
  | none => simp [bind, Except.bind, pure, Except.pure, eq_comm]
  | some text =>
    cases hread : read (Text.trim text) with
    | none => simp [hread, bind, Except.bind]
    | some m => simp [hread, bind, Except.bind, pure, Except.pure]

/-- A record is decoded to a group exactly if it describes it. -/
theorem group_eq_ok_iff {family : Family} {name : String} {group : EcmpGroup} :
    Decode.group family name fields = .ok group ↔
      ∃ paths, fields.Describes family paths ∧ group = fields.toGroup paths := by
  have hpaths : ∀ paths, numberOr Text.uint32? fields "max_paths" 4 = .ok paths ↔
      fields.value? "max_paths" = none ∧ paths = 4 ∨
        ∃ text, fields.value? "max_paths" = some text ∧
          Text.IsNumeral (Text.trim text).toList paths.toNat := by
    intro paths
    simp only [numberOr_eq_ok_iff, Text.uint32?_eq_some_iff]
  constructor
  · intro h
    unfold Decode.group at h
    obtain ⟨network, hnetwork, h⟩ := exists_of_bind_eq_ok h
    obtain ⟨paths, hlimit, h⟩ := exists_of_bind_eq_ok h
    cases h
    exact ⟨paths, ⟨⟨network, eq_ok_of_mapError_eq_ok hnetwork⟩, (hpaths paths).1 hlimit⟩, rfl⟩
  · rintro ⟨paths, ⟨⟨network, hnetwork⟩, hlimit⟩, rfl⟩
    unfold Decode.group
    simp only [hnetwork, (hpaths paths).2 hlimit]
    rfl

/-- A key of the table of groups that spells no group: there is no bar in it, or there is no such
container in front of its first bar. -/
def SpellsNoGroup (key : String) : Prop :=
  Text.cutFirst? '|' key = none ∨
    ∃ start rest, Text.cutFirst? '|' key = some (start, rest) ∧ ∀ family, start ≠ container family

/-- A key spells no group exactly if it is the key of none. -/
theorem spellsNoGroup_iff {key : String} :
    SpellsNoGroup key ↔ ∀ family name, key ≠ groupRecordKey family name := by
  unfold SpellsNoGroup
  simp only [ne_eq, eq_groupRecordKey_iff]
  cases hcut : Text.cutFirst? '|' key with
  | none => simp
  | some parts =>
    obtain ⟨start, rest⟩ := parts
    simp

end Decode

/-! ## A table without one key -/

namespace Snapshot

/-- A snapshot without the records under a key of the table of groups. -/
def withoutGroup (snapshot : Snapshot) (key : String) : Snapshot :=
  { snapshot with groups := snapshot.groups.filter fun record => record.1 ≠ key }

/-- Leaving out the records of a key takes its last record away and no other. -/
theorem lastRecord?_filter (table : Table) (key name : String) :
    Validation.lastRecord? (table.filter fun record => record.1 ≠ key) name =
      if name = key then none else Validation.lastRecord? table name := by
  unfold Validation.lastRecord?
  rw [← List.filter_reverse, List.find?_filter]
  split
  · next heq =>
    subst heq
    rw [Option.map_eq_none_iff, List.find?_eq_none]
    simp
  · next hne =>
    congr 2
    funext record
    by_cases hname : record.1 = name <;> simp [hname, hne]

variable {snapshot : Snapshot} {key : String}

/-- Without the records under a key that no accepted group comes from the configuration is the
same. -/
theorem configOf_withoutGroup (h : ∀ family name, key = Decode.groupRecordKey family name →
    ((Validation.configOf snapshot).groups.get family)[name]? = none) :
    Validation.configOf (snapshot.withoutGroup key) = Validation.configOf snapshot := by
  have hgroups : ∀ family, (Validation.configOf (snapshot.withoutGroup key)).groups.get family =
      (Validation.configOf snapshot).groups.get family := by
    intro family
    apply Std.ExtTreeMap.ext_getElem?
    intro name
    have hrecord := lastRecord?_filter snapshot.groups key (Decode.groupRecordKey family name)
    by_cases hkey : Decode.groupRecordKey family name = key
    · rw [h family name hkey.symm, getElem?_groups_configOf, withoutGroup, hrecord, if_pos hkey,
        Option.bind_none]
    · rw [getElem?_groups_configOf, getElem?_groups_configOf, withoutGroup, hrecord, if_neg hkey]
  have hsame : (Validation.configOf (snapshot.withoutGroup key)).groups =
      (Validation.configOf snapshot).groups := PerFamily.ext_get hgroups
  -- no other part of a configuration looks at the table of groups
  have hothers : Validation.configOf (snapshot.withoutGroup key) =
      { Validation.configOf snapshot with
        groups := (Validation.configOf (snapshot.withoutGroup key)).groups } := rfl
  rw [hothers, hsame]

/-- A key of the table of groups leaves nothing behind but an error if there is a record under
it. -/
structure LeavesOnlyError (snapshot : Snapshot) (key : String) : Prop where
  state : (snapshot.withoutGroup key).derivedState = snapshot.derivedState
  error : ∀ fields, (key, fields) ∈ snapshot.groups →
    ((Validation.of snapshot).errorsAt .ecmp key).length = 1

/-- A key whose group, if it spells one, is not in the configuration leaves nothing in the state,
and its record, if there is one, has one error. -/
theorem leavesOnlyError_of_forall (h : ∀ family name, key = Decode.groupRecordKey family name →
    ((Validation.configOf snapshot).groups.get family)[name]? = none) :
    snapshot.LeavesOnlyError key where
  state := congrArg (fun config => (Resolution.of config).state) (configOf_withoutGroup h)
  error fields hmem := by
    obtain ⟨last, hrecord⟩ : ∃ last, Validation.lastRecord? snapshot.groups key = some last :=
      exists_lastOf?_of_mem hmem
    rcases Validation.groups_accounted hrecord with ⟨haccepted, -⟩ | ⟨-, hlength⟩
    · obtain ⟨family, name, group, hkey, hgroup⟩ := haccepted
      have hnone : ((Validation.of snapshot).config.groups.get family)[name]? = none :=
        h family name hkey
      rw [hnone] at hgroup
      cases hgroup
    · exact hlength

/-! ## The record of a group -/

/-- The last record under the key of a group describes it. -/
def HasGroup (snapshot : Snapshot) (family : Family) (name : String) : Prop :=
  ∃ fields paths,
    Validation.lastRecord? snapshot.groups (Decode.groupRecordKey family name) = some fields ∧
      fields.Describes family paths

section

variable {family : Family} {name : String}

/-- A group that no record describes is not in the configuration. -/
theorem groups_configOf_of_not_hasGroup (h : ¬ snapshot.HasGroup family name) :
    ((Validation.configOf snapshot).groups.get family)[name]? = none := by
  cases hgroup : ((Validation.configOf snapshot).groups.get family)[name]? with
  | none => rfl
  | some group =>
    rw [getElem?_groups_configOf] at hgroup
    obtain ⟨fields, hrecord, hdecoded⟩ := Option.bind_eq_some_iff.1 hgroup
    obtain ⟨paths, hdescribes, -⟩ := Decode.group_eq_ok_iff.1 (toOption_eq_some_iff.1 hdecoded)
    exact absurd ⟨fields, paths, hrecord, hdescribes⟩ h

/-- A record under the key of a group is that of the group. -/
theorem hasGroup_of_mem_records {r : AppRecord} (hr : r ∈ snapshot.derivedState.records)
    (hkey : r.key = AppRecord.groupKey family name) : snapshot.HasGroup family name := by
  obtain ⟨fields, group, network, hrecord, hdecoded, -⟩ := group_of_mem_records hr hkey
  obtain ⟨paths, hdescribes, -⟩ := Decode.group_eq_ok_iff.1 hdecoded
  exact ⟨fields, paths, hrecord, hdescribes⟩

variable {fields : Fields} {paths : UInt32}
  (hrecord : Validation.lastRecord? snapshot.groups (Decode.groupRecordKey family name) =
    some fields) (hdescribes : fields.Describes family paths)
include hrecord hdescribes

/-- A group that its last record describes is in the configuration as described. -/
theorem groups_configOf_of_describes :
    ((Validation.configOf snapshot).groups.get family)[name]? = some (fields.toGroup paths) := by
  have hdecoded : Decode.group family name fields = .ok (fields.toGroup paths) :=
    Decode.group_eq_ok_iff.2 ⟨paths, hdescribes, rfl⟩
  rw [getElem?_groups_configOf, hrecord, Option.bind_some]
  exact toOption_eq_some_iff.2 hdecoded

/-- A record that describes its group has no error. -/
theorem errorsAt_of_describes :
    (Validation.of snapshot).errorsAt .ecmp (Decode.groupRecordKey family name) = [] := by
  rcases Validation.groups_accounted hrecord with ⟨-, hnone⟩ | ⟨hrefused, -⟩
  · exact hnone
  · exact absurd ⟨family, name, _, rfl, groups_configOf_of_describes hrecord hdescribes⟩ hrefused

/-- The second check of the network finds what the first has found, and the record is written. -/
theorem filter_records_of_describes :
    (snapshot.derivedState.records.filter fun r => r.key = AppRecord.groupKey family name) =
      [fields.groupRecord family name paths] := by
  obtain ⟨network, hnetwork⟩ := hdescribes.network
  have hstate : (snapshot.derivedState.groups.get family)[name]? =
      some ⟨network, (fields.toGroup paths).networkText, paths, (fields.toGroup paths).hash⟩ := by
    show ((Resolution.of (Validation.configOf snapshot)).state.groups.get family)[name]? = _
    rw [Resolution.getElem?_groups_of, groups_configOf_of_describes hrecord hdescribes,
      Option.bind_some, toOption_eq_some_iff]
    exact Resolution.groupOf_eq_ok_iff.2 ⟨network, hnetwork, rfl⟩
  have hmem := DerivedState.mem_recordsOf_ecmp.2 ⟨family, name, _, hstate, rfl⟩
  exact DerivedState.filter_key_records (DerivedState.mem_records.2 ⟨.ecmp, hmem⟩)

end

/-- Which records a snapshot has for its table of groups. A group has one exactly if the last record
under its key describes it, and then that is its only one, spells the group as it is configured, and
nothing is reported. A group that is not described leaves at most an error behind, and so does a key
that spells no group. There are no other records of groups, and the second check of the networks
finds nothing. -/
theorem group_records (snapshot : Snapshot) :
    let records := snapshot.derivedState.records
    (∀ family name, (∃ r ∈ records, r.key = AppRecord.groupKey family name) ↔
      snapshot.HasGroup family name) ∧
    (∀ family name fields paths,
      Validation.lastRecord? snapshot.groups (Decode.groupRecordKey family name) = some fields →
      fields.Describes family paths →
        (records.filter fun r => r.key = AppRecord.groupKey family name) =
          [fields.groupRecord family name paths] ∧
        (Validation.of snapshot).errorsAt .ecmp (Decode.groupRecordKey family name) = []) ∧
    (∀ family name, ¬ snapshot.HasGroup family name →
      snapshot.LeavesOnlyError (Decode.groupRecordKey family name)) ∧
    (∀ key, Decode.SpellsNoGroup key → snapshot.LeavesOnlyError key) ∧
    (∀ r ∈ records, r.scope = .ecmp → ∃ family name, r.key = AppRecord.groupKey family name) ∧
    (Resolution.of (Validation.of snapshot).config).errors = [] := by
  intro records
  refine ⟨?_, ?_, ?_, ?_, ?_, snapshot.errors_resolution⟩
  · intro family name
    constructor
    · rintro ⟨r, hr, hkey⟩
      exact hasGroup_of_mem_records hr hkey
    · rintro ⟨fields, paths, hrecord, hdescribes⟩
      have hmem := List.mem_singleton_self (fields.groupRecord family name paths)
      rw [← filter_records_of_describes hrecord hdescribes] at hmem
      exact ⟨_, (List.mem_filter.1 hmem).1, rfl⟩
  · intro family name fields paths hrecord hdescribes
    exact ⟨filter_records_of_describes hrecord hdescribes,
      errorsAt_of_describes hrecord hdescribes⟩
  · intro family name hnot
    refine leavesOnlyError_of_forall ?_
    intro family' name' hkey
    obtain ⟨rfl, rfl⟩ := Decode.groupRecordKey_inj.1 hkey
    exact groups_configOf_of_not_hasGroup hnot
  · intro key hspells
    exact leavesOnlyError_of_forall fun family name hkey =>
      absurd hkey (Decode.spellsNoGroup_iff.1 hspells family name)
  · intro r hr hscope
    obtain ⟨family, name, group, -, rfl⟩ :=
      DerivedState.mem_recordsOf_ecmp.1 (DerivedState.mem_recordsOf_iff.2 ⟨hr, hscope⟩)
    exact ⟨family, name, rfl⟩

end Snapshot

end DualStack
