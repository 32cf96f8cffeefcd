import DualStack.Proofs.Entities
import Mathlib.Data.String.Basic

/-!
# Every record is accounted for

Validation keeps the last record of each key and makes of it an entity or errors, and it loses
none. A record that can be refused is accepted, and then nothing is said about it, or it is
refused with one error, and then it leaves no entity behind. The global record alone is kept
whatever is wrong with it. Nothing is made up: an entity goes back to the record whose key spells
it, and an error names a record. The errors come by scope and then by key.
-/

set_option autoImplicit false

namespace DualStack

/-- The place of a scope in the list of errors. -/
def Scope.rank : Scope → Nat
  | .global => 0
  | .addressFamily => 1
  | .interface => 2
  | .ecmp => 3
  | .rdma => 4

namespace Validation

/-- What becomes of a record that can be refused: it is accepted and there is no error, or it is
not and there is one. -/
def Settled (accepted : Prop) (errors : List ValidationError) : Prop :=
  accepted ∧ errors = [] ∨ ¬ accepted ∧ errors.length = 1

/-- What becomes of the last record of each key of a snapshot, and where entities and errors come
from. A foreign record is one of the global or the RDMA table under another key than the one that
is read. -/
structure AccountsFor (validation : Validation) (snapshot : Snapshot) : Prop where
  families : ∀ key fields, lastRecord? snapshot.families key = some fields →
    Settled (∃ family config, key = family.name ∧
        validation.config.families.get family = some config)
      (validation.errorsAt .addressFamily key)
  interfaces : ∀ name fields, lastRecord? snapshot.interfaces name = some fields →
    if fields.value? "ue_enable" = some "true" then
      Settled (∃ config, validation.config.interfaces[name]? = some config)
        (validation.errorsAt .interface name)
    else validation.config.interfaces[name]? = none ∧ validation.errorsAt .interface name = []
  groups : ∀ key fields, lastRecord? snapshot.groups key = some fields →
    Settled (∃ family name group, key = Decode.groupRecordKey family name ∧
        (validation.config.groups.get family)[name]? = some group)
      (validation.errorsAt .ecmp key)
  rdma : ∀ fields, lastRecord? snapshot.rdma Schema.globalKey = some fields →
    Settled (∃ config, validation.config.rdma = some config)
      (validation.errorsAt .rdma Schema.globalKey)
  global : ∀ fields, lastRecord? snapshot.global Schema.globalKey = some fields →
    (∃ config, validation.config.global = some config) ∧
      (validation.errorsAt .global Schema.globalKey).length ≤ 2
  foreign : ∀ scope key fields, scope = .global ∨ scope = .rdma → key ≠ Schema.globalKey →
    lastRecord? (snapshot.table scope) key = some fields →
      (validation.errorsAt scope key).length = 1
  fromFamily : ∀ family config, validation.config.families.get family = some config →
    ∃ fields, lastRecord? snapshot.families family.name = some fields ∧
      Decode.family fields = .ok config
  fromInterface : ∀ name config, validation.config.interfaces[name]? = some config →
    ∃ fields, lastRecord? snapshot.interfaces name = some fields ∧
      Decode.interface fields = .ok (some config)
  fromGroup : ∀ family name group, (validation.config.groups.get family)[name]? = some group →
    ∃ fields, lastRecord? snapshot.groups (Decode.groupRecordKey family name) = some fields ∧
      Decode.group family name fields = .ok group
  fromRdma : ∀ config, validation.config.rdma = some config →
    ∃ fields, lastRecord? snapshot.rdma Schema.globalKey = some fields ∧
      Decode.rdma fields = .ok config
  fromGlobal : ∀ config, validation.config.global = some config →
    ∃ fields, lastRecord? snapshot.global Schema.globalKey = some fields ∧
      (Decode.global fields).1 = config
  named : ∀ error ∈ validation.errors,
    ∃ fields, (error.key, fields) ∈ snapshot.table error.scope ∧
      lastRecord? (snapshot.table error.scope) error.key = some fields
  ordered : validation.errors.Pairwise fun a b =>
    a.scope.rank < b.scope.rank ∨ a.scope = b.scope ∧ a.key ≤ b.key

end Validation

/-! ## One record -/

/-- A key of the table of families is read as a family exactly if it is its name. -/
theorem Family.ofName_eq_ok_iff {s : String} {family : Family} :
    Family.ofName s = .ok family ↔ s = family.name := by
  rw [← Family.ofName?_eq_some_iff]
  unfold Family.ofName
  cases Family.ofName? s <;> simp

namespace Validation

variable {snapshot : Snapshot} {key : String} {fields : Fields}

/-- There are as many errors under a key as its last record has faults. -/
theorem length_errorsAt (scope : Scope)
    (h : lastRecord? (snapshot.table scope) key = some fields) :
    ((of snapshot).errorsAt scope key).length = (faults scope key fields).length := by
  rw [errorsAt_of, h]
  simp [recordErrors]

/-- A record with the faults of a result is settled by it. -/
theorem settled_of_result {α : Type} {accepted : Prop} (scope : Scope) (result : Except Fault α)
    (h : lastRecord? (snapshot.table scope) key = some fields)
    (hfaults : faults scope key fields = faultOf result)
    (haccepted : accepted ↔ ∃ a, result = .ok a) :
    Settled accepted ((of snapshot).errorsAt scope key) := by
  have hlength := length_errorsAt scope h
  rw [hfaults] at hlength
  cases result with
  | ok a => exact Or.inl ⟨haccepted.2 ⟨a, rfl⟩, List.length_eq_zero_iff.1 hlength⟩
  | error fault =>
    refine Or.inr ⟨fun hkept => ?_, hlength⟩
    obtain ⟨a, ha⟩ := haccepted.1 hkept
    cases ha

/-- The last record of a key in the table of families is settled: its key names a family that has
settings now, or there is one error. -/
theorem families_accounted (h : lastRecord? snapshot.families key = some fields) :
    Settled (∃ family config, key = family.name ∧
        (of snapshot).config.families.get family = some config)
      ((of snapshot).errorsAt .addressFamily key) := by
  cases hname : Family.ofName key with
  | error error =>
    apply settled_of_result .addressFamily (Except.error (.badFamily error) : Except _ Unit) h
    · unfold faults
      simp only [hname]
      rfl
    · constructor
      · rintro ⟨family, config, hkey, -⟩
        rw [Family.ofName_eq_ok_iff.2 hkey] at hname
        cases hname
      · rintro ⟨_, ⟨⟩⟩
  | ok family =>
    have hkey := Family.ofName_eq_ok_iff.1 hname
    have hentity : (of snapshot).config.families.get family = (Decode.family fields).toOption := by
      show (configOf snapshot).families.get family = _
      rw [Snapshot.get_families_configOf, ← hkey, h, Option.bind_some]
    apply settled_of_result .addressFamily (Decode.family fields) h
    · unfold faults
      simp only [hname]
    · constructor
      · rintro ⟨family', config, hkey', hconfig⟩
        rw [← Family.name_inj.1 (hkey.symm.trans hkey'), hentity] at hconfig
        exact ⟨config, toOption_eq_some_iff.1 hconfig⟩
      · rintro ⟨config, hok⟩
        exact ⟨family, config, hkey, hentity.trans (toOption_eq_some_iff.2 hok)⟩

/-- The last record of an interface is settled if it asks for the feature; otherwise there is
neither an entity nor an error, because the record is not looked at. -/
theorem interfaces_accounted (h : lastRecord? snapshot.interfaces key = some fields) :
    if fields.value? "ue_enable" = some "true" then
      Settled (∃ config, (of snapshot).config.interfaces[key]? = some config)
        ((of snapshot).errorsAt .interface key)
    else (of snapshot).config.interfaces[key]? = none ∧
      (of snapshot).errorsAt .interface key = [] := by
  have hentity : (of snapshot).config.interfaces[key]? =
      (Decode.interface fields).toOption.join := by
    show (configOf snapshot).interfaces[key]? = _
    rw [Snapshot.getElem?_interfaces_configOf, h, Option.bind_some]
  have hfaults : faults .interface key fields = faultOf (Decode.interface fields) := rfl
  by_cases henabled : fields.value? "ue_enable" = some "true"
  · have hdecoded : Decode.interface fields = some <$> Decode.enabledInterface fields :=
      if_pos (Decode.flag_eq_true_iff.2 henabled)
    rw [hdecoded] at hentity hfaults
    rw [if_pos henabled]
    apply settled_of_result .interface _ h hfaults
    rw [hentity]
    cases Decode.enabledInterface fields with
    | ok config => exact ⟨fun _ => ⟨_, rfl⟩, fun _ => ⟨_, rfl⟩⟩
    | error fault =>
      constructor
      · rintro ⟨_, ⟨⟩⟩
      · rintro ⟨_, ⟨⟩⟩
  · have hdecoded : Decode.interface fields = .ok none :=
      if_neg fun hflag => henabled (Decode.flag_eq_true_iff.1 hflag)
    rw [hdecoded] at hentity hfaults
    rw [if_neg henabled]
    refine ⟨hentity, List.length_eq_zero_iff.1 ?_⟩
    rw [length_errorsAt .interface h, hfaults]
    rfl

/-- The last record of a key in the table of groups is settled: its key spells a group that has
settings now, or there is one error. -/
theorem groups_accounted (h : lastRecord? snapshot.groups key = some fields) :
    Settled (∃ family name group, key = Decode.groupRecordKey family name ∧
        ((of snapshot).config.groups.get family)[name]? = some group)
      ((of snapshot).errorsAt .ecmp key) := by
  cases hspelled : Decode.groupKey key with
  | error fault =>
    apply settled_of_result .ecmp (Except.error fault : Except _ Unit) h
    · unfold faults
      simp only [hspelled]
      rfl
    · constructor
      · rintro ⟨family, name, group, hkey, -⟩
        rw [Decode.groupKey_eq_ok_iff.2 hkey] at hspelled
        cases hspelled
      · rintro ⟨_, ⟨⟩⟩
  | ok spelled =>
    obtain ⟨family, name⟩ := spelled
    have hkey := Decode.groupKey_eq_ok_iff.1 hspelled
    have hentity : ((of snapshot).config.groups.get family)[name]? =
        (Decode.group family name fields).toOption := by
      show ((configOf snapshot).groups.get family)[name]? = _
      rw [Snapshot.getElem?_groups_configOf, ← hkey, h, Option.bind_some]
    apply settled_of_result .ecmp (Decode.group family name fields) h
    · unfold faults
      simp only [hspelled]
    · constructor
      · rintro ⟨family', name', group, hkey', hgroup⟩
        -- The key spells one group only, so the group it is kept as is the one it spells.
        obtain ⟨rfl, rfl⟩ := Decode.groupRecordKey_inj.1 (hkey.symm.trans hkey')
        rw [hentity] at hgroup
        exact ⟨group, toOption_eq_some_iff.1 hgroup⟩
      · rintro ⟨group, hok⟩
        exact ⟨family, name, group, hkey, hentity.trans (toOption_eq_some_iff.2 hok)⟩

/-- The last RDMA record is settled: it has become the RDMA settings, or there is one error. -/
theorem rdma_accounted (h : lastRecord? snapshot.rdma Schema.globalKey = some fields) :
    Settled (∃ config, (of snapshot).config.rdma = some config)
      ((of snapshot).errorsAt .rdma Schema.globalKey) := by
  have hentity : (of snapshot).config.rdma = (Decode.rdma fields).toOption := by
    show (configOf snapshot).rdma = _
    rw [Snapshot.rdma_configOf, h, Option.bind_some]
  apply settled_of_result .rdma (Decode.rdma fields) h rfl
  simp only [hentity, toOption_eq_some_iff]

/-- Replacing a faulty value by its default reports at most one fault. -/
theorem length_orDefault_le {α : Type} (default : α) (result : Except Fault α) :
    (Decode.orDefault default result).2.length ≤ 1 := by
  cases result <;> simp [Decode.orDefault]

/-- A global record has at most two faults: one in its versions and one in its congestion
control. -/
theorem length_faults_global_le (fields : Fields) : (Decode.global fields).2.length ≤ 2 := by
  have hfamilies := length_orDefault_le FamilySet.full (Decode.families fields)
  have hcongestion := length_orDefault_le CongestionControl.hybrid
    ((CongestionControl.ofName (fields.valueOr "congestion_control" "hybrid")).mapError
      Fault.unknownValue)
  unfold Decode.global
  rw [List.length_append]
  omega

/-- The last global record is kept whatever its faults are, of which there are at most two. -/
theorem global_accounted (h : lastRecord? snapshot.global Schema.globalKey = some fields) :
    (∃ config, (of snapshot).config.global = some config) ∧
      ((of snapshot).errorsAt .global Schema.globalKey).length ≤ 2 := by
  have hentity : (of snapshot).config.global = some (Decode.global fields).1 := by
    show (configOf snapshot).global = _
    rw [Snapshot.global_configOf, Snapshot.globalRecord?, h, Option.map_some]
  have hfaults : faults .global Schema.globalKey fields = (Decode.global fields).2 := rfl
  refine ⟨⟨_, hentity⟩, ?_⟩
  rw [length_errorsAt .global h, hfaults]
  exact length_faults_global_le fields

/-- A record that stands beside the only one of its table that is read has exactly one error. -/
theorem foreign_accounted {scope : Scope} (hscope : scope = .global ∨ scope = .rdma)
    (hkey : key ≠ Schema.globalKey) (h : lastRecord? (snapshot.table scope) key = some fields) :
    ((of snapshot).errorsAt scope key).length = 1 := by
  have hfaults : faults scope key fields = [.foreignKey] := by
    rcases hscope with rfl | rfl <;> simp only [faults, if_neg hkey]
  rw [length_errorsAt scope h, hfaults]
  rfl

/-! ## The errors in order -/

variable (snapshot)

/-- Every error comes from the last record under its own key. -/
theorem mem_errorsOf {error : ValidationError} (h : error ∈ errorsOf snapshot) :
    ∃ fields, lastRecord? (snapshot.table error.scope) error.key = some fields ∧
      error ∈ recordErrors error.scope error.key fields := by
  obtain ⟨scope, -, htable⟩ := List.mem_flatMap.1 h
  obtain rfl := scope_of_mem_tableErrors htable
  rw [tableErrors_eq] at htable
  obtain ⟨⟨key, fields⟩, hrecord, herror⟩ := List.mem_flatMap.1 htable
  obtain ⟨-, rfl⟩ := place_of_mem_recordErrors herror
  rw [Std.ExtTreeMap.mem_toList_iff_getElem?_eq_some, getElem?_lastRecords] at hrecord
  exact ⟨fields, hrecord, herror⟩

/-- The errors of a table are in the order of their keys. -/
theorem ordered_tableErrors (scope : Scope) (table : Table) :
    (tableErrors scope table).Pairwise fun a b => a.key ≤ b.key := by
  rw [tableErrors_eq, List.pairwise_flatMap]
  constructor
  · rintro ⟨key, fields⟩ -
    refine List.pairwise_of_forall_mem_list fun a ha b hb => ?_
    rw [(place_of_mem_recordErrors ha).2, (place_of_mem_recordErrors hb).2]
  · refine (NameMap.pairwise_toList _).imp ?_
    intro record later hlt a ha b hb
    rw [(place_of_mem_recordErrors ha).2, (place_of_mem_recordErrors hb).2]
    exact le_of_lt (compare_lt_iff_lt.1 hlt)

/-- All errors are in the order of their scopes, and those of one scope in the order of their
keys. -/
theorem ordered_errorsOf : (errorsOf snapshot).Pairwise fun a b =>
    a.scope.rank < b.scope.rank ∨ a.scope = b.scope ∧ a.key ≤ b.key := by
  unfold errorsOf
  rw [List.pairwise_flatMap]
  constructor
  · intro scope _
    refine (ordered_tableErrors scope (snapshot.table scope)).imp_of_mem ?_
    intro a b ha hb hle
    rw [scope_of_mem_tableErrors ha, scope_of_mem_tableErrors hb]
    exact Or.inr ⟨rfl, hle⟩
  · have hscopes : Scope.all.Pairwise fun a b => a.rank < b.rank := by decide
    refine hscopes.imp ?_
    intro scope later hlt a ha b hb
    rw [scope_of_mem_tableErrors ha, scope_of_mem_tableErrors hb]
    exact Or.inl hlt

/-- Validation accounts for every record of a snapshot, and for nothing else. -/
theorem accountsFor_of : (of snapshot).AccountsFor snapshot where
  families _ _ := families_accounted
  interfaces _ _ := interfaces_accounted
  groups _ _ := groups_accounted
  rdma _ := rdma_accounted
  global _ := global_accounted
  foreign _ _ _ := foreign_accounted
  fromFamily family config h := by
    have hentity := (snapshot.get_families_configOf family).symm.trans h
    obtain ⟨fields, hrecord, hdecoded⟩ := Option.bind_eq_some_iff.1 hentity
    exact ⟨fields, hrecord, toOption_eq_some_iff.1 hdecoded⟩
  fromInterface name config h := by
    have hentity := (snapshot.getElem?_interfaces_configOf name).symm.trans h
    obtain ⟨fields, hrecord, hdecoded⟩ := Option.bind_eq_some_iff.1 hentity
    exact ⟨fields, hrecord, toOption_eq_some_iff.1 (Option.join_eq_some_iff.1 hdecoded)⟩
  fromGroup family name group h := by
    have hentity := (snapshot.getElem?_groups_configOf family name).symm.trans h
    obtain ⟨fields, hrecord, hdecoded⟩ := Option.bind_eq_some_iff.1 hentity
    exact ⟨fields, hrecord, toOption_eq_some_iff.1 hdecoded⟩
  fromRdma config h := by
    have hentity := snapshot.rdma_configOf.symm.trans h
    obtain ⟨fields, hrecord, hdecoded⟩ := Option.bind_eq_some_iff.1 hentity
    exact ⟨fields, hrecord, toOption_eq_some_iff.1 hdecoded⟩
  fromGlobal config h := by
    have hentity := snapshot.global_configOf.symm.trans h
    exact Option.map_eq_some_iff.1 hentity
  named error h := by
    obtain ⟨fields, hrecord, -⟩ := mem_errorsOf snapshot h
    exact ⟨fields, mem_of_lastRecord? hrecord, hrecord⟩
  ordered := ordered_errorsOf snapshot

end Validation

end DualStack
