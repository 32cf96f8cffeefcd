import DualStack.Proofs.Entities
import DualStack.Proofs.Run
import Mathlib.Logic.Relation

/-!
# The last one counts

A list of fields stands for the last value of each name, and a table for the last record of each
key. Validation looks at nothing else: two snapshots whose tables stand for the same maps are
accepted and rejected alike, down to the order of the errors. Earlier records and earlier values
of a field may be moved, dropped or broken at will.
-/

set_option autoImplicit false

namespace DualStack

/-! ## What lists of pairs stand for -/

section

variable {α : Type}

/-- The last value of a name in a list of pairs. -/
def lastOf? (pairs : List (String × α)) (name : String) : Option α :=
  (pairs.reverse.find? (·.1 == name)).map Prod.snd

/-- The last value in two lists is that of the second list, or of the first if the second has
none. -/
theorem lastOf?_append (pairs pairs' : List (String × α)) (name : String) :
    lastOf? (pairs ++ pairs') name = (lastOf? pairs' name).or (lastOf? pairs name) := by
  unfold lastOf?
  rw [List.reverse_append, List.find?_append]
  cases pairs'.reverse.find? (·.1 == name) <;> rfl

/-- The first pair of a list counts only if no later one has its name. -/
theorem lastOf?_cons (pair : String × α) (pairs : List (String × α)) (name : String) :
    lastOf? (pair :: pairs) name =
      (lastOf? pairs name).or (if pair.1 = name then some pair.2 else none) := by
  have hone : lastOf? [pair] name = if pair.1 = name then some pair.2 else none := by
    unfold lastOf?
    by_cases h : pair.1 = name <;> simp [h]
  rw [← List.singleton_append, lastOf?_append, hone]

/-- A name that occurs has a last value. -/
theorem exists_lastOf?_of_mem {pairs : List (String × α)} {pair : String × α}
    (h : pair ∈ pairs) : ∃ a, lastOf? pairs pair.1 = some a := by
  have hfound : (pairs.reverse.find? (·.1 == pair.1)).isSome = true :=
    List.find?_isSome.2 ⟨pair, List.mem_reverse.2 h, by simp⟩
  obtain ⟨found, hfound⟩ := Option.isSome_iff_exists.1 hfound
  exact ⟨found.2, by simp [lastOf?, hfound]⟩

end

/-- The last value of each name. -/
def Fields.meaning (fields : Fields) : String → Option String :=
  lastOf? fields

/-- The last record of each key, by what its fields stand for. -/
def Table.meaning (table : Table) : String → Option (String → Option String) :=
  fun key => (lastOf? table key).map Fields.meaning

/-- What fields stand for is the value that is found by name. -/
theorem Fields.meaning_eq_value? (fields : Fields) : fields.meaning = fields.value? := by
  funext name
  rw [value?_eq_find?]
  rfl

/-! ## Decoding looks at last values only -/

/-- A function of fields that depends only on what they stand for. -/
def Respects {β : Type} (f : Fields → β) : Prop :=
  ∀ fields fields' : Fields, fields'.meaning = fields.meaning → f fields' = f fields

/-- What is computed from a function of the meaning is again a function of the meaning. -/
theorem Respects.comp {β γ : Type} {f : Fields → β} (hf : Respects f) (g : β → γ) :
    Respects fun fields => g (f fields) := by
  intro fields fields' hmeaning
  exact congrArg g (hf fields fields' hmeaning)

namespace Decode

section

variable {fields fields' : Fields} (h : fields'.value? = fields.value?)
include h

/-- A value with a default depends on the meaning of the fields alone. -/
theorem valueOr_congr (name default : String) :
    fields'.valueOr name default = fields.valueOr name default := by
  unfold Fields.valueOr
  rw [h]

/-- A flag depends on the meaning of the fields alone. -/
theorem flag_congr (name : String) : flag fields' name = flag fields name := by
  unfold flag
  rw [h]

/-- The hash of fields depends on their meaning alone. -/
theorem toHash_congr : fields'.toHash = fields.toHash := by
  apply Std.ExtTreeMap.ext_getElem?
  intro name
  rw [Fields.getElem?_toHash, Fields.getElem?_toHash, h]

/-- A number depends on the meaning of the fields alone. -/
theorem number?_congr {α : Type} (read : String → Option α) (name : String) :
    number? read fields' name = number? read fields name := by
  unfold number?
  rw [h]

/-- A number with a default depends on the meaning of the fields alone. -/
theorem numberOr_congr {α : Type} (read : String → Option α) (name : String) (default : α) :
    numberOr read fields' name default = numberOr read fields name default := by
  unfold numberOr
  rw [number?_congr h]

/-- The families of a record depend on the meaning of its fields alone. -/
theorem families_congr : Decode.families fields' = Decode.families fields := by
  unfold Decode.families
  rw [valueOr_congr h]

/-- A path limit depends on the meaning of the fields alone. -/
theorem maxPaths_congr (enabled : FamilySet) (family : Family) :
    maxPaths fields' enabled family = maxPaths fields enabled family := by
  unfold maxPaths
  rw [number?_congr h]

end

/-- Reading a global record respects the meaning of fields. -/
theorem respects_global : Respects Decode.global := by
  intro fields fields' hmeaning
  simp only [Fields.meaning_eq_value?] at hmeaning
  unfold Decode.global globalRequested
  simp only [families_congr hmeaning, valueOr_congr hmeaning, flag_congr hmeaning]

/-- Reading the record of a family respects the meaning of fields. -/
theorem respects_family : Respects Decode.family := by
  intro fields fields' hmeaning
  simp only [Fields.meaning_eq_value?] at hmeaning
  unfold Decode.family
  simp only [numberOr_congr hmeaning, flag_congr hmeaning, hmeaning]

/-- Reading the record of an interface respects the meaning of fields, of which it keeps a copy as a
hash. -/
theorem respects_interface : Respects Decode.interface := by
  intro fields fields' hmeaning
  simp only [Fields.meaning_eq_value?] at hmeaning
  unfold Decode.interface interfaceEnabled enabledInterface
  simp only [flag_congr hmeaning, families_congr hmeaning, maxPaths_congr hmeaning,
    valueOr_congr hmeaning, toHash_congr hmeaning]

/-- Reading the record of a group respects the meaning of fields. -/
theorem respects_group (family : Family) (name : String) :
    Respects (Decode.group family name) := by
  intro fields fields' hmeaning
  simp only [Fields.meaning_eq_value?] at hmeaning
  unfold Decode.group
  simp only [valueOr_congr hmeaning, numberOr_congr hmeaning]

/-- Reading an RDMA record respects the meaning of fields. -/
theorem respects_rdma : Respects Decode.rdma := by
  intro fields fields' hmeaning
  simp only [Fields.meaning_eq_value?] at hmeaning
  unfold Decode.rdma
  simp only [valueOr_congr hmeaning, numberOr_congr hmeaning]

end Decode

namespace Validation

/-- The faults of a record depend on the meaning of its fields alone, in every scope. -/
theorem respects_faults (scope : Scope) (key : String) : Respects (faults scope key) := by
  intro fields fields' hmeaning
  cases scope with
  | global =>
    unfold faults
    rw [Decode.respects_global fields fields' hmeaning]
  | addressFamily =>
    unfold faults
    rw [Decode.respects_family fields fields' hmeaning]
  | interface =>
    unfold faults
    rw [Decode.respects_interface fields fields' hmeaning]
  | ecmp =>
    unfold faults
    cases Decode.groupKey key with
    | error fault => rfl
    | ok spelled => simp only [Decode.respects_group _ _ fields fields' hmeaning]
  | rdma =>
    unfold faults
    rw [Decode.respects_rdma fields fields' hmeaning]

/-! ## Validation looks at last records only -/

section

variable {table table' : Table} (h : table'.meaning = table.meaning)
include h

/-- What is made of the record under a key is the same if it depends on meanings only. -/
theorem map_lastRecord?_congr {β : Type} {f : Fields → β} (hf : Respects f) (key : String) :
    (lastRecord? table' key).map f = (lastRecord? table key).map f := by
  have hkey : (lastRecord? table' key).map Fields.meaning =
      (lastRecord? table key).map Fields.meaning := congrFun h key
  cases hrecord : lastRecord? table key with
  | none =>
    rw [hrecord] at hkey
    rw [Option.map_eq_none_iff.1 hkey]
  | some fields =>
    rw [hrecord] at hkey
    obtain ⟨fields', hrecord', hmeaning⟩ := Option.map_eq_some_iff.1 hkey
    rw [hrecord', Option.map_some, Option.map_some, hf fields fields' hmeaning]

/-- What may be read from the last record of a key depends on the meaning of the table alone. -/
theorem bind_lastRecord?_congr {β : Type} {f : Fields → Option β} (hf : Respects f)
    (key : String) : (lastRecord? table' key).bind f = (lastRecord? table key).bind f := by
  have hjoin : ∀ record : Option Fields, record.bind f = (record.map f).join := by
    intro record
    cases record <;> rfl
  rw [hjoin, hjoin, map_lastRecord?_congr h hf]

/-- The errors of a table depend on its meaning alone. -/
theorem tableErrors_congr (scope : Scope) : tableErrors scope table' = tableErrors scope table := by
  have hmap : (lastRecords table').map (faults scope) = (lastRecords table).map (faults scope) := by
    apply Std.ExtTreeMap.ext_getElem?
    intro key
    rw [Std.ExtTreeMap.getElem?_map, Std.ExtTreeMap.getElem?_map, getElem?_lastRecords,
      getElem?_lastRecords]
    exact map_lastRecord?_congr h (respects_faults scope key) key
  -- the errors of a table are read off the map from keys to faults
  have herrors : ∀ t : Table, tableErrors scope t =
      ((lastRecords t).map (faults scope)).toList.flatMap fun (key, faults) =>
        faults.map fun fault => ⟨scope, key, fault.message⟩ := by
    intro t
    rw [Std.ExtTreeMap.toList_map, List.flatMap_map]
    rfl
  rw [herrors, herrors, hmap]

end

end Validation

namespace Snapshot

variable {snapshot snapshot' : Snapshot}
  (h : ∀ scope, (snapshot'.table scope).meaning = (snapshot.table scope).meaning)
include h

/-- Snapshots with the same meaning have the same configuration, entity by entity. -/
theorem configOf_congr : Validation.configOf snapshot' = Validation.configOf snapshot := by
  refine Config.ext_entity ?global (fun family => ?families) (fun name => ?interfaces)
    (fun family name => ?groups) ?rdma
  case global =>
    rw [global_configOf, global_configOf]
    exact Validation.map_lastRecord?_congr (h .global) (Decode.respects_global.comp _) _
  case families =>
    rw [get_families_configOf, get_families_configOf]
    exact Validation.bind_lastRecord?_congr (h .addressFamily) (Decode.respects_family.comp _) _
  case interfaces =>
    rw [getElem?_interfaces_configOf, getElem?_interfaces_configOf]
    exact Validation.bind_lastRecord?_congr (h .interface)
      (Decode.respects_interface.comp fun result => result.toOption.join) _
  case groups =>
    rw [getElem?_groups_configOf, getElem?_groups_configOf]
    exact Validation.bind_lastRecord?_congr (h .ecmp)
      ((Decode.respects_group family name).comp _) _
  case rdma =>
    rw [rdma_configOf, rdma_configOf]
    exact Validation.bind_lastRecord?_congr (h .rdma) (Decode.respects_rdma.comp _) _

/-- Snapshots with the same meaning have the same errors in the same order. -/
theorem errorsOf_congr : Validation.errorsOf snapshot' = Validation.errorsOf snapshot := by
  unfold Validation.errorsOf
  congr 1
  funext scope
  exact Validation.tableErrors_congr (h scope) scope

end Snapshot

/-! ## Edits without effect -/

/-- One change to a list of pairs that leaves the last value of every name as it is: neighbours
with different names change places, a pair that a later one shadows is left out, or a value is
replaced by one that is as good. -/
inductive Edit {α : Type} (same : α → α → Prop) :
    List (String × α) → List (String × α) → Prop where
  | swap (before after : List (String × α)) (a b : String × α) (h : a.1 ≠ b.1) :
    Edit same (before ++ a :: b :: after) (before ++ b :: a :: after)
  | drop (before after : List (String × α)) (a : String × α) (h : ∃ b ∈ after, b.1 = a.1) :
    Edit same (before ++ a :: after) (before ++ after)
  | replace (before after : List (String × α)) (name : String) (a a' : α) (h : same a a') :
    Edit same (before ++ (name, a) :: after) (before ++ (name, a') :: after)

/-- An edit leaves the last value of every name as good as it was. -/
theorem Edit.map_lastOf? {α β : Type} {same : α → α → Prop} {f : α → β}
    (hf : ∀ a a', same a a' → f a' = f a) {pairs pairs' : List (String × α)}
    (h : Edit same pairs pairs') (name : String) :
    (lastOf? pairs' name).map f = (lastOf? pairs name).map f := by
  cases h with
  | swap before after a b hne =>
    have htail : lastOf? (b :: a :: after) name = lastOf? (a :: b :: after) name := by
      simp only [lastOf?_cons]
      by_cases ha : a.1 = name
      · have hb : b.1 ≠ name := fun hb => hne (ha.trans hb.symm)
        simp [ha, hb]
      · simp [ha]
    rw [lastOf?_append, lastOf?_append, htail]
  | drop before after a hshadow =>
    have htail : lastOf? (a :: after) name = lastOf? after name := by
      rw [lastOf?_cons]
      by_cases ha : a.1 = name
      · obtain ⟨b, hb, hname⟩ := hshadow
        obtain ⟨last, hlast⟩ := exists_lastOf?_of_mem hb
        rw [← ha, ← hname, hlast]
        rfl
      · simp [ha]
    rw [lastOf?_append, lastOf?_append, htail]
  | replace before after key a a' hsame =>
    simp only [lastOf?_append, lastOf?_cons, Option.map_or]
    by_cases hkey : key = name
    · simp [hkey, hf a a' hsame]
    · simp [hkey]

/-- Fields with the same last values, by edits. -/
def Fields.Rearranged : Fields → Fields → Prop :=
  Relation.EqvGen (Edit Eq)

/-- Tables with the same last records, by edits of the table and of the fields in it. -/
def Table.Rearranged : Table → Table → Prop :=
  Relation.EqvGen (Edit Fields.Rearranged)

/-- Snapshots whose tables are rearranged. -/
def Snapshot.Rearranged (snapshot snapshot' : Snapshot) : Prop :=
  ∀ scope, (snapshot.table scope).Rearranged (snapshot'.table scope)

/-- Rearranging fields leaves their meaning. -/
theorem Fields.Rearranged.meaning_eq {fields fields' : Fields} (h : fields.Rearranged fields') :
    fields'.meaning = fields.meaning := by
  induction h with
  | rel fields fields' hedit =>
    funext name
    have hlast := hedit.map_lastOf? (f := id) (fun _ _ h => h.symm) name
    rwa [Option.map_id, id_eq, id_eq] at hlast
  | refl fields => rfl
  | symm fields fields' _ ih => exact ih.symm
  | trans fields fields' fields'' _ _ ih ih' => exact ih'.trans ih

/-- Rearranging a table leaves its meaning. -/
theorem Table.Rearranged.meaning_eq {table table' : Table} (h : table.Rearranged table') :
    table'.meaning = table.meaning := by
  induction h with
  | rel table table' hedit =>
    funext key
    exact hedit.map_lastOf? (fun _ _ h => Fields.Rearranged.meaning_eq h) key
  | refl table => rfl
  | symm table table' _ ih => exact ih.symm
  | trans table table' table'' _ _ ih ih' => exact ih'.trans ih

namespace Snapshot

/-- Snapshots that stand for the same maps validate to the same configuration and to the same
errors in the same order. Among them are those that differ by edits without effect: records and
fields in another order, and earlier ones, in order or not, added, changed or left out. -/
theorem validation_of_last_records (snapshot snapshot' : Snapshot) :
    ((∀ scope, (snapshot'.table scope).meaning = (snapshot.table scope).meaning) →
      Validation.of snapshot' = Validation.of snapshot) ∧
    (snapshot.Rearranged snapshot' →
      (∀ scope, (snapshot'.table scope).meaning = (snapshot.table scope).meaning) ∧
      Validation.of snapshot' = Validation.of snapshot ∧
      snapshot'.derivedState.notifications = snapshot.derivedState.notifications) := by
  have hsame : (∀ scope, (snapshot'.table scope).meaning = (snapshot.table scope).meaning) →
      Validation.of snapshot' = Validation.of snapshot := by
    intro h
    unfold Validation.of
    rw [configOf_congr h, errorsOf_congr h]
  refine ⟨hsame, fun hrearranged => ?_⟩
  have hmeaning : ∀ scope, (snapshot'.table scope).meaning = (snapshot.table scope).meaning :=
    fun scope => (hrearranged scope).meaning_eq
  refine ⟨hmeaning, hsame hmeaning, ?_⟩
  unfold derivedState
  rw [hsame hmeaning]

/-- A faulty record that a later one shadows, a value that is overruled in its own record, and two
records in another order. -/
theorem validation_of_shadowed_records :
    let snapshot : Snapshot :=
      { Snapshot.empty with
        interfaces :=
          [("Ethernet0", [("ue_enable", "true"), ("ip_versions", "5")]),
           ("Ethernet4", [("ue_enable", "true")]),
           ("Ethernet0", [("ue_enable", "false"), ("max_paths_v4", "4"), ("ip_versions", "4"),
             ("ue_enable", "true")])] }
    let snapshot' : Snapshot :=
      { Snapshot.empty with
        interfaces :=
          [("Ethernet0", [("max_paths_v4", "4"), ("ip_versions", "4"), ("ue_enable", "true")]),
           ("Ethernet4", [("ue_enable", "true")])] }
    snapshot.Rearranged snapshot' ∧ Validation.of snapshot' = Validation.of snapshot ∧
      snapshot'.derivedState.notifications = snapshot.derivedState.notifications ∧
      (Validation.of snapshot).errors.length = 1 ∧
      (Validation.of snapshot).config.interfaces.keys = ["Ethernet0"] := by
  intro snapshot snapshot'
  have hfields : Fields.Rearranged
      [("ue_enable", "false"), ("max_paths_v4", "4"), ("ip_versions", "4"), ("ue_enable", "true")]
      [("max_paths_v4", "4"), ("ip_versions", "4"), ("ue_enable", "true")] :=
    .rel _ _ (.drop [] _ _ ⟨("ue_enable", "true"), by simp, rfl⟩)
  have hrecords : (snapshot.table .interface).Rearranged (snapshot'.table .interface) :=
    .trans _ _ _ (.rel _ _ (.drop [] _ _ ⟨_, List.mem_cons_of_mem _ List.mem_cons_self, rfl⟩))
      (.trans _ _ _ (.rel _ _ (.swap [] [] _ _ (by decide)))
        (.rel _ _ (.replace [] _ _ _ _ hfields)))
  have hrearranged : snapshot.Rearranged snapshot' := by
    intro scope
    cases scope with
    | interface => exact hrecords
    | _ => exact .refl _
  obtain ⟨hmeaning, -, hnotifications⟩ :=
    (validation_of_last_records snapshot snapshot').2 hrearranged
  exact ⟨hrearranged, (validation_of_last_records snapshot snapshot').1 hmeaning, hnotifications,
    by decide +kernel, by decide +kernel⟩

end Snapshot

end DualStack
