import DualStack.Proofs.NumberFields

/-!
# Another spelling of a number

A number may be spelled with blanks around it, with a plus sign and with zeros in front. The reader
takes no notice of how it is spelled, so a record in which one number is spelled in another way is
accepted as it was, and the state is written as it was. The one spelling that is written back is
read as the same number again, which makes the written text a fixed point.
-/

set_option autoImplicit false

namespace DualStack

/-- Two records with the same value in every field but that of a number, which is a given text in
the second of them. -/
structure NumberField.Respells (number : NumberField) (text : String)
    (fields fields' : Fields) : Prop where
  value : fields'.value? number.name = some text
  others : ∀ name, name ≠ number.name → fields'.value? name = fields.value? name

/-- Two snapshots with the same last records but for the text of a number. -/
structure Snapshot.Respelled (number : NumberField) (text : String) (a b : Snapshot) : Prop where
  others : a.SameBut number.scope number.key b
  record : ∃ fields fields',
    Validation.lastRecord? (a.table number.scope) number.key = some fields ∧
    Validation.lastRecord? (b.table number.scope) number.key = some fields' ∧
    number.Respells text fields fields'

/-! ## The faults of a result -/

namespace Validation

/-- Mapping a result leaves its fault. -/
theorem faultOf_map {α β : Type} (f : α → β) (x : Except Fault α) :
    faultOf (f <$> x) = faultOf x := by
  cases x <;> rfl

/-- Two steps with the same faults have the same faults behind the same first step. -/
theorem faultOf_bind_congr_right {α γ δ : Type} {x : Except Fault α} {f : α → Except Fault γ}
    {g : α → Except Fault δ} (hnext : ∀ a, faultOf (f a) = faultOf (g a)) :
    faultOf (x >>= f) = faultOf (x >>= g) := by
  cases x with
  | error fault => rfl
  | ok a => exact hnext a

/-- A step that fails alike may give another value if what follows fails alike for any two. -/
theorem faultOf_bind_congr {α β γ δ : Type} {x : Except Fault α} {y : Except Fault β}
    {f : α → Except Fault γ} {g : β → Except Fault δ} (hfirst : faultOf x = faultOf y)
    (hnext : ∀ a b, faultOf (f a) = faultOf (g b)) :
    faultOf (x >>= f) = faultOf (y >>= g) := by
  cases x with
  | error fault =>
    cases y with
    | error fault' => exact hfirst
    | ok b => cases hfirst
  | ok a =>
    cases y with
    | error fault => cases hfirst
    | ok b => exact hnext a b

end Validation

/-! ## What is read of a respelled record -/

namespace NumberField

section

variable {number : NumberField} {text text' : String} {fields fields' : Fields}
  (h : number.Respells text' fields fields')
include h

/-- Fields other than the number have the same values with their defaults. -/
theorem Respells.valueOr_eq {name : String} (default : String) (hname : name ≠ number.name) :
    fields'.valueOr name default = fields.valueOr name default := by
  unfold Fields.valueOr
  rw [h.others name hname]

/-- Flags are not affected by the text of a number. -/
theorem Respells.flag_eq {name : String} (hname : name ≠ number.name) :
    Decode.flag fields' name = Decode.flag fields name := by
  unfold Decode.flag
  rw [h.others name hname]

/-- A number field is read as before, or it is the one with the new text and both texts are
read. -/
theorem Respells.number?_eq_or_ok {α : Type} {read : String → Option α} {a a' : α}
    (hvalue : fields.value? number.name = some text) (hread : read (Text.trim text) = some a)
    (hread' : read (Text.trim text') = some a') (name : String) :
    Decode.number? read fields' name = Decode.number? read fields name ∨
      Decode.number? read fields' name = .ok (some a') ∧
        Decode.number? read fields name = .ok (some a) := by
  unfold Decode.number?
  by_cases hname : name = number.name
  · right
    rw [hname, h.value, hvalue]
    simp only [hread, hread', and_self]
  · left
    rw [h.others name hname]

/-- Two spellings of one number are read alike. -/
theorem Respells.number?_eq {α : Type} {read : String → Option α} {a : α}
    (hvalue : fields.value? number.name = some text) (hread : read (Text.trim text) = some a)
    (hread' : read (Text.trim text') = some a) (name : String) :
    Decode.number? read fields' name = Decode.number? read fields name := by
  rcases h.number?_eq_or_ok hvalue hread hread' name with heq | ⟨hnew, hold⟩
  · exact heq
  · exact hnew.trans hold.symm

end

section

variable {text' : String} {fields fields' : Fields}

/-- The flag and the entropy fields of a family are not affected by the text of its port. -/
theorem Respells.family_others {family : Family}
    (h : (port family).Respells text' fields fields') :
    Decode.flag fields' "enabled" = Decode.flag fields "enabled" ∧
      fields'.value? "entropy_fields" = fields.value? "entropy_fields" :=
  ⟨h.flag_eq (by simp [name]), h.others _ (by simp [name])⟩

/-- Everything else in the record of an interface is not affected by the text of a path limit. -/
theorem Respells.interface_others {interface : String} {family : Family}
    (h : (interfacePaths interface family).Respells text' fields fields') :
    Decode.flag fields' "ue_enable" = Decode.flag fields "ue_enable" ∧
      Decode.families fields' = Decode.families fields ∧
      fields'.valueOr "load_balance_mode" "ecmp" = fields.valueOr "load_balance_mode" "ecmp" ∧
      fields'.valueOr "prefer_version" "4" = fields.valueOr "prefer_version" "4" := by
  have hname : ∀ name ∈ ["ue_enable", "ip_versions", "load_balance_mode", "prefer_version"],
      name ≠ (interfacePaths interface family).name := by
    cases family <;> simp [name, maxPathsField]
  refine ⟨h.flag_eq (hname _ (by simp)), ?_, h.valueOr_eq _ (hname _ (by simp)),
    h.valueOr_eq _ (hname _ (by simp))⟩
  unfold Decode.families
  rw [h.valueOr_eq _ (hname "ip_versions" (by simp))]

/-- The prefix and the hash of a group are not affected by the text of its path limit. -/
theorem Respells.group_others {family : Family} {group : String}
    (h : (groupPaths family group).Respells text' fields fields') :
    fields'.valueOr "prefix" "" = fields.valueOr "prefix" "" ∧
      fields'.valueOr "hash_algorithm" "crc32" = fields.valueOr "hash_algorithm" "crc32" :=
  ⟨h.valueOr_eq _ (by simp [name]), h.valueOr_eq _ (by simp [name])⟩

/-- The connection mode is not affected by the text of a number in the RDMA record. -/
theorem Respells.rdma_others {number : NumberField} (hscope : number.scope = .rdma)
    (h : number.Respells text' fields fields') :
    fields'.valueOr "connection_mode" "ephemeral" =
      fields.valueOr "connection_mode" "ephemeral" := by
  apply h.valueOr_eq
  cases number with
  | connections family => cases family <;> simp [name, maxConnectionsField]
  | timeout => simp [name]
  | port _ | interfacePaths _ _ | groupPaths _ _ => cases hscope

end

/-- The numbers of the RDMA record have 32 bits. -/
theorem limit_of_rdma {number : NumberField} (hscope : number.scope = .rdma) :
    number.limit = 4294967296 := by
  cases number with
  | connections _ | timeout => rfl
  | port _ | interfacePaths _ _ | groupPaths _ _ => cases hscope

/-- There is no number in the global record. -/
theorem scope_ne_global (number : NumberField) : number.scope ≠ .global := by
  cases number <;> simp [scope]

/-! ## One number is as good as another -/

section

open Validation (faultOf faultOf_map faultOf_bind_congr faultOf_bind_congr_right)

variable {text text' : String} {fields fields' : Fields} {m n : Nat}

/-- Any number of the two records is read alike, or it is the one that differs and is read from
both. -/
theorem Respells.number?_uint32_eq_or_ok {number : NumberField} (hlimit : number.limit = 4294967296)
    (hspells : number.Spells text n) (hspells' : number.Spells text' m)
    (hvalue : fields.value? number.name = some text)
    (h : number.Respells text' fields fields') (name : String) :
    Decode.number? Text.uint32? fields' name = Decode.number? Text.uint32? fields name ∨
      Decode.number? Text.uint32? fields' name = .ok (some (.ofNat m)) ∧
        Decode.number? Text.uint32? fields name = .ok (some (.ofNat n)) :=
  h.number?_eq_or_ok hvalue (uint32?_of_spells hlimit hspells) (uint32?_of_spells hlimit hspells')
    name

/-- A number with a default that is read alike or from both records has the same fault. -/
theorem faultOf_numberOr {α : Type} {read : String → Option α} {default a a' : α} {name : String}
    (h : Decode.number? read fields' name = Decode.number? read fields name ∨
      Decode.number? read fields' name = .ok (some a') ∧
        Decode.number? read fields name = .ok (some a)) :
    faultOf (Decode.numberOr read fields' name default) =
      faultOf (Decode.numberOr read fields name default) := by
  unfold Decode.numberOr
  rcases h with heq | ⟨hnew, hold⟩
  · rw [heq]
  · rw [hnew, hold]
    rfl

/-- A path limit that is read alike or from both records has the same fault. -/
theorem faultOf_maxPaths {families : FamilySet} {family : Family} {a a' : UInt32}
    (h : Decode.number? Text.uint32? fields' (maxPathsField family) =
        Decode.number? Text.uint32? fields (maxPathsField family) ∨
      Decode.number? Text.uint32? fields' (maxPathsField family) = .ok (some a') ∧
        Decode.number? Text.uint32? fields (maxPathsField family) = .ok (some a)) :
    faultOf (Decode.maxPaths fields' families family) =
      faultOf (Decode.maxPaths fields families family) := by
  unfold Decode.maxPaths
  rcases h with heq | ⟨hnew, hold⟩
  · rw [heq]
  · rw [hnew, hold]
    cases families.get family <;> rfl

/-- What is wrong with a record does not depend on which number below the limit it gives. -/
theorem faults_of_respells {number : NumberField} (hspells : number.Spells text n)
    (hspells' : number.Spells text' m) (hvalue : fields.value? number.name = some text)
    (h : number.Respells text' fields fields') :
    Validation.faults number.scope number.key fields' =
      Validation.faults number.scope number.key fields := by
  cases number with
  | port family =>
    have hport := h.number?_eq_or_ok hvalue (uint16?_of_spells hspells)
      (uint16?_of_spells hspells')
    simp only [Validation.faults, scope, key, Family.ofName_eq_ok_iff.2 rfl]
    unfold Decode.family
    exact faultOf_bind_congr (faultOf_numberOr (hport _)) fun _ _ => rfl
  | interfacePaths interface family =>
    -- the checks come one after another, so the faults are compared check by check
    have hpaths := h.number?_uint32_eq_or_ok rfl hspells hspells' hvalue
    obtain ⟨hflag, hfamilies, -, hpreferred⟩ := h.interface_others
    show faultOf (Decode.interface fields') = faultOf (Decode.interface fields)
    unfold Decode.interface Decode.interfaceEnabled
    rw [hflag]
    split
    · rw [faultOf_map, faultOf_map]
      unfold Decode.enabledInterface
      rw [hfamilies, hpreferred]
      refine faultOf_bind_congr_right fun families => ?_
      refine faultOf_bind_congr (faultOf_maxPaths (hpaths _)) fun _ _ => ?_
      refine faultOf_bind_congr (faultOf_maxPaths (hpaths _)) fun _ _ => ?_
      exact faultOf_bind_congr rfl fun _ _ => rfl
    · rfl
  | groupPaths family group =>
    have hpaths := h.number?_uint32_eq_or_ok rfl hspells hspells' hvalue
    obtain ⟨hnetwork, -⟩ := h.group_others
    simp only [Validation.faults, scope, key, Decode.groupKey_eq_ok_iff.2 rfl]
    unfold Decode.group
    rw [hnetwork]
    refine faultOf_bind_congr rfl fun _ _ => ?_
    exact faultOf_bind_congr (faultOf_numberOr (hpaths _)) fun _ _ => rfl
  | connections _ | timeout =>
    have hnumbers := h.number?_uint32_eq_or_ok rfl hspells hspells' hvalue
    have hmode := h.rdma_others rfl
    show faultOf (Decode.rdma fields') = faultOf (Decode.rdma fields)
    unfold Decode.rdma
    rw [hmode]
    refine faultOf_bind_congr (faultOf_numberOr (hnumbers _)) fun _ _ => ?_
    refine faultOf_bind_congr (faultOf_numberOr (hnumbers _)) fun _ _ => ?_
    refine faultOf_bind_congr (faultOf_numberOr (hnumbers _)) fun _ _ => ?_
    exact faultOf_bind_congr rfl fun _ _ => rfl

end

/-! ## One spelling is as good as another -/

section

variable {text text' : String} {fields fields' : Fields} {n : Nat}

/-- If both texts spell one value, every number of the two records is read alike. -/
theorem Respells.number?_uint32_eq {number : NumberField} (hlimit : number.limit = 4294967296)
    (hspells : number.Spells text n) (hspells' : number.Spells text' n)
    (hvalue : fields.value? number.name = some text)
    (h : number.Respells text' fields fields') (name : String) :
    Decode.number? Text.uint32? fields' name = Decode.number? Text.uint32? fields name :=
  h.number?_eq hvalue (uint32?_of_spells hlimit hspells) (uint32?_of_spells hlimit hspells') name

/-- Spelling the port of a family in another way gives the same settings. -/
theorem family_of_respells {family : Family} (hspells : (port family).Spells text n)
    (hspells' : (port family).Spells text' n) (hvalue : fields.value? "udp_port" = some text)
    (h : (port family).Respells text' fields fields') :
    Decode.family fields' = Decode.family fields := by
  obtain ⟨hflag, hentropy⟩ := h.family_others
  unfold Decode.family Decode.numberOr
  rw [h.number?_eq hvalue (uint16?_of_spells hspells) (uint16?_of_spells hspells'), hflag,
    hentropy]

/-- The settings of an interface that are read are the same; only the copy of the raw fields is
another, and no record is made from it. -/
theorem interface_of_respells {interface : String} {family : Family} (feature : Bool)
    (hspells : (interfacePaths interface family).Spells text n)
    (hspells' : (interfacePaths interface family).Spells text' n)
    (hvalue : fields.value? (maxPathsField family) = some text)
    (h : (interfacePaths interface family).Respells text' fields fields') :
    (Decode.interface fields').toOption.join.map (Resolution.interfaceOf feature) =
      (Decode.interface fields).toOption.join.map (Resolution.interfaceOf feature) := by
  obtain ⟨hflag, hfamilies, hbalance, hpreferred⟩ := h.interface_others
  have hpaths : ∀ families family, Decode.maxPaths fields' families family =
      Decode.maxPaths fields families family := by
    intro families family
    unfold Decode.maxPaths
    rw [h.number?_uint32_eq rfl hspells hspells' hvalue]
  have henabled : Decode.enabledInterface fields' =
      (fun config => { config with raw := fields'.toHash }) <$> Decode.enabledInterface fields := by
    unfold Decode.enabledInterface
    simp only [hfamilies, hpaths, hbalance, hpreferred, map_bind, map_pure]
  unfold Decode.interface Decode.interfaceEnabled
  rw [hflag, henabled]
  cases Decode.flag fields "ue_enable" with
  | false => rfl
  | true => cases Decode.enabledInterface fields <;> rfl

/-- Spelling the path limit of a group in another way gives the same settings. -/
theorem group_of_respells {family : Family} {group : String}
    (hspells : (groupPaths family group).Spells text n)
    (hspells' : (groupPaths family group).Spells text' n)
    (hvalue : fields.value? "max_paths" = some text)
    (h : (groupPaths family group).Respells text' fields fields') :
    Decode.group family group fields' = Decode.group family group fields := by
  obtain ⟨hnetwork, hhash⟩ := h.group_others
  unfold Decode.group Decode.numberOr
  rw [h.number?_uint32_eq rfl hspells hspells' hvalue, hnetwork, hhash]

/-- Spelling a number of the RDMA record in another way gives the same settings. -/
theorem rdma_of_respells {number : NumberField} (hscope : number.scope = .rdma)
    (hspells : number.Spells text n) (hspells' : number.Spells text' n)
    (hvalue : fields.value? number.name = some text)
    (h : number.Respells text' fields fields') :
    Decode.rdma fields' = Decode.rdma fields := by
  have hnumbers := h.number?_uint32_eq (limit_of_rdma hscope) hspells hspells' hvalue
  unfold Decode.rdma Decode.numberOr
  rw [hnumbers, hnumbers, hnumbers, h.rdma_others hscope]

end

end NumberField

/-! ## The state -/

namespace Snapshot

section

variable {number : NumberField} {text text' : String} {n : Nat} {a b : Snapshot} {fields : Fields}

/-- The last record of the number is respelled if it is there. -/
theorem Respelled.exists_respells (h : Respelled number text a b)
    (hrecord : Validation.lastRecord? (a.table number.scope) number.key = some fields) :
    ∃ fields', Validation.lastRecord? (b.table number.scope) number.key = some fields' ∧
      number.Respells text fields fields' := by
  obtain ⟨fields₀, fields', hrecord₀, hrecord', hrespells⟩ := h.record
  obtain rfl := Option.some.inj (hrecord₀.symm.trans hrecord)
  exact ⟨fields', hrecord', hrespells⟩

variable (hspells : number.Spells text n) (hspells' : number.Spells text' n)
  (hrecord : Validation.lastRecord? (a.table number.scope) number.key = some fields)
  (hvalue : fields.value? number.name = some text)
  (h : Respelled number text' a b)
include hspells hspells' hrecord hvalue h

/-- Spelling a number in another way leaves the settings of the families. -/
theorem Respelled.get_families_eq (family : Family) :
    (Validation.configOf b).families.get family =
      (Validation.configOf a).families.get family := by
  obtain ⟨fields', hrecord', hrespells⟩ := h.exists_respells hrecord
  by_cases hplace : .addressFamily = number.scope ∧ family.name = number.key
  · cases number with
    | port other =>
      obtain rfl := Family.name_inj.1 hplace.2
      have ha : Validation.lastRecord? a.families family.name = some fields := hrecord
      have hb : Validation.lastRecord? b.families family.name = some fields' := hrecord'
      rw [get_families_configOf, get_families_configOf, ha, hb, Option.bind_some,
        Option.bind_some, NumberField.family_of_respells hspells hspells' hvalue hrespells]
    | interfacePaths _ _ | groupPaths _ _ | connections _ | timeout => cases hplace.1
  · exact get_families_congr h.others hplace

/-- Spelling a number in another way leaves the states that are derived for the interfaces, although
their raw fields may differ. -/
theorem Respelled.getElem?_interfaces_eq (feature : Bool) (name : String) :
    (Validation.configOf b).interfaces[name]?.map (Resolution.interfaceOf feature) =
      (Validation.configOf a).interfaces[name]?.map (Resolution.interfaceOf feature) := by
  obtain ⟨fields', hrecord', hrespells⟩ := h.exists_respells hrecord
  by_cases hplace : .interface = number.scope ∧ name = number.key
  · cases number with
    | interfacePaths other family =>
      obtain rfl : name = other := hplace.2
      have ha : Validation.lastRecord? a.interfaces name = some fields := hrecord
      have hb : Validation.lastRecord? b.interfaces name = some fields' := hrecord'
      rw [getElem?_interfaces_configOf, getElem?_interfaces_configOf, ha, hb, Option.bind_some,
        Option.bind_some,
        NumberField.interface_of_respells feature hspells hspells' hvalue hrespells]
    | port _ | groupPaths _ _ | connections _ | timeout => cases hplace.1
  · rw [getElem?_interfaces_congr h.others hplace]

/-- Spelling a number in another way leaves the settings of the groups. -/
theorem Respelled.getElem?_groups_eq (family : Family) (name : String) :
    ((Validation.configOf b).groups.get family)[name]? =
      ((Validation.configOf a).groups.get family)[name]? := by
  obtain ⟨fields', hrecord', hrespells⟩ := h.exists_respells hrecord
  by_cases hplace : .ecmp = number.scope ∧ Decode.groupRecordKey family name = number.key
  · cases number with
    | groupPaths family' name' =>
      obtain ⟨rfl, rfl⟩ := Decode.groupRecordKey_inj.1 hplace.2
      have ha : Validation.lastRecord? a.groups (Decode.groupRecordKey family name) =
        some fields := hrecord
      have hb : Validation.lastRecord? b.groups (Decode.groupRecordKey family name) =
        some fields' := hrecord'
      rw [getElem?_groups_configOf, getElem?_groups_configOf, ha, hb, Option.bind_some,
        Option.bind_some, NumberField.group_of_respells hspells hspells' hvalue hrespells]
    | port _ | interfacePaths _ _ | connections _ | timeout => cases hplace.1
  · exact getElem?_groups_congr h.others hplace

/-- Spelling a number in another way leaves the RDMA settings. -/
theorem Respelled.rdma_eq : (Validation.configOf b).rdma = (Validation.configOf a).rdma := by
  obtain ⟨fields', hrecord', hrespells⟩ := h.exists_respells hrecord
  by_cases hplace : .rdma = number.scope ∧ Schema.globalKey = number.key
  · obtain ⟨hscope, hkey⟩ := hplace
    rw [← hscope, ← hkey] at hrecord hrecord'
    have ha : Validation.lastRecord? a.rdma Schema.globalKey = some fields := hrecord
    have hb : Validation.lastRecord? b.rdma Schema.globalKey = some fields' := hrecord'
    rw [rdma_configOf, rdma_configOf, ha, hb, Option.bind_some, Option.bind_some,
      NumberField.rdma_of_respells hscope.symm hspells hspells' hvalue hrespells]
  · exact rdma_congr h.others hplace

/-- Whatever is written of the state does not depend on how a number is spelled. -/
theorem Respelled.sameAsWritten : b.derivedState.SameAsWritten a.derivedState := by
  have hscope := number.scope_ne_global
  have hfeature := featureOf_congr h.others hscope
  exact {
    global := congrArg (Option.map Resolution.globalOf) (global_congr h.others hscope)
    families := by
      apply PerFamily.ext_get
      intro family
      show (Resolution.of (Validation.configOf b)).state.families.get family =
        (Resolution.of (Validation.configOf a)).state.families.get family
      rw [Resolution.get_families_of, Resolution.get_families_of, hfeature,
        h.get_families_eq hspells hspells' hrecord hvalue]
    interfaces := by
      apply Std.ExtTreeMap.ext_getElem?
      intro name
      show (Resolution.of (Validation.configOf b)).state.interfaces[name]? =
        (Resolution.of (Validation.configOf a)).state.interfaces[name]?
      rw [Resolution.getElem?_interfaces_of, Resolution.getElem?_interfaces_of, hfeature,
        h.getElem?_interfaces_eq hspells hspells' hrecord hvalue]
    groups := by
      intro family name
      show ((Resolution.of (Validation.configOf b)).state.groups.get family)[name]?.map _ =
        ((Resolution.of (Validation.configOf a)).state.groups.get family)[name]?.map _
      rw [Resolution.getElem?_groups_of, Resolution.getElem?_groups_of,
        h.getElem?_groups_eq hspells hspells' hrecord hvalue]
    rdma := h.rdma_eq hspells hspells' hrecord hvalue }

end

/-- The errors of the record are the same with any number below the limit. -/
theorem Respelled.errorsAt_eq {number : NumberField} {text text' : String} {m n : Nat}
    {a b : Snapshot} {fields : Fields} (hspells : number.Spells text n)
    (hspells' : number.Spells text' m)
    (hrecord : Validation.lastRecord? (a.table number.scope) number.key = some fields)
    (hvalue : fields.value? number.name = some text) (h : Respelled number text' a b) :
    (Validation.of b).errorsAt number.scope number.key =
      (Validation.of a).errorsAt number.scope number.key := by
  obtain ⟨fields', hrecord', hrespells⟩ := h.exists_respells hrecord
  rw [Validation.errorsAt_of, Validation.errorsAt_of, hrecord, hrecord']
  simp only [Option.toList_some, List.flatMap_cons, List.flatMap_nil, Validation.recordErrors,
    NumberField.faults_of_respells hspells hspells' hvalue hrespells]

/-- What becomes of a number field. If its text spells a value below the limit, the record of the
entity has the field if it is written at all, with the canonical digits of that value. These digits
are a spelling of the value again. With the number spelled in another way the same records are
written, and with another number the same errors are left. Any other text appears nowhere, and where
the field is looked at it keeps the entity out and leaves exactly one error. -/
theorem number_unchanged_or_refused {snapshot : Snapshot} {number : NumberField} {fields : Fields}
    {text : String}
    (hrecord : Validation.lastRecord? (snapshot.table number.scope) number.key = some fields)
    (hvalue : fields.value? number.name = some text) :
    (∀ n, number.Spells text n →
      (∀ r ∈ snapshot.derivedState.records, r.key = number.target → ∀ written,
        r.fields.value? number.name = some written ↔
          number.IsWritten snapshot.derivedState.featureEnabled fields ∧ written = toString n) ∧
      Text.IsCanonical (toString n) n ∧ number.Spells (toString n) n ∧
      ∀ text' m snapshot', number.Spells text' m → Respelled number text' snapshot snapshot' →
        (Validation.of snapshot').errorsAt number.scope number.key =
          (Validation.of snapshot).errorsAt number.scope number.key ∧
        (m = n → snapshot'.derivedState.records = snapshot.derivedState.records)) ∧
    ((∀ n, ¬ number.Spells text n) →
      (∀ r ∈ snapshot.derivedState.records, r.key = number.target →
        r.fields.value? number.name = none) ∧
      (number.IsRead fields →
        (∀ r ∈ snapshot.derivedState.records, r.key ≠ number.target) ∧
        ((Validation.of snapshot).errorsAt number.scope number.key).length = 1)) := by
  constructor
  · intro n hn
    refine ⟨fun r hr hkey written => ?_, Text.isCanonical_toString n,
      NumberField.spells_toString hn.2, fun text' m snapshot' hm h => ⟨?_, ?_⟩⟩
    · rw [(NumberField.written_iff hr hkey hrecord hvalue).2, NumberField.exists_spells_iff hn]
    · exact h.errorsAt_eq hn hm hrecord hvalue
    · rintro rfl
      exact (h.sameAsWritten hn hm hrecord hvalue).records_eq
  · intro hnone
    constructor
    · intro r hr hkey
      rw [Option.eq_none_iff_forall_ne_some]
      intro written hwritten
      obtain ⟨-, n, hn, -⟩ :=
        ((NumberField.written_iff hr hkey hrecord hvalue).2 written).1 hwritten
      exact hnone n hn
    · intro hread
      have hrefused : ¬ number.Accepted fields := by
        intro haccepted
        obtain ⟨n, hn⟩ := NumberField.exists_spells_of_accepted haccepted hread hvalue
        exact hnone n hn
      refine ⟨fun r hr hkey => hrefused (NumberField.written_iff hr hkey hrecord hvalue).1, ?_⟩
      rcases NumberField.settled hread hrecord with ⟨haccepted, -⟩ | ⟨-, hone⟩
      · exact absurd haccepted hrefused
      · exact hone

/-- The snapshot with one address family, which is enabled with a text for its port. -/
def withPort (text : String) : Snapshot :=
  { empty with families := [("ipv4", [("enabled", "true"), ("udp_port", text)])] }

/-- The largest port with blanks, a sign and a zero around it is written in five digits, and giving
these digits in the first place would have made no difference. One more is refused. -/
theorem largest_port_is_written :
    (∃ r ∈ (withPort "\t+065535 ").derivedState.records, r.key = AppRecord.familyKey .ipv4 ∧
      r.fields.value? "udp_port" = some "65535") ∧
    (withPort "65535").derivedState.records = (withPort "\t+065535 ").derivedState.records ∧
    ((Validation.of (withPort "65536")).errorsAt .addressFamily "ipv4").length = 1 := by
  have hrecord : ∀ text, Validation.lastRecord?
      ((withPort text).table (NumberField.port .ipv4).scope) (NumberField.port .ipv4).key =
        some [("enabled", "true"), ("udp_port", text)] := fun _ => rfl
  have hvalue : ∀ text : String, Fields.value? [("enabled", "true"), ("udp_port", text)]
      (NumberField.port .ipv4).name = some text := fun _ => rfl
  have hspells : (NumberField.port .ipv4).Spells "\t+065535 " 65535 :=
    ⟨Text.uint16?_eq_some_iff.1 (by decide +kernel : _ = some (65535 : UInt16)), by decide⟩
  have hlarge : ∀ n, ¬ (NumberField.port .ipv4).Spells "65536" n := by
    intro n hn
    have hread := NumberField.uint16?_of_spells hn
    have hnone : Text.uint16? (Text.trim "65536") = none := by decide +kernel
    rw [hnone] at hread
    cases hread
  have hrespelled : Respelled (.port .ipv4) "65535" (withPort "\t+065535 ")
      (withPort "65535") := by
    refine ⟨fun other key hplace => ?_, _, _, hrecord _, hrecord _, rfl, fun name hname => ?_⟩
    · cases other with
      | addressFamily =>
        have hkey : key ≠ "ipv4" := fun hkey => hplace ⟨rfl, hkey⟩
        simp [withPort, table, Validation.lastRecord?, hkey.symm]
      | global | interface | ecmp | rdma => rfl
    · have hport : name ≠ "udp_port" := hname
      simp [Fields.value?, hport.symm]
  have hfeature : (withPort "\t+065535 ").derivedState.featureEnabled = true := by
    refine (Resolution.featureEnabled_of _).trans ((featureOf_configOf _).2 ?_)
    rintro fields ⟨⟩
  obtain ⟨hwritten, -, hdigits, hsame⟩ :=
    (number_unchanged_or_refused (hrecord _) (hvalue _)).1 _ hspells
  refine ⟨?_, (hsame _ _ _ hdigits hrespelled).2 rfl, ?_⟩
  · have hstate : (withPort "\t+065535 ").derivedState.families.get .ipv4 =
        some (.enabled 65535 []) := by decide +kernel
    have hr := DerivedState.mem_records.2
      ⟨.addressFamily, DerivedState.mem_recordsOf_addressFamily.2 ⟨.ipv4, _, hstate, rfl⟩⟩
    exact ⟨_, hr, rfl, (hwritten _ hr rfl _).2 ⟨⟨rfl, hfeature⟩, rfl⟩⟩
  · exact (((number_unchanged_or_refused (hrecord _) (hvalue _)).2 hlarge).2 trivial).2

end Snapshot

end DualStack
