import DualStack.Proofs.FieldTexts
import DualStack.Proofs.Gating

/-!
# Which interface records are accepted

The record of an interface that enables the feature is accepted exactly if four checks pass: the
list of versions, the path limit of each family that the list names, and the preferred version. They
are made in this order, and the first that does not pass gives the one error of the record. Which
limits are looked at depends on the list, so the checks are stated of the raw fields and the decoder
is followed check by check. What is accepted is then written field by field as it was read.
-/

set_option autoImplicit false

namespace DualStack

/-! ## The checks -/

namespace Fields

variable (fields : Fields)

/-- The pieces between commas of the versions of an interface record. -/
def versionPieces : List String :=
  Text.pieces ',' (fields.valueOr "ip_versions" "4,6")

/-- The version of a family is among those of the record. -/
def Asks (family : Family) : Prop :=
  ∃ piece ∈ fields.versionPieces, family.Names piece

/-- The record gives a family a path limit: a number with blanks around it. -/
def Limits (family : Family) (n : UInt32) : Prop :=
  ∃ text, fields.value? (maxPathsField family) = some text ∧
    Text.IsNumeral (Text.trim text).toList n.toNat

end Fields

/-- A check of the record of an enabled interface. -/
inductive Check where
  | versions
  | paths (family : Family)
  | preferred
deriving DecidableEq, Repr

namespace Check

/-- The checks in the order in which they are made. -/
def all : List Check := [versions, paths .ipv4, paths .ipv6, preferred]

/-- The field that a check is about. -/
def field : Check → String
  | versions => "ip_versions"
  | paths family => maxPathsField family
  | preferred => "prefer_version"

/-- What a record needs to pass a check. -/
def Passes (fields : Fields) : Check → Prop
  | versions => ∀ piece ∈ fields.versionPieces, ∃ family : Family, family.Names piece
  | paths family => fields.Asks family → ∃ n, fields.Limits family n
  | preferred => ∃ family : Family, family.Names (fields.valueOr "prefer_version" "4")

/-- The message that the limit of a family is missing. -/
def requiredMessage (family : Family) : String :=
  s!"{maxPathsField family} required when IPv{family.version} enabled"

/-- The message that a text is no version number. -/
def versionMessage (name text : String) : String :=
  s!"{name}: invalid IP version: {text} (must be 4 or 6)"

/-- The message of a check that a record does not pass. A list of versions is refused for its first
piece that is none. -/
def Reports (fields : Fields) : Check → String → Prop
  | versions, message => ∃ before piece after, fields.versionPieces = before ++ piece :: after ∧
      (∀ earlier ∈ before, ∃ family : Family, family.Names earlier) ∧
      (∀ family : Family, ¬ family.Names piece) ∧
      message = versionMessage "ip_versions" (Text.trim piece)
  | paths family, message => message =
      match fields.value? (maxPathsField family) with
      | none => requiredMessage family
      | some text => s!"{maxPathsField family} {Text.quoted text} is not a valid number"
  | preferred, message => message =
      versionMessage "prefer_version" (Text.trim (fields.valueOr "prefer_version" "4"))

/-- The first check that a record does not pass. -/
def FirstToFail (fields : Fields) (check : Check) : Prop :=
  ∃ before after, all = before ++ check :: after ∧
    (∀ earlier ∈ before, earlier.Passes fields) ∧ ¬ check.Passes fields

end Check

/-- The settings of an interface are those that its record spells: the versions, a limit for each of
them and no other, the preferred version, the balancing mode and the fields as they are. -/
structure InterfaceConfig.Reads (config : InterfaceConfig) (fields : Fields) : Prop where
  families : ∀ family, config.families.get family = true ↔ fields.Asks family
  limits : ∀ family n, config.maxPaths.get family = some n ↔
    fields.Asks family ∧ fields.Limits family n
  preferred : config.preferred.Names (fields.valueOr "prefer_version" "4")
  loadBalance : config.loadBalance.name = fields.valueOr "load_balance_mode" "ecmp"
  raw : ∀ name, config.raw[name]? = fields.value? name

/-! ## The decoder, check by check -/

namespace Decode

variable (fields : Fields)

/-- Either the check of the versions reports its message, or the set that is read has exactly the
families asked for. -/
theorem families_cases :
    (∃ fault, Decode.families fields = .error fault ∧ ¬ Check.versions.Passes fields ∧
      Check.versions.Reports fields fault.message) ∨
    ∃ families, Decode.families fields = .ok families ∧ Check.versions.Passes fields ∧
      ∀ family, families.get family = true ↔ fields.Asks family := by
  unfold Decode.families
  cases hparse : FamilySet.parse (fields.valueOr "ip_versions" "4,6") with
  | error error =>
    obtain ⟨before, piece, after, hsplit, hbefore, hpiece, rfl⟩ :=
      FamilySet.of_parse_eq_error hparse
    have hmem : piece ∈ fields.versionPieces := by simp [Fields.versionPieces, hsplit]
    refine .inl ⟨_, rfl, fun hpasses => ?_, before, piece, after, hsplit, hbefore, hpiece, rfl⟩
    obtain ⟨family, hfamily⟩ := hpasses piece hmem
    exact hpiece family hfamily
  | ok families =>
    obtain ⟨hpieces, hasked⟩ := FamilySet.of_parse_eq_ok hparse
    exact .inr ⟨families, rfl, hpieces, hasked⟩

/-- Either the check of the preferred version reports its message, or a family is read and the check
passes. -/
theorem preferred_cases :
    let preferred := (Family.ofVersion (fields.valueOr "prefer_version" "4")).mapError
      (Fault.badVersion "prefer_version")
    (∃ fault, preferred = .error fault ∧ ¬ Check.preferred.Passes fields ∧
      Check.preferred.Reports fields fault.message) ∨
    ∃ family, preferred = .ok family ∧ Check.preferred.Passes fields ∧
      family.Names (fields.valueOr "prefer_version" "4") := by
  cases hversion : Family.ofVersion (fields.valueOr "prefer_version" "4") with
  | error error =>
    obtain ⟨hnone, rfl⟩ := Family.ofVersion_eq_error_iff.1 hversion
    exact .inl ⟨_, rfl, fun ⟨family, hfamily⟩ => hnone family hfamily, rfl⟩
  | ok family =>
    rw [Family.ofVersion_eq_ok_iff] at hversion
    exact .inr ⟨family, rfl, ⟨family, hversion⟩, hversion⟩

variable {fields}

/-- A record gives a path limit exactly if the trimmed text of its field is read as this number. -/
theorem limits_iff {family : Family} {n : UInt32} : fields.Limits family n ↔
    ∃ text, fields.value? (maxPathsField family) = some text ∧
      Text.uint32? (Text.trim text) = some n := by
  simp only [Fields.Limits, Text.uint32?_eq_some_iff]

/-- With the versions of the record at hand, the limit of a family is refused or read as the check
says. -/
theorem maxPaths_cases {families : FamilySet}
    (hfamilies : ∀ family, families.get family = true ↔ fields.Asks family) (family : Family) :
    (∃ fault, maxPaths fields families family = .error fault ∧
      ¬ (Check.paths family).Passes fields ∧
      (Check.paths family).Reports fields fault.message) ∨
    ∃ paths, maxPaths fields families family = .ok paths ∧ (Check.paths family).Passes fields ∧
      ∀ n, paths = some n ↔ fields.Asks family ∧ fields.Limits family n := by
  simp only [Check.Passes, Check.Reports, limits_iff, ← hfamilies family]
  unfold maxPaths number?
  cases hfamily : families.get family with
  | false => exact .inr ⟨none, rfl, by simp⟩
  | true =>
    cases hvalue : fields.value? (maxPathsField family) with
    | none => exact .inl ⟨.missingPaths family, rfl, by simp, rfl⟩
    | some text =>
      cases hread : Text.uint32? (Text.trim text) with
      | none =>
        refine .inl ⟨.badNumber (maxPathsField family) text, ?_, by simp [hread], rfl⟩
        simp only [hread]
        rfl
      | some n =>
        refine .inr ⟨some n, ?_, by simp [hread]⟩
        simp only [hread]
        rfl

/-- A record is refused for the first check that it does not pass, or accepted as it reads. -/
theorem enabledInterface_cases (fields : Fields) :
    (∃ fault, ∃ check : Check, enabledInterface fields = .error fault ∧
      check.FirstToFail fields ∧ check.Reports fields fault.message) ∨
    ∃ config, enabledInterface fields = .ok config ∧
      (∀ check ∈ Check.all, check.Passes fields) ∧ config.Reads fields := by
  unfold enabledInterface
  -- the limits are looked for under the list of versions as it was read, so each check is
  -- followed with what the ones before it have found
  rcases families_cases fields with
    ⟨fault, hversions, hfail, hreport⟩ | ⟨families, hversions, hpass, hfamilies⟩
  · simp only [hversions, bind, Except.bind]
    exact .inl ⟨fault, _, rfl, ⟨[], _, rfl, by simp, hfail⟩, hreport⟩
  rcases maxPaths_cases hfamilies .ipv4 with
    ⟨fault, h4, hfail, hreport⟩ | ⟨paths4, h4, hpass4, hlimit4⟩
  · simp only [hversions, h4, bind, Except.bind]
    exact .inl ⟨fault, _, rfl, ⟨[_], _, rfl, by simpa using hpass, hfail⟩, hreport⟩
  rcases maxPaths_cases hfamilies .ipv6 with
    ⟨fault, h6, hfail, hreport⟩ | ⟨paths6, h6, hpass6, hlimit6⟩
  · simp only [hversions, h4, h6, bind, Except.bind]
    exact .inl ⟨fault, _, rfl, ⟨[_, _], _, rfl, by simpa using ⟨hpass, hpass4⟩, hfail⟩, hreport⟩
  rcases preferred_cases fields with
    ⟨fault, hpreferred, hfail, hreport⟩ | ⟨preferred, hpreferred, hpassLast, hnames⟩
  · simp only [hversions, h4, h6, hpreferred, bind, Except.bind]
    exact .inl ⟨fault, _, rfl,
      ⟨[_, _, _], _, rfl, by simpa using ⟨hpass, hpass4, hpass6⟩, hfail⟩, hreport⟩
  simp only [hversions, h4, h6, hpreferred, bind, Except.bind]
  refine .inr ⟨_, rfl, by simpa [Check.all] using ⟨hpass, hpass4, hpass6, hpassLast⟩, ?_⟩
  exact {
    families := hfamilies
    limits := fun family => by
      cases family with
      | ipv4 => exact hlimit4
      | ipv6 => exact hlimit6
    preferred := hnames
    loadBalance := rfl
    raw := fields.getElem?_toHash }

end Decode

/-! ## The message of a missing limit -/

namespace Check

variable {fields : Fields}

/-- The messages that a limit is missing tell of which family. -/
theorem requiredMessage_inj {family family' : Family} :
    requiredMessage family = requiredMessage family' ↔ family = family' := by
  cases family <;> cases family' <;> decide

/-- A message begins with the field, and no field with versions begins as one with a limit does. -/
theorem versionMessage_ne_requiredMessage {name : String}
    (hname : name = "ip_versions" ∨ name = "prefer_version") (text : String) (family : Family) :
    versionMessage name text ≠ requiredMessage family := by
  have hself : ∀ s : String, toString s = s := fun _ => rfl
  intro h
  have hfirst := congrArg (fun message => message.toList.head?) h
  rcases hname with rfl | rfl <;> cases family <;>
    simp [versionMessage, requiredMessage, maxPathsField, hself] at hfirst

/-- Behind the name of the limit and a blank the one message goes on with a quotation mark and the
other with a letter. -/
theorem badNumber_ne_requiredMessage (text : String) (family family' : Family) :
    s!"{maxPathsField family} {Text.quoted text} is not a valid number" ≠
      requiredMessage family' := by
  have hself : ∀ s : String, toString s = s := fun _ => rfl
  intro h
  have hmark := congrArg (fun message => message.toList[13]?) h
  cases family <;> cases family' <;>
    simp [requiredMessage, maxPathsField, Text.quoted, hself] at hmark

/-- That a limit is missing is said when it is, and of nothing else that is wrong. -/
theorem Reports.eq_requiredMessage_iff {check : Check} {message : String}
    (hreport : check.Reports fields message) (family : Family) :
    message = requiredMessage family ↔
      check = paths family ∧ fields.value? check.field = none := by
  cases check with
  | versions =>
    obtain ⟨-, piece, -, -, -, -, rfl⟩ := hreport
    simpa using versionMessage_ne_requiredMessage (.inl rfl) (Text.trim piece) family
  | preferred =>
    obtain rfl := hreport
    simpa using versionMessage_ne_requiredMessage (.inr rfl) _ family
  | paths other =>
    obtain rfl := hreport
    simp only [field, paths.injEq]
    cases hvalue : fields.value? (maxPathsField other) with
    | none => simpa using requiredMessage_inj
    | some text => simpa using badNumber_ne_requiredMessage text other family

end Check

/-! ## The record that is written -/

/-- The fields of the record of an accepted interface while the feature is enabled. -/
def InterfaceConfig.written (config : InterfaceConfig) (fields : Fields) : Fields :=
  [("enabled", "true"), ("ipv4_enabled", boolText config.families.ipv4),
    ("ipv6_enabled", boolText config.families.ipv6)] ++
  Family.all.flatMap (fun family => (config.maxPaths.get family).toList.map fun n =>
    (maxPathsField family, toString n.toNat)) ++
  [("load_balance_mode", fields.valueOr "load_balance_mode" "ecmp"),
    ("prefer_version", toString config.preferred.version)]

namespace Decode

variable {fields : Fields}

/-- A record that does not enable the interface is not looked at and gives no settings. -/
theorem interface_of_not_enabled (h : fields.value? "ue_enable" ≠ some "true") :
    Decode.interface fields = .ok none :=
  if_neg fun hflag => h (flag_eq_true_iff.1 hflag)

/-- A record that enables the interface is checked as a whole. -/
theorem interface_of_enabled (h : fields.value? "ue_enable" = some "true") :
    Decode.interface fields = some <$> enabledInterface fields :=
  if_pos (flag_eq_true_iff.2 h)

/-- The record of an accepted interface has exactly the fields that are said to be written. -/
theorem written_eq {config : InterfaceConfig} (hreads : config.Reads fields) (key : String) :
    AppRecord.ofInterface key ⟨true, config.families, config.maxPaths, config.loadBalance,
      config.preferred⟩ =
        ⟨.interface, key, AppRecord.interfaceKey key, config.written fields⟩ := by
  unfold InterfaceConfig.written
  rw [← hreads.loadBalance]
  simp [AppRecord.ofInterface, AppRecord.pathsFields, AppRecord.interfaceKey, Family.all,
    PerFamily.get, boolText]

/-- The record of an accepted interface while the feature is enabled. -/
theorem filter_records_of_interface {snapshot : Snapshot} {key : String}
    {config : InterfaceConfig}
    (hrecord : Validation.lastRecord? snapshot.interfaces key = some fields)
    (hfeature : snapshot.derivedState.featureEnabled = true)
    (haccepted : Decode.interface fields = .ok (some config)) (hreads : config.Reads fields) :
    (snapshot.derivedState.records.filter fun r => r.key = AppRecord.interfaceKey key) =
      [⟨.interface, key, AppRecord.interfaceKey key, config.written fields⟩] := by
  have hinterface : (Validation.configOf snapshot).interfaces[key]? = some config := by
    rw [Snapshot.getElem?_interfaces_configOf, hrecord]
    simp [haccepted, Except.toOption]
  have hopen : Resolution.featureOf (Validation.configOf snapshot) = true :=
    (Resolution.featureEnabled_of _).symm.trans hfeature
  have hstate : snapshot.derivedState.interfaces[key]? = some ⟨true, config.families,
      config.maxPaths, config.loadBalance, config.preferred⟩ := by
    show (Resolution.of (Validation.configOf snapshot)).state.interfaces[key]? = _
    rw [Resolution.getElem?_interfaces_of, hinterface, hopen, Option.map_some,
      Resolution.interfaceOf_true haccepted]
  obtain ⟨hmem, -⟩ := DerivedState.mem_records_interface.2 ⟨key, _, hstate, rfl⟩
  rw [← written_eq hreads key]
  exact DerivedState.filter_key_records hmem

/-- What becomes of the record of an interface. Without the feature it is passed over. With it, it
is accepted exactly if it passes every check, and is then read as it is written; otherwise it has
one error, for the first check that it does not pass, which says that a limit is missing exactly if
that limit is. While the feature is enabled the one record under the key of an accepted interface
spells its settings. -/
theorem interface_by_checks (key : String) (fields : Fields) :
    (Decode.interface fields = .ok none ↔ fields.value? "ue_enable" ≠ some "true") ∧
    ((∃ config, Decode.interface fields = .ok (some config)) ↔
      fields.value? "ue_enable" = some "true" ∧ ∀ check ∈ Check.all, check.Passes fields) ∧
    (∀ result, Decode.interface fields = .ok result →
      Validation.recordErrors .interface key fields = []) ∧
    (fields.value? "ue_enable" = some "true" →
      (¬ ∀ check ∈ Check.all, check.Passes fields) →
        ∃ (check : Check) (message : String), check.FirstToFail fields ∧
          check.Reports fields message ∧
          (∀ family, message = Check.requiredMessage family ↔
            check = .paths family ∧ fields.value? check.field = none) ∧
          Validation.recordErrors .interface key fields = [⟨.interface, key, message⟩]) ∧
    (∀ config, Decode.interface fields = .ok (some config) → config.Reads fields ∧
      ∀ snapshot : Snapshot, Validation.lastRecord? snapshot.interfaces key = some fields →
        snapshot.derivedState.featureEnabled = true →
          (snapshot.derivedState.records.filter fun r => r.key = AppRecord.interfaceKey key) =
            [⟨.interface, key, AppRecord.interfaceKey key, config.written fields⟩]) := by
  have herrors : Validation.recordErrors .interface key fields =
      (Validation.faultOf (Decode.interface fields)).map fun fault =>
        ⟨.interface, key, fault.message⟩ := rfl
  by_cases henabled : fields.value? "ue_enable" = some "true"
  · have hdecode := interface_of_enabled henabled
    rcases enabledInterface_cases fields with
      ⟨fault, check, hresult, hfirst, hreport⟩ | ⟨config, hresult, hpasses, hreads⟩
    · have hrefused : Decode.interface fields = .error fault := by
        rw [hdecode, hresult]
        rfl
      have hfail : ¬ ∀ check ∈ Check.all, check.Passes fields := by
        intro hpasses
        obtain ⟨before, after, hsplit, -, hfail⟩ := hfirst
        exact hfail (hpasses check (by simp [hsplit]))
      refine ⟨by simp [hrefused, henabled], by simp [hrefused, hfail], by simp [hrefused], ?_,
        by simp [hrefused]⟩
      intro _ _
      exact ⟨check, fault.message, hfirst, hreport, hreport.eq_requiredMessage_iff,
        by rw [herrors, hrefused]; rfl⟩
    · have haccepted : Decode.interface fields = .ok (some config) := by
        rw [hdecode, hresult]
        rfl
      refine ⟨by simp [haccepted, henabled], ?_, ?_, fun _ hfail => absurd hpasses hfail, ?_⟩
      · exact ⟨fun _ => ⟨henabled, hpasses⟩, fun _ => ⟨config, haccepted⟩⟩
      · intro _ _
        rw [herrors, haccepted]
        rfl
      · intro config' haccepted'
        obtain rfl : config = config' :=
          Option.some.inj (Except.ok.inj (haccepted.symm.trans haccepted'))
        exact ⟨hreads, fun snapshot hrecord hfeature =>
          filter_records_of_interface hrecord hfeature haccepted hreads⟩
  · have hpassed := interface_of_not_enabled henabled
    refine ⟨by simp [hpassed, henabled], by simp [hpassed, henabled], ?_,
      fun h => absurd h henabled, by simp [hpassed]⟩
    intro _ _
    rw [herrors, hpassed]
    rfl

end Decode

end DualStack
