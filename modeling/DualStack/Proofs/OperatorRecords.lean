import DualStack.Proofs.CommandEffects
import DualStack.Proofs.CommandLine
import DualStack.Proofs.FieldTexts
import DualStack.Proofs.Gating
import DualStack.Proofs.LoadOutcome
import DualStack.Proofs.ReadBack

/-!
# What the operator writes is read as it was meant

A command line turns into arguments, the arguments into a record, the record into a hash of the
configuration database, and the next load and validation turn the hash into an entity. Each of these
steps undoes the one on the other side: the names of a closed enumeration are read as their values,
numbers are read from their digits, the versions that no flag names are both, and the key of a
record is cut off its table again. So the entity says what the words of the command line say, and
nothing of the record that stood there before is left.
-/

set_option autoImplicit false

namespace DualStack

open Grammar

/-! ## What is meant -/

/-- The versions that are asked for: both if none is. -/
def Grammar.Given.versions (given : Given) : FamilySet :=
  if given.has "ipv4" || given.has "ipv6" then ⟨given.has "ipv4", given.has "ipv6"⟩
  else ⟨true, true⟩

/-- A number is the one that an option gives, or four if the option is left out. -/
def Grammar.Given.Gives (given : Given) (name : String) (n : UInt32) : Prop :=
  match given.value? name with
  | some text => number? text = some n
  | none => n = 4

/-- The option with the path limit of a family. -/
def pathsOption : Family → String
  | .ipv4 => "max-paths-v4"
  | .ipv6 => "max-paths-v6"

/-- The global settings are those of the options given. -/
structure GlobalConfig.Meant (config : GlobalConfig) (given : Given) : Prop where
  enabled : config.enabled = given.has "enable"
  families : config.families = given.versions
  transport : config.transport = ⟨(given.value? "mode").getD "uet"⟩
  dualStack : config.dualStack = ⟨"concurrent"⟩
  congestion : config.congestion.name = (given.value? "congestion-control").getD "hybrid"

/-- The settings of an interface are those of the options given, with a path limit for each version
that is asked for and for no other. -/
structure InterfaceConfig.Meant (config : InterfaceConfig) (given : Given) : Prop where
  families : config.families = given.versions
  limited : ∀ family, given.versions.get family = true →
    ∃ n, config.maxPaths.get family = some n ∧ given.Gives (pathsOption family) n
  unlimited : ∀ family, given.versions.get family = false → config.maxPaths.get family = none
  loadBalance : config.loadBalance = ⟨"entropy_spray"⟩
  preferred : toString config.preferred.version = (given.value? "prefer-version").getD "4"

/-! ## From a record to the store and back -/

namespace Fields

/-- Fields that were kept as a hash and listed by name have the same values as before. -/
theorem value?_toList_toHash (fields : Fields) (name : String) :
    Fields.value? fields.toHash.toList name = fields.value? name := by
  rw [value?_toList, getElem?_toHash]

end Fields

/-- The databases with one record of the configuration replaced as a whole. -/
def Databases.withRecord (dbs : Databases) (scope : Scope) (key : String) (record : Fields) :
    Databases :=
  { dbs with config := { dbs.config with
      hashes := dbs.config.hashes.insert (Database.config.recordKey scope.table key)
        record.toHash } }

/-- A record has replaced the one under its key, as the next load tells: it is there with its own
fields, and everywhere else there is what there was. -/
structure Snapshot.Replaced (snapshot : Snapshot) (dbs : Databases) (scope : Scope) (key : String)
    (record : Fields) : Prop where
  loaded : Snapshot.load (dbs.withRecord scope key record).config = .ok snapshot
  mem_iff : ∀ fields, (key, fields) ∈ snapshot.table scope ↔ fields = record.toHash.toList
  elsewhere : ∀ before, Snapshot.load dbs.config = .ok before → ∀ scope' key' fields,
    ¬ (scope' = scope ∧ key' = key) →
      ((key', fields) ∈ snapshot.table scope' ↔ (key', fields) ∈ before.table scope')

section

variable {dbs : Databases} (hdatabase : dbs.config.database = .config) (scope : Scope)
  (key : String) {record : Fields}
include hdatabase

/-- On a store without faults a record is written. -/
theorem Command.writeRecord_of_faultless (hfaultless : dbs.config.Faultless)
    (hrecord : record ≠ []) :
    writeRecord dbs scope.table key record = .ok (dbs.withRecord scope key record) := by
  rw [writeRecord_eq hdatabase, hfaultless, Store.effect_replace_of_ne_nil hrecord]
  rfl

/-- Replacing a record of the configuration is setting an entry of its table. -/
theorem Databases.config_withRecord (hrecord : record ≠ []) :
    (dbs.withRecord scope key record).config = dbs.config.withEntry scope.table key record := by
  rw [Store.withEntry, hdatabase, Store.effect_replace_of_ne_nil hrecord]
  rfl

/-- After a record is replaced it is there under its own key, and every other key has the record
that it had. -/
theorem Store.record?_withRecord (hrecord : record ≠ []) (scope' : Scope) (key' : String) :
    (dbs.withRecord scope key record).config.record? scope'.table key' =
      if scope' = scope ∧ key' = key then some record.toHash.toList
      else dbs.config.record? scope'.table key' := by
  rw [Databases.config_withRecord hdatabase _ _ hrecord, record?_withEntry, hdatabase,
    if_neg hrecord]
  simp only [Scope.recordKey_table_inj]

/-- On a store without faults, the next load finds the record replaced. -/
theorem Snapshot.exists_replaced (hfaultless : dbs.config.Faultless) (hrecord : record ≠ []) :
    ∃ snapshot : Snapshot, snapshot.Replaced dbs scope key record := by
  have hfaults : Store.SameFaults dbs.config (dbs.withRecord scope key record).config :=
    ⟨rfl, rfl, rfl⟩
  obtain ⟨snapshot, hload⟩ := load_of_faultless (hfaults.faultless hfaultless)
  have hmem : ∀ scope' key' fields, (key', fields) ∈ snapshot.table scope' ↔
      (if scope' = scope ∧ key' = key then some record.toHash.toList
        else dbs.config.record? scope'.table key') = some fields := by
    intro scope' key' fields
    rw [table_of_load hload, Store.mem_records, Store.record?_withRecord hdatabase _ _ hrecord]
  refine ⟨snapshot, hload, fun fields => ?_, fun before hbefore scope' key' fields helse => ?_⟩
  · rw [hmem, if_pos ⟨rfl, rfl⟩, Option.some.injEq, eq_comm]
  · rw [hmem, if_neg helse, table_of_load hbefore, Store.mem_records]

end

namespace Snapshot.Replaced

variable {snapshot : Snapshot} {dbs : Databases} {scope : Scope} {key : String} {record : Fields}

/-- The record that has replaced another is the last one under its key. -/
theorem lastRecord?_eq (h : snapshot.Replaced dbs scope key record) :
    Validation.lastRecord? (snapshot.table scope) key = some record.toHash.toList := by
  apply Validation.lastRecord?_eq
  intro fields
  rw [h.mem_iff, Option.some.injEq, eq_comm]

end Snapshot.Replaced

/-! ## From arguments to a record and back -/

namespace Decode

open Command

/-- The versions that two flags ask for are written as a list that is read as the same versions. -/
theorem parse_render_familiesOfFlags (ipv4 ipv6 : Bool) :
    FamilySet.parse (familiesOfFlags ipv4 ipv6).render = .ok (familiesOfFlags ipv4 ipv6) := by
  apply FamilySet.parse_render
  cases ipv4 <;> cases ipv6 <;> rfl

/-- A flag that was written as a truth value is read as this value. -/
theorem flag_eq {fields : Fields} {field : String} {b : Bool}
    (h : fields.value? field = some (boolText b)) : flag fields field = b := by
  unfold flag
  rw [h]
  cases b <;> rfl

/-- A record with the fields of the global command is read as its arguments, without a fault, if its
placement of congestion control is one that the configuration knows. -/
theorem global_of_globalRecord {args : GlobalArguments} {congestion : CongestionControl}
    (hknown : CongestionControl.ofName args.congestion = .ok congestion) {fields : Fields}
    (h : ∀ name, fields.value? name = (globalRecord args).value? name) :
    Decode.global fields = (⟨args.enable, familiesOfFlags args.ipv4 args.ipv6, ⟨args.mode⟩,
      ⟨"concurrent"⟩, congestion⟩, []) := by
  have henable : globalRequested fields = args.enable := flag_eq (h "enable")
  have hversions : FamilySet.parse (fields.valueOr "ip_versions" "4,6") =
      .ok (familiesOfFlags args.ipv4 args.ipv6) := by
    rw [Fields.valueOr, h]
    exact parse_render_familiesOfFlags args.ipv4 args.ipv6
  have hcongestion : CongestionControl.ofName (fields.valueOr "congestion_control" "hybrid") =
      .ok congestion := by
    rw [Fields.valueOr, h]
    exact hknown
  have hmode : fields.valueOr "transport_mode" "uet" = args.mode := by
    rw [Fields.valueOr, h]
    rfl
  have hdual : fields.valueOr "dual_stack_mode" "concurrent" = "concurrent" := by
    rw [Fields.valueOr, h]
    rfl
  rw [global_of_readable hversions hcongestion, henable, hmode, hdual]

/-- The fields of the interface record: its flag, its versions, how it balances, what it prefers,
and a path limit for each version asked for. -/
theorem value?_interfaceRecord (args : InterfaceArguments) :
    let record := interfaceRecord args
    record.value? "ue_enable" = some (boolText args.enable) ∧
      record.value? "ip_versions" = some (familiesOfFlags args.ipv4 args.ipv6).render ∧
      record.value? "load_balance_mode" = some "entropy_spray" ∧
      record.value? "prefer_version" = some args.preferred ∧
      ∀ family, record.value? (maxPathsField family) =
        if (familiesOfFlags args.ipv4 args.ipv6).get family then
          some (toString (args.maxPaths.get family).toNat)
        else none := by
  obtain ⟨interface, enable, ipv4, ipv6, maxPaths, preferred⟩ := args
  refine ⟨?_, ?_, ?_, ?_, fun family => ?_⟩
  case refine_5 => cases ipv4 <;> cases ipv6 <;> cases family <;> rfl
  all_goals cases ipv4 <;> cases ipv6 <;> rfl

/-- The path limits of the interface record are read for the versions asked for and for no other. -/
theorem maxPaths_of_interfaceRecord {args : InterfaceArguments} {fields : Fields}
    (h : ∀ name, fields.value? name = (interfaceRecord args).value? name) (family : Family) :
    maxPaths fields (familiesOfFlags args.ipv4 args.ipv6) family =
      .ok (if (familiesOfFlags args.ipv4 args.ipv6).get family then
        some (args.maxPaths.get family) else none) := by
  have hvalue := (h _).trans ((value?_interfaceRecord args).2.2.2.2 family)
  unfold maxPaths number?
  cases hfamily : (familiesOfFlags args.ipv4 args.ipv6).get family with
  | false => rfl
  | true =>
    rw [hfamily] at hvalue
    rw [hvalue]
    simp only [if_true, Text.trim_toString, Text.uint32?_toString]
    rfl

/-- A record with the fields of the interface command is read as its arguments if it enables the
interface and its preferred version is one that there is; without the feature it is not looked
at. -/
theorem interface_of_interfaceRecord {args : InterfaceArguments} {preferred : Family}
    (hknown : Family.ofVersion args.preferred = .ok preferred) {fields : Fields}
    (h : ∀ name, fields.value? name = (interfaceRecord args).value? name) :
    Decode.interface fields = .ok (if args.enable then
      let families := familiesOfFlags args.ipv4 args.ipv6
      some ⟨families, ⟨if families.ipv4 then some args.maxPaths.ipv4 else none,
        if families.ipv6 then some args.maxPaths.ipv6 else none⟩, ⟨"entropy_spray"⟩,
        preferred, fields.toHash⟩
      else none) := by
  obtain ⟨henable, hversions, hbalance, hpreferred, -⟩ := value?_interfaceRecord args
  have henable : interfaceEnabled fields = args.enable := flag_eq ((h _).trans henable)
  have hversions : FamilySet.parse (fields.valueOr "ip_versions" "4,6") =
      .ok (familiesOfFlags args.ipv4 args.ipv6) := by
    rw [Fields.valueOr, h, hversions]
    exact parse_render_familiesOfFlags args.ipv4 args.ipv6
  have hbalance : fields.valueOr "load_balance_mode" "ecmp" = "entropy_spray" := by
    rw [Fields.valueOr, h, hbalance, Option.getD_some]
  have hpreferred : Family.ofVersion (fields.valueOr "prefer_version" "4") = .ok preferred := by
    rw [Fields.valueOr, h, hpreferred, Option.getD_some, hknown]
  unfold Decode.interface
  rw [henable]
  cases args.enable with
  | false => rfl
  | true =>
    unfold enabledInterface Decode.families
    rw [hversions, hbalance, hpreferred]
    simp only [mapError_ok, bind, Except.bind, maxPaths_of_interfaceRecord h]
    rfl

end Decode

/-! ## From words to entities -/

namespace Grammar

/-- The flags that were given ask for the versions that are meant. -/
theorem Given.familiesOfFlags_eq (given : Given) :
    Command.familiesOfFlags (given.has "ipv4") (given.has "ipv6") = given.versions := by
  unfold Command.familiesOfFlags versions
  cases given.has "ipv4" <;> cases given.has "ipv6" <;> rfl

/-- An option with a list takes exactly the values of this list. -/
theorem ValueRule.fault?_oneOf_eq_none_iff {values : List String} {value : String} :
    (oneOf values).fault? value = none ↔ value ∈ values := by
  simp [fault?]

/-- An option for a number takes exactly the texts that are read as one. -/
theorem ValueRule.fault?_number_eq_none_iff {value : String} :
    number.fault? value = none ↔ ∃ n, number? value = some n := by
  unfold fault?
  cases number? value <;> simp

variable {words : List String} {given : Given}

/-- A value that was given obeys the rule of its option. -/
theorem Spells.fault?_eq_none {options : List OptionSpec} (h : Spells options words given)
    {name value : String} {rule : ValueRule}
    (hrule : ∀ spec ∈ options, spec.name = name → spec.effect = .value rule)
    (hvalue : given.value? name = some value) : rule.fault? value = none := by
  obtain ⟨spec, hspec, hname, htakes⟩ := h.taken hvalue
  exact htakes rule (hrule spec hspec hname)

/-- The configuration knows every placement of congestion control that the tool offers. -/
theorem exists_ofName_of_mem_congestionModes {mode : String}
    (h : mode ∈ Invocation.congestionModes) :
    ∃ control, CongestionControl.ofName mode = .ok control ∧ control.name = mode := by
  simp only [Invocation.congestionModes, List.mem_cons, List.not_mem_nil, or_false] at h
  rcases h with rfl | rfl | rfl
  · exact ⟨.sender, rfl, rfl⟩
  · exact ⟨.receiver, rfl, rfl⟩
  · exact ⟨.hybrid, rfl, rfl⟩

/-- There is a family for every version that the tool lets an interface prefer. -/
theorem exists_ofVersion_of_mem_preferredVersions {version : String}
    (h : version ∈ Invocation.preferredVersions) :
    ∃ family, Family.ofVersion version = .ok family ∧ toString family.version = version := by
  simp only [Invocation.preferredVersions, List.mem_cons, List.not_mem_nil, or_false] at h
  rcases h with rfl | rfl
  · exact ⟨.ipv4, rfl, rfl⟩
  · exact ⟨.ipv6, rfl, rfl⟩

/-- The value of an option with a list, or its default from this list, is on the list. -/
theorem Spells.getD_mem {options : List OptionSpec} (h : Spells options words given)
    {name default : String} {values : List String}
    (hrule : ∀ spec ∈ options, spec.name = name → spec.effect = .value (.oneOf values))
    (hdefault : default ∈ values) : (given.value? name).getD default ∈ values := by
  cases hvalue : given.value? name with
  | none => exact hdefault
  | some value => exact ValueRule.fault?_oneOf_eq_none_iff.1 (h.fault?_eq_none hrule hvalue)

/-- The path limit of a command is the one that its option gives, or four without the option. -/
theorem Spells.gives_pathsOf (h : Spells Invocation.interfaceOptions words given)
    (family : Family) :
    given.Gives (pathsOption family) (Invocation.pathsOf given (pathsOption family)) := by
  unfold Given.Gives Invocation.pathsOf
  cases hvalue : given.value? (pathsOption family) with
  | none => rfl
  | some value =>
    have hfault : ValueRule.number.fault? value = none :=
      h.fault?_eq_none (by cases family <;> decide) hvalue
    obtain ⟨n, hn⟩ := ValueRule.fault?_number_eq_none_iff.1 hfault
    simp [hn]

end Grammar

namespace Snapshot.Replaced

variable {snapshot : Snapshot} {dbs : Databases}

/-- The record of the global command is accepted and read as its arguments. -/
theorem global_of_globalRecord {args : GlobalArguments} {congestion : CongestionControl}
    (hknown : CongestionControl.ofName args.congestion = .ok congestion)
    (h : snapshot.Replaced dbs .global Schema.globalKey (Command.globalRecord args)) :
    (Validation.of snapshot).errorsAt .global Schema.globalKey = [] ∧
      (Validation.of snapshot).config.global =
        some ⟨args.enable, Command.familiesOfFlags args.ipv4 args.ipv6, ⟨args.mode⟩,
          ⟨"concurrent"⟩, congestion⟩ := by
  have hdecoded := Decode.global_of_globalRecord hknown
    (Fields.value?_toList_toHash (Command.globalRecord args))
  have hrecord := h.lastRecord?_eq
  constructor
  · rw [Validation.errorsAt_of, hrecord]
    simp [Validation.recordErrors, Validation.faults, hdecoded]
  · show (Validation.configOf snapshot).global = _
    rw [global_configOf, globalRecord?]
    exact (congrArg (Option.map _) hrecord).trans (by rw [Option.map_some, hdecoded])

/-- The record of the interface command is accepted and read as its arguments, if it enables the
interface. -/
theorem interface_of_interfaceRecord {args : InterfaceArguments} {preferred : Family}
    (hknown : Family.ofVersion args.preferred = .ok preferred)
    (h : snapshot.Replaced dbs .interface args.interface (Command.interfaceRecord args)) :
    (Validation.of snapshot).errorsAt .interface args.interface = [] ∧
      (Validation.of snapshot).config.interfaces[args.interface]? =
        if args.enable then
          let families := Command.familiesOfFlags args.ipv4 args.ipv6
          some ⟨families, ⟨if families.ipv4 then some args.maxPaths.ipv4 else none,
            if families.ipv6 then some args.maxPaths.ipv6 else none⟩, ⟨"entropy_spray"⟩,
            preferred, (Command.interfaceRecord args).toHash⟩
        else none := by
  have hdecoded := Decode.interface_of_interfaceRecord hknown
    (Fields.value?_toList_toHash (Command.interfaceRecord args))
  have hraw : Fields.toHash (Command.interfaceRecord args).toHash.toList =
      (Command.interfaceRecord args).toHash := NameMap.ofPairs_toList _
  rw [hraw] at hdecoded
  have hrecord := h.lastRecord?_eq
  constructor
  · rw [Validation.errorsAt_of, hrecord]
    simp [Validation.recordErrors, Validation.faults, hdecoded, Validation.faultOf]
  · show (Validation.configOf snapshot).interfaces[args.interface]? = _
    rw [getElem?_interfaces_configOf]
    refine (congrArg (Option.bind · _) hrecord).trans ?_
    rw [Option.bind_some, hdecoded]
    rfl

end Snapshot.Replaced

/-- On databases without faults the commands that write an entity succeed and replace its
record. -/
theorem Command.exists_execute_of_faultless {dbs : Databases}
    (hdatabase : dbs.config.database = .config) (hfaultless : dbs.config.Faultless) :
    (∀ args, ∃ text, (Command.global args).execute dbs = .ok (⟨text, true⟩,
      dbs.withRecord .global Schema.globalKey (globalRecord args))) ∧
    (∀ args, ∃ text, (Command.interface args).execute dbs = .ok (⟨text, true⟩,
      dbs.withRecord .interface args.interface (interfaceRecord args))) := by
  constructor
  · intro args
    rw [execute, writeRecord_of_faultless hdatabase _ _ hfaultless (globalRecord_ne_nil args)]
    exact ⟨_, rfl⟩
  · intro args
    rw [execute, writeRecord_of_faultless hdatabase _ _ hfaultless (interfaceRecord_ne_nil args)]
    exact ⟨_, rfl⟩

/-! ## What the words come to -/

/-- The settings that come from the options of the global command are meant by them. -/
theorem GlobalConfig.meant_of_spells {words : List String} {given : Given}
    (h : Spells Invocation.globalOptions words given) :
    ∃ congestion, CongestionControl.ofName ((given.value? "congestion-control").getD "hybrid") =
        .ok congestion ∧
      GlobalConfig.Meant ⟨given.has "enable",
        Command.familiesOfFlags (given.has "ipv4") (given.has "ipv6"),
        ⟨(given.value? "mode").getD "uet"⟩, ⟨"concurrent"⟩, congestion⟩ given := by
  have hlisted : (given.value? "congestion-control").getD "hybrid" ∈ Invocation.congestionModes :=
    h.getD_mem (by decide) (by decide)
  obtain ⟨congestion, hknown, hname⟩ := exists_ofName_of_mem_congestionModes hlisted
  exact ⟨congestion, hknown, rfl, given.familiesOfFlags_eq, rfl, rfl, hname⟩

/-- The settings that come from the options of the interface command are meant by them. -/
theorem InterfaceConfig.meant_of_spells {words : List String} {given : Given}
    (h : Spells Invocation.interfaceOptions words given) (raw : Hash) :
    let families := Command.familiesOfFlags (given.has "ipv4") (given.has "ipv6")
    ∃ preferred, Family.ofVersion ((given.value? "prefer-version").getD "4") = .ok preferred ∧
      InterfaceConfig.Meant ⟨families,
        ⟨if families.ipv4 then some (Invocation.pathsOf given "max-paths-v4") else none,
          if families.ipv6 then some (Invocation.pathsOf given "max-paths-v6") else none⟩,
        ⟨"entropy_spray"⟩, preferred, raw⟩ given := by
  intro families
  have hlisted : (given.value? "prefer-version").getD "4" ∈ Invocation.preferredVersions :=
    h.getD_mem (by decide) (by decide)
  obtain ⟨preferred, hknown, hversion⟩ := exists_ofVersion_of_mem_preferredVersions hlisted
  have hfamilies : families = given.versions := given.familiesOfFlags_eq
  refine ⟨preferred, hknown, hfamilies, fun family hfamily => ?_, fun family hfamily => ?_, rfl,
    hversion⟩
  · rw [← hfamilies] at hfamily
    refine ⟨Invocation.pathsOf given (pathsOption family), ?_, h.gives_pathsOf family⟩
    cases family <;> exact if_pos hfamily
  · rw [← hfamilies] at hfamily
    cases family <;> exact if_neg (ne_true_of_eq_false hfamily)

namespace Invocation

/-- What an understood command line writes is accepted by the next load and validation and means
what its words say, whatever stood in the configuration before. The global settings are those of
the options that the words spell. An interface that is enabled has its settings under its exact
name; one that is not enabled has none, and no fault either. The record has replaced the one under
its key as a whole, and no other record is touched. -/
theorem written_as_meant {words : List String} {invocation : Invocation}
    (h : parse words = .ok invocation) {dbs : Databases}
    (hdatabase : dbs.config.database = .config) (hfaultless : dbs.config.Faultless) :
    (∀ args, invocation.command = .global args → ∃ given text snapshot config,
      Calls words "global" globalOptions given ∧
      invocation.command.execute dbs = .ok (⟨text, true⟩,
        dbs.withRecord .global Schema.globalKey (Command.globalRecord args)) ∧
      snapshot.Replaced dbs .global Schema.globalKey (Command.globalRecord args) ∧
      (Validation.of snapshot).errorsAt .global Schema.globalKey = [] ∧
      (Validation.of snapshot).config.global = some config ∧ config.Meant given) ∧
    (∀ args, invocation.command = .interface args → ∃ given text snapshot,
      Calls words "interface" interfaceOptions given ∧
      given.value? "interface" = some args.interface ∧
      invocation.command.execute dbs = .ok (⟨text, true⟩,
        dbs.withRecord .interface args.interface (Command.interfaceRecord args)) ∧
      snapshot.Replaced dbs .interface args.interface (Command.interfaceRecord args) ∧
      (Validation.of snapshot).errorsAt .interface args.interface = [] ∧
      (given.has "enable" = true → ∃ config,
        (Validation.of snapshot).config.interfaces[args.interface]? = some config ∧
        config.Meant given ∧ config.raw = (Command.interfaceRecord args).toHash) ∧
      (given.has "enable" = false →
        (Validation.of snapshot).config.interfaces[args.interface]? = none)) := by
  obtain ⟨hglobal, hinterface⟩ := Command.exists_execute_of_faultless hdatabase hfaultless
  constructor
  · intro args hargs
    obtain ⟨given, hcalls, heq⟩ := exists_calls_of_global h hargs
    obtain ⟨text, hexecute⟩ := hglobal args
    obtain ⟨snapshot, hreplaced⟩ := Snapshot.exists_replaced hdatabase .global Schema.globalKey
      hfaultless (Command.globalRecord_ne_nil args)
    obtain ⟨congestion, hknown, hmeant⟩ : ∃ congestion,
        CongestionControl.ofName args.congestion = .ok congestion ∧
          GlobalConfig.Meant ⟨args.enable, Command.familiesOfFlags args.ipv4 args.ipv6, ⟨args.mode⟩,
            ⟨"concurrent"⟩, congestion⟩ given := by
      obtain ⟨_, _, body, -, hbody, -⟩ := hcalls
      rw [heq]
      exact GlobalConfig.meant_of_spells hbody
    obtain ⟨hfaults, hconfig⟩ := hreplaced.global_of_globalRecord hknown
    rw [hargs]
    exact ⟨given, text, snapshot, _, hcalls, hexecute, hreplaced, hfaults, hconfig, hmeant⟩
  · intro args hargs
    obtain ⟨given, hcalls, hname, heq⟩ := exists_calls_of_interface h hargs
    obtain ⟨text, hexecute⟩ := hinterface args
    obtain ⟨snapshot, hreplaced⟩ := Snapshot.exists_replaced hdatabase .interface args.interface
      hfaultless (Command.interfaceRecord_ne_nil args)
    obtain ⟨preferred, hknown, hmeant⟩ : ∃ preferred,
        Family.ofVersion args.preferred = .ok preferred ∧
          let families := Command.familiesOfFlags args.ipv4 args.ipv6
          InterfaceConfig.Meant ⟨families, ⟨if families.ipv4 then some args.maxPaths.ipv4 else none,
              if families.ipv6 then some args.maxPaths.ipv6 else none⟩, ⟨"entropy_spray"⟩,
              preferred, (Command.interfaceRecord args).toHash⟩ given := by
      obtain ⟨_, _, body, -, hbody, -⟩ := hcalls
      rw [heq]
      exact InterfaceConfig.meant_of_spells hbody _
    obtain ⟨hfaults, hconfig⟩ := hreplaced.interface_of_interfaceRecord hknown
    have henable : args.enable = given.has "enable" := by rw [heq]
    rw [hargs]
    refine ⟨given, text, snapshot, hcalls, hname, hexecute, hreplaced, hfaults, fun hon => ?_,
      fun hoff => ?_⟩
    · rw [henable, hon, if_pos rfl] at hconfig
      exact ⟨_, hconfig, hmeant, rfl⟩
    · rw [henable, hoff] at hconfig
      exact hconfig

/-- A name with a bar in it and a record that stood there before: of that record no field is left.
-/
theorem written_as_meant_over_older_record :
    let words := ["--config", "global", "interface", "--enable", "--interface=lag|0",
      "--max-paths-v6", "0", "--prefer-version", "6", "--"]
    let args : InterfaceArguments := ⟨"lag|0", true, false, false, ⟨4, 0⟩, "6"⟩
    let older : Fields := [("ue_enable", "true"), ("max_paths_v4", "all"), ("mtu", "9100")]
    let dbs : Databases := { Databases.empty with
      config := { Store.empty .config with
        hashes := NameMap.ofPairs [("UE_INTERFACE|lag|0", older.toHash)] } }
    parse words = .ok ⟨"global", "warn", .interface args⟩ ∧ dbs.config.database = .config ∧
      dbs.config.Faultless ∧
      ∃ given snapshot, Calls words "interface" interfaceOptions given ∧
        snapshot.Replaced dbs .interface "lag|0" (Command.interfaceRecord args) ∧
        (Validation.of snapshot).errorsAt .interface "lag|0" = [] ∧
        ∀ config, (Validation.of snapshot).config.interfaces["lag|0"]? = some config →
          config.raw["mtu"]? = none := by
  intro words args older dbs
  have hparse : parse words = .ok ⟨"global", "warn", .interface args⟩ := by
    apply toOption_eq_some_iff.1
    decide +kernel
  have hfaultless : dbs.config.Faultless := Store.faultless_empty .config
  obtain ⟨given, text, snapshot, hcalls, -, -, hreplaced, herrors, hon, hoff⟩ :=
    (@written_as_meant words _ hparse dbs rfl hfaultless).2 args rfl
  refine ⟨hparse, rfl, hfaultless, given, snapshot, hcalls, hreplaced, herrors, ?_⟩
  intro config hconfig
  cases henable : given.has "enable" with
  | false =>
    have hnone := (hoff henable).symm.trans hconfig
    cases hnone
  | true =>
    obtain ⟨_, hsame, -, hraw⟩ := hon henable
    obtain rfl := Option.some.inj (hsame.symm.trans hconfig)
    rw [hraw, Fields.getElem?_toHash]
    decide +kernel

end Invocation

end DualStack
