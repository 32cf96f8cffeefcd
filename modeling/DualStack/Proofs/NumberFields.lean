import DualStack.Proofs.Accounting
import DualStack.Proofs.GroupRecords
import DualStack.Proofs.InterfaceRecords
import DualStack.Proofs.Isolation
import DualStack.Proofs.Provenance
import DualStack.Proofs.Recovery

/-!
# Numbers are written as they were meant

Seven fields of four tables hold a number: the port of a family, the path limits of an interface
and of a group, the connection limits and the timeout of the RDMA settings. A text that is a number
below the limit of its field is written in digits without a sign or a leading zero and with the
value it had, wherever the field is written; any other text keeps the whole record out and is
reported. A number that is spelled in another way changes no record.
-/

set_option autoImplicit false

namespace DualStack

/-! ## Texts of numbers -/

namespace Text

/-- A text has the digits of a number, without a sign and without a zero in front. -/
def IsCanonical (text : String) (n : Nat) : Prop :=
  IsDigits text.toList n ∧ (text.toList.head? = some '0' → text = "0")

/-- A written number consists of digits with its value. -/
theorem isDigits_toString (n : Nat) : IsDigits (toString n).toList n := by
  rw [← digits?_eq_some_iff, toList_toString]
  exact digits?_toDigits n

/-- A number is written without a sign and without a zero in front. -/
theorem isCanonical_toString (n : Nat) : IsCanonical (toString n) n := by
  refine ⟨isDigits_toString n, fun hzero => ?_⟩
  rw [toList_toString, head?_toDigits_eq_zero_iff (by omega)] at hzero
  rw [hzero]
  rfl

end Text

/-! ## The fields -/

/-- A number field of the configuration. -/
inductive NumberField where
  | port (family : Family)
  | interfacePaths (interface : String) (family : Family)
  | groupPaths (family : Family) (group : String)
  | connections (family : Family)
  | timeout
deriving DecidableEq, Repr

namespace NumberField

/-- The scope of the record that the field is in. -/
def scope : NumberField → Scope
  | port _ => .addressFamily
  | interfacePaths _ _ => .interface
  | groupPaths _ _ => .ecmp
  | connections _ | timeout => .rdma

/-- The key of that record in its table. -/
def key : NumberField → String
  | port family => family.name
  | interfacePaths interface _ => interface
  | groupPaths family group => Decode.groupRecordKey family group
  | connections _ | timeout => Schema.globalKey

/-- The name of the field, there and in the application database. -/
def name : NumberField → String
  | port _ => "udp_port"
  | interfacePaths _ family => maxPathsField family
  | groupPaths _ _ => "max_paths"
  | connections family => maxConnectionsField family
  | timeout => "connection_timeout"

/-- Every value of the field is below this one. -/
def limit : NumberField → Nat
  | port _ => 65536
  | interfacePaths _ _ | groupPaths _ _ | connections _ | timeout => 4294967296

/-- The key of the record of the same entity in the application database. -/
def target : NumberField → String
  | port family => AppRecord.familyKey family
  | interfacePaths interface _ => AppRecord.interfaceKey interface
  | groupPaths family group => AppRecord.groupKey family group
  | connections _ | timeout => Schema.rdmaConfigKey

/-- A raw text spells a value of the field: blanks around a number below the limit. -/
def Spells (number : NumberField) (text : String) (n : Nat) : Prop :=
  Text.IsNumeral (Text.trim text).toList n ∧ n < number.limit

/-- The field of a record is looked at. The path limits of an interface are only for the versions
that the record asks for, and only if it enables the feature. -/
def IsRead (fields : Fields) : NumberField → Prop
  | interfacePaths _ family => fields.value? "ue_enable" = some "true" ∧ fields.Asks family
  | port _ | groupPaths _ _ | connections _ | timeout => True

/-- The field is among those that are written for an accepted record. -/
def IsWritten (feature : Bool) (fields : Fields) : NumberField → Prop
  | port _ => fields.value? "enabled" = some "true" ∧ feature = true
  | interfacePaths _ family => fields.Asks family ∧ feature = true
  | groupPaths _ _ | connections _ | timeout => True

/-- The record of the field is accepted. -/
def Accepted (fields : Fields) : NumberField → Prop
  | port _ => ∃ config, Decode.family fields = .ok config
  | interfacePaths _ _ => ∃ config, Decode.interface fields = .ok (some config)
  | groupPaths family group => ∃ config, Decode.group family group fields = .ok config
  | connections _ | timeout => ∃ config, Decode.rdma fields = .ok config

variable {number : NumberField} {fields : Fields} {text : String} {n : Nat}

/-- A text spells one value at most. -/
theorem Spells.unique {m : Nat} (hm : number.Spells text m) (hn : number.Spells text n) : m = n :=
  hm.1.unique hn.1

/-- A value below the limit is spelled by its own digits. -/
theorem spells_toString (h : n < number.limit) : number.Spells (toString n) n := by
  refine ⟨?_, h⟩
  rw [Text.trim_toString]
  exact (Text.isDigits_toString n).isNumeral

/-- For a text that spells a value, the digits of whatever it spells are the digits of this
value. -/
theorem exists_spells_iff {m : Nat} (hm : number.Spells text m) {written : String} :
    (∃ n, number.Spells text n ∧ written = toString n) ↔ written = toString m := by
  constructor
  · rintro ⟨n, hn, rfl⟩
    rw [hn.unique hm]
  · rintro rfl
    exact ⟨m, hm, rfl⟩

/-- A text that spells a port is read as this port. -/
theorem uint16?_of_spells {family : Family} (h : (port family).Spells text n) :
    Text.uint16? (Text.trim text) = some (UInt16.ofNat n) := by
  rw [Text.uint16?_eq_some_iff, UInt16.toNat_ofNat_of_lt' h.2]
  exact h.1

/-- A text that spells a value of 32 bits is read as this value. -/
theorem uint32?_of_spells (hlimit : number.limit = 4294967296) (h : number.Spells text n) :
    Text.uint32? (Text.trim text) = some (UInt32.ofNat n) := by
  have hlt : n < UInt32.size := lt_of_lt_of_eq h.2 hlimit
  rw [Text.uint32?_eq_some_iff, UInt32.toNat_ofNat_of_lt' hlt]
  exact h.1

end NumberField

/-! ## What is read of an accepted record -/

namespace Decode

variable {fields : Fields} {text : String}

/-- A number that was read from a text, and not from the default, is spelled by this text. -/
theorem isNumeral_of_numberOr {field : String} {default n : UInt32}
    (h : numberOr Text.uint32? fields field default = .ok n)
    (hvalue : fields.value? field = some text) :
    Text.IsNumeral (Text.trim text).toList n.toNat := by
  rw [numberOr_eq_ok_iff, hvalue] at h
  simpa [Text.uint32?_eq_some_iff] using h

/-- The numbers of accepted RDMA settings are those that are read from their fields. -/
theorem numbers_of_rdma {config : RdmaConfig} (h : Decode.rdma fields = .ok config) :
    (∀ family, numberOr Text.uint32? fields (maxConnectionsField family) 500000 =
      .ok (config.maxConnections.get family)) ∧
    numberOr Text.uint32? fields "connection_timeout" 30 = .ok config.timeout := by
  unfold Decode.rdma at h
  obtain ⟨connections4, h4, h⟩ := exists_of_bind_eq_ok h
  obtain ⟨connections6, h6, h⟩ := exists_of_bind_eq_ok h
  obtain ⟨timeout, htimeout, h⟩ := exists_of_bind_eq_ok h
  obtain ⟨mode, -, h⟩ := exists_of_bind_eq_ok h
  cases h
  refine ⟨fun family => ?_, htimeout⟩
  cases family with
  | ipv4 => exact h4
  | ipv6 => exact h6

/-- An accepted interface enables the feature and is read as its record spells it. -/
theorem reads_of_interface {config : InterfaceConfig}
    (h : Decode.interface fields = .ok (some config)) :
    fields.value? "ue_enable" = some "true" ∧ config.Reads fields := by
  by_cases henabled : fields.value? "ue_enable" = some "true"
  · rw [interface_of_enabled henabled] at h
    obtain ⟨accepted, haccepted, heq⟩ := exists_of_map_eq_ok h
    obtain rfl := Option.some.inj heq
    rcases enabledInterface_cases fields with
      ⟨fault, check, hfault, -, -⟩ | ⟨config, hconfig, -, hreads⟩
    · rw [hfault] at haccepted
      cases haccepted
    · rw [hconfig] at haccepted
      cases haccepted
      exact ⟨henabled, hreads⟩
  · rw [interface_of_not_enabled henabled] at h
    cases h

end Decode

namespace NumberField

variable {number : NumberField} {fields : Fields} {text : String}

/-- The port of an accepted family is spelled by its field. -/
theorem spells_port {family : Family} {config : FamilyConfig}
    (h : Decode.family fields = .ok config) (hvalue : fields.value? "udp_port" = some text) :
    (port family).Spells text config.port.toNat := by
  unfold Decode.family at h
  obtain ⟨port, hport, h⟩ := exists_of_bind_eq_ok h
  cases h
  rw [Decode.numberOr_eq_ok_iff, hvalue] at hport
  exact ⟨by simpa [Text.uint16?_eq_some_iff] using hport, port.toNat_lt⟩

/-- A path limit of an accepted interface is spelled by its field. -/
theorem spells_interfacePaths {interface : String} {family : Family} {config : InterfaceConfig}
    {n : UInt32} (h : Decode.interface fields = .ok (some config))
    (hpaths : config.maxPaths.get family = some n)
    (hvalue : fields.value? (maxPathsField family) = some text) :
    (interfacePaths interface family).Spells text n.toNat := by
  obtain ⟨-, other, hother, hnumeral⟩ :=
    ((Decode.reads_of_interface h).2.limits family n).1 hpaths
  obtain rfl := Option.some.inj (hother.symm.trans hvalue)
  exact ⟨hnumeral, n.toNat_lt⟩

/-- The path limit of an accepted group is spelled by its field. -/
theorem spells_groupPaths {family : Family} {name : String} {group : EcmpGroup}
    (h : Decode.group family name fields = .ok group)
    (hvalue : fields.value? "max_paths" = some text) :
    (groupPaths family name).Spells text group.maxPaths.toNat := by
  obtain ⟨paths, hdescribes, rfl⟩ := Decode.group_eq_ok_iff.1 h
  have hpaths := hdescribes.paths
  rw [hvalue] at hpaths
  have hnumeral : Text.IsNumeral (Text.trim text).toList paths.toNat := by simpa using hpaths
  exact ⟨hnumeral, paths.toNat_lt⟩

/-- A connection limit of accepted RDMA settings is spelled by its field. -/
theorem spells_connections {family : Family} {config : RdmaConfig}
    (h : Decode.rdma fields = .ok config)
    (hvalue : fields.value? (maxConnectionsField family) = some text) :
    (connections family).Spells text (config.maxConnections.get family).toNat :=
  ⟨Decode.isNumeral_of_numberOr ((Decode.numbers_of_rdma h).1 family) hvalue, UInt32.toNat_lt _⟩

/-- The timeout of accepted RDMA settings is spelled by its field. -/
theorem spells_timeout {config : RdmaConfig} (h : Decode.rdma fields = .ok config)
    (hvalue : fields.value? "connection_timeout" = some text) :
    timeout.Spells text config.timeout.toNat :=
  ⟨Decode.isNumeral_of_numberOr (Decode.numbers_of_rdma h).2 hvalue, UInt32.toNat_lt _⟩

/-- What is read of an accepted record is a number below the limit. -/
theorem exists_spells_of_accepted (haccepted : number.Accepted fields)
    (hread : number.IsRead fields) (hvalue : fields.value? number.name = some text) :
    ∃ n, number.Spells text n := by
  cases number with
  | port family =>
    obtain ⟨config, hconfig⟩ := haccepted
    exact ⟨_, spells_port hconfig hvalue⟩
  | interfacePaths interface family =>
    obtain ⟨config, hconfig⟩ := haccepted
    obtain ⟨-, hpaths, -⟩ := Decode.of_interface_eq_some hconfig
    have hasked := ((Decode.reads_of_interface hconfig).2.families family).2 hread.2
    obtain ⟨n, hn⟩ := Option.isSome_iff_exists.1 ((hpaths family).trans hasked)
    exact ⟨_, spells_interfacePaths hconfig hn hvalue⟩
  | groupPaths family group =>
    obtain ⟨config, hconfig⟩ := haccepted
    exact ⟨_, spells_groupPaths hconfig hvalue⟩
  | connections family =>
    obtain ⟨config, hconfig⟩ := haccepted
    exact ⟨_, spells_connections hconfig hvalue⟩
  | timeout =>
    obtain ⟨config, hconfig⟩ := haccepted
    exact ⟨_, spells_timeout hconfig hvalue⟩

/-! ## What is written of an accepted record -/

/-- The record of a family has a port exactly if family and feature are enabled, and then it has its
digits. -/
theorem value?_ofFamily {family : Family} {feature : Bool} {config : FamilyConfig}
    {written : String} (h : Decode.family fields = .ok config) :
    (AppRecord.ofFamily family (Resolution.familyOf feature config)).fields.value? "udp_port" =
        some written ↔
      (fields.value? "enabled" = some "true" ∧ feature = true) ∧
        written = toString config.port.toNat := by
  rw [← Decode.flag_eq_true_iff, ← Decode.enabled_of_family_eq_ok h, ← Bool.and_eq_true]
  unfold Resolution.familyOf
  cases config.enabled && feature <;>
    simp [AppRecord.ofFamily, Fields.value?, eq_comm]

/-- The record of an interface has a path limit exactly if the version is asked for and the feature
is enabled, and then it has its digits. -/
theorem value?_ofInterface {interface : String} {family : Family} {feature : Bool}
    {config : InterfaceConfig} {written : String}
    (h : Decode.interface fields = .ok (some config)) :
    (AppRecord.ofInterface interface (Resolution.interfaceOf feature config)).fields.value?
        (maxPathsField family) = some written ↔
      (fields.Asks family ∧ feature = true) ∧
        ∃ n, config.maxPaths.get family = some n ∧ written = toString n.toNat := by
  obtain ⟨-, -, -, hvalue⟩ :=
    AppRecord.value?_ofInterface interface (Resolution.interfaceOf feature config)
  rw [hvalue family, Resolution.get_maxPaths_interfaceOf, Resolution.get_flagsOf,
    ← (Decode.reads_of_interface h).2.families family]
  cases config.families.get family <;> cases feature <;>
    cases config.maxPaths.get family <;> simp [@eq_comm _ written]

/-- The record of an entity was accepted, and the field is in it if it is written at all, with the
digits of the value that is spelled. -/
theorem written_iff {snapshot : Snapshot} {r : AppRecord} (hr : r ∈ snapshot.derivedState.records)
    (hkey : r.key = number.target)
    (hrecord : Validation.lastRecord? (snapshot.table number.scope) number.key = some fields)
    (hvalue : fields.value? number.name = some text) :
    number.Accepted fields ∧ ∀ written, r.fields.value? number.name = some written ↔
      number.IsWritten snapshot.derivedState.featureEnabled fields ∧
        ∃ n, number.Spells text n ∧ written = toString n := by
  cases number with
  | port family =>
    obtain ⟨fields', config, hlast, hconfig, rfl⟩ := Snapshot.family_of_mem_records hr hkey
    obtain rfl := Option.some.inj (hlast.symm.trans hrecord)
    refine ⟨⟨config, hconfig⟩, fun written => ?_⟩
    rw [exists_spells_iff (spells_port hconfig hvalue)]
    exact value?_ofFamily hconfig
  | interfacePaths interface family =>
    obtain ⟨fields', config, hlast, hconfig, rfl⟩ := Snapshot.interface_of_mem_records hr hkey
    obtain rfl := Option.some.inj (hlast.symm.trans hrecord)
    refine ⟨⟨config, hconfig⟩, fun written => (value?_ofInterface hconfig).trans ?_⟩
    refine and_congr_right fun hwritten => ?_
    -- an accepted record has a limit for every version that it asks for
    obtain ⟨-, hpaths, -⟩ := Decode.of_interface_eq_some hconfig
    have hasked := ((Decode.reads_of_interface hconfig).2.families family).2 hwritten.1
    obtain ⟨n, hn⟩ := Option.isSome_iff_exists.1 ((hpaths family).trans hasked)
    rw [exists_spells_iff (spells_interfacePaths hconfig hn hvalue), hn]
    simp
  | groupPaths family group =>
    obtain ⟨fields', config, network, hlast, hconfig, rfl⟩ :=
      Snapshot.group_of_mem_records hr hkey
    obtain rfl := Option.some.inj (hlast.symm.trans hrecord)
    refine ⟨⟨config, hconfig⟩, fun written => ?_⟩
    rw [exists_spells_iff (spells_groupPaths hconfig hvalue)]
    simp [IsWritten, name, AppRecord.ofGroup, Fields.value?, eq_comm]
  | connections family =>
    obtain ⟨fields', config, hlast, hconfig, rfl⟩ := Snapshot.rdma_of_mem_records hr hkey
    obtain rfl := Option.some.inj (hlast.symm.trans hrecord)
    refine ⟨⟨config, hconfig⟩, fun written => ?_⟩
    rw [exists_spells_iff (spells_connections hconfig hvalue)]
    cases family <;>
      simp [IsWritten, name, AppRecord.ofRdma, AppRecord.single, Fields.value?, maxConnectionsField,
        PerFamily.get, eq_comm]
  | timeout =>
    obtain ⟨fields', config, hlast, hconfig, rfl⟩ := Snapshot.rdma_of_mem_records hr hkey
    obtain rfl := Option.some.inj (hlast.symm.trans hrecord)
    refine ⟨⟨config, hconfig⟩, fun written => ?_⟩
    rw [exists_spells_iff (spells_timeout hconfig hvalue)]
    simp [IsWritten, name, AppRecord.ofRdma, AppRecord.single, Fields.value?, maxConnectionsField,
      eq_comm]

/-! ## What is reported of a refused record -/

/-- A record whose field is read is accepted, or it leaves exactly one error. -/
theorem settled {snapshot : Snapshot} (hread : number.IsRead fields)
    (hrecord : Validation.lastRecord? (snapshot.table number.scope) number.key = some fields) :
    Validation.Settled (number.Accepted fields)
      ((Validation.of snapshot).errorsAt number.scope number.key) := by
  cases number with
  | port family =>
    refine Validation.settled_of_result _ (Decode.family fields) hrecord ?_ Iff.rfl
    simp only [Validation.faults, scope, key, Family.ofName_eq_ok_iff.2 rfl]
  | interfacePaths interface family =>
    refine Validation.settled_of_result _ (Decode.interface fields) hrecord rfl ?_
    constructor
    · rintro ⟨config, hconfig⟩
      exact ⟨some config, hconfig⟩
    · rintro ⟨result, hresult⟩
      rw [Decode.interface_of_enabled hread.1] at hresult
      obtain ⟨config, hconfig, -⟩ := exists_of_map_eq_ok hresult
      refine ⟨config, ?_⟩
      rw [Decode.interface_of_enabled hread.1, hconfig]
      rfl
  | groupPaths family group =>
    refine Validation.settled_of_result _ (Decode.group family group fields) hrecord ?_ Iff.rfl
    simp only [Validation.faults, scope, key, Decode.groupKey_eq_ok_iff.2 rfl]
  | connections family | timeout =>
    exact Validation.settled_of_result _ (Decode.rdma fields) hrecord rfl Iff.rfl

end NumberField

end DualStack
