import DualStack.Proofs.Delivery
import DualStack.Proofs.Gating
import DualStack.Proofs.ReadBack
import Mathlib.Data.List.Nodup
import Mathlib.Logic.Function.Basic
import Std.Data.String.ToNat

/-!
# The records tell the state

A state can be recovered from what it is written as. Truth values, numbers, names and lists are told
apart by their texts, a limit that is not there by its missing field, and entities by their keys,
whatever their names look like. Two states that leave the same application database therefore agree
on everything that is written at all: on all but the notifications, the capability table and the
parsed networks.
-/

set_option autoImplicit false

namespace DualStack

/-! ## Texts of values -/

/-- The two truth values are written differently. -/
theorem boolText_injective : Function.Injective boolText := by
  intro a b
  cases a <;> cases b <;> decide

/-- Different numbers of 16 bits are written differently. -/
theorem uint16Text_injective : Function.Injective fun n : UInt16 => toString n.toNat := by
  intro a b h
  exact UInt16.toNat_inj.1 (Nat.repr_inj.1 h)

/-- Different numbers of 32 bits are written differently. -/
theorem uint32Text_injective : Function.Injective fun n : UInt32 => toString n.toNat := by
  intro a b h
  exact UInt32.toNat_inj.1 (Nat.repr_inj.1 h)

/-- The two families have different version numbers. -/
theorem Family.versionText_injective : Function.Injective fun family : Family =>
    toString family.version := by
  intro a b h
  have hversion : a.version = b.version := Nat.repr_inj.1 h
  cases a <;> cases b <;> simp_all [version]

/-- Different placements are spelled differently. -/
theorem CongestionControl.name_injective : Function.Injective name := by
  have hread : ofName ∘ name = Except.ok := funext ofName_name
  apply Function.Injective.of_comp (f := ofName)
  rw [hread]
  exact fun _ _ => Except.ok.inj

/-- Different connection modes are spelled differently. -/
theorem ConnectionMode.name_injective : Function.Injective name := by
  have hread : ofName ∘ name = Except.ok := funext ofName_name
  apply Function.Injective.of_comp (f := ofName)
  rw [hread]
  exact fun _ _ => Except.ok.inj

/-- A value of an open enumeration is its spelling. -/
theorem OpenMode.name_injective {known : List String} :
    Function.Injective (name : OpenMode known → String) := by
  rintro ⟨a⟩ ⟨b⟩ h
  cases h
  rfl

/-- Different texts have different values, because the value stands for its text. -/
theorem Json.ofString_injective : Function.Injective ofString := by
  have hread : text? ∘ ofString = some := funext text?_ofString
  apply Function.Injective.of_comp (f := text?)
  rw [hread]
  exact fun _ _ => Option.some.inj

/-- The JSON text of a list is read as the array of its texts. -/
theorem AppRecord.parse?_listText (items : List String) :
    Json.parse? (listText items) = some (Json.array (items.map Json.ofString)) := by
  apply Json.parse?_render
  apply Json.readsBack_array
  intro item hitem
  obtain ⟨s, -, rfl⟩ := List.mem_map.1 hitem
  exact Json.readsBack_ofString s

/-- Different lists have different JSON texts, because a list is read back from its text. -/
theorem AppRecord.listText_injective : Function.Injective listText := by
  have hread : Json.parse? ∘ listText = fun items =>
      some (Json.array (items.map Json.ofString)) := funext parse?_listText
  apply Function.Injective.of_comp (f := Json.parse?)
  rw [hread]
  intro items items' h
  have hitems := Json.array.inj (Option.some.inj h)
  exact List.map_injective_iff.2 Json.ofString_injective hitems

/-- What is written of the state of a group. -/
def GroupState.written (state : GroupState) : String × UInt32 × HashAlgorithm :=
  (state.networkText, state.maxPaths, state.hash)

/-! ## Fields of records -/

namespace Fields

/-- Fields with the same hash have the same values. -/
theorem value?_eq_of_toHash_eq {fields fields' : Fields} (h : fields.toHash = fields'.toHash)
    (field : String) : fields.value? field = fields'.value? field := by
  rw [← getElem?_toHash, h, getElem?_toHash]

/-- The value in two lists of fields is that of the second list, or of the first if the second has
none. -/
theorem value?_append (fields fields' : Fields) (field : String) :
    value? (fields ++ fields') field = (fields'.value? field).or (fields.value? field) := by
  induction fields with
  | nil => simp [value?]
  | cons pair fields ih => simp only [List.cons_append, value?, ih, Option.or_assoc]

end Fields

namespace AppRecord

/-- Two global states with the same fields under every key of the one are the same. -/
theorem ofGlobal_inj {a b : GlobalState}
    (h : ∀ r ∈ ofGlobal a, ∃ r' ∈ ofGlobal b, r'.key = r.key ∧
      r'.fields.toHash = r.fields.toHash) : a = b := by
  -- the record of `b` that has the key of `r` is the only one with that key
  have hvalue : ∀ r ∈ ofGlobal a, ∀ r' ∈ ofGlobal b, r'.key = r.key →
      ∀ field, r.fields.value? field = r'.fields.value? field := by
    intro r hr r' hr' hkey
    obtain ⟨found, hfound, hfoundKey, hhash⟩ := h r hr
    have hsame : r' = found := List.inj_on_of_nodup_map
      (List.pairwise_map.2 (pairwise_ofGlobal b)) hr' hfound (hkey.trans hfoundKey.symm)
    rw [hsame]
    exact Fields.value?_eq_of_toHash_eq hhash.symm
  cases a with
  | disabled =>
    cases b with
    | disabled => rfl
    | enabled families transport dualStack congestion =>
      have henabled := hvalue _ (.head _) _ (.head _) rfl "enabled"
      simp [single, Fields.value?, boolText] at henabled
  | enabled families transport dualStack congestion =>
    cases b with
    | disabled =>
      have henabled := hvalue _ (.head _) _ (.head _) rfl "enabled"
      simp [single, Fields.value?, boolText] at henabled
    | enabled families' transport' dualStack' congestion' =>
      have hfamilies : families = families' := by
        have hstate := hvalue _ (.head _) _ (.head _) rfl
        apply PerFamily.ext_get
        intro family
        cases family with
        | ipv4 =>
          apply boolText_injective
          simpa [single, Fields.value?, PerFamily.get] using hstate "ipv4_enabled"
        | ipv6 =>
          apply boolText_injective
          simpa [single, Fields.value?, PerFamily.get] using hstate "ipv6_enabled"
      have htransport : transport.name = transport'.name := by
        have hmode := hvalue _ (.tail _ (.head _)) _ (.tail _ (.head _)) rfl "mode"
        simpa [single, Fields.value?] using hmode
      have hdualStack : dualStack.name = dualStack'.name := by
        have hmode := hvalue _ (.tail _ (.tail _ (.head _))) _ (.tail _ (.tail _ (.head _))) rfl
          "mode"
        simpa [single, Fields.value?] using hmode
      have hcongestion : congestion.name = congestion'.name := by
        have halgorithm := hvalue _ (.tail _ (.tail _ (.tail _ (.head _)))) _
          (.tail _ (.tail _ (.tail _ (.head _)))) rfl "algorithm"
        simpa [single, Fields.value?] using halgorithm
      rw [hfamilies, OpenMode.name_injective htransport, OpenMode.name_injective hdualStack,
        CongestionControl.name_injective hcongestion]

/-- The state of a family is determined by the hash of its record. -/
theorem ofFamily_inj {family family' : Family} {a b : FamilyState}
    (h : (ofFamily family a).fields.toHash = (ofFamily family' b).fields.toHash) : a = b := by
  have hvalue := Fields.value?_eq_of_toHash_eq h
  have henabled := hvalue "enabled"
  cases a with
  | disabled =>
    cases b with
    | disabled => rfl
    | enabled port entropy => simp [ofFamily, Fields.value?, boolText] at henabled
  | enabled port entropy =>
    cases b with
    | disabled => simp [ofFamily, Fields.value?, boolText] at henabled
    | enabled port' entropy' =>
      have hport : toString port.toNat = toString port'.toNat := by
        simpa [ofFamily, Fields.value?] using hvalue "udp_port"
      have hentropy : listText entropy = listText entropy' := by
        simpa [ofFamily, Fields.value?] using hvalue "entropy_fields"
      rw [uint16Text_injective hport, listText_injective hentropy]

/-- The fields of an interface record that say how it balances and what it prefers. -/
theorem value?_ofInterface_choices (name : String) (state : InterfaceState) :
    let fields := (ofInterface name state).fields
    fields.value? "load_balance_mode" = some state.loadBalance.name ∧
      fields.value? "prefer_version" = some (toString state.preferred.version) := by
  constructor <;> simp [ofInterface, Fields.value?_append, Fields.value?]

/-- The state of an interface is determined by the hash of its record. -/
theorem ofInterface_inj {name name' : String} {a b : InterfaceState}
    (h : (ofInterface name a).fields.toHash = (ofInterface name' b).fields.toHash) : a = b := by
  have hvalue := Fields.value?_eq_of_toHash_eq h
  obtain ⟨henabled, h4, h6, hpaths⟩ := value?_ofInterface name a
  obtain ⟨henabled', h4', h6', hpaths'⟩ := value?_ofInterface name' b
  obtain ⟨hbalance, hversion⟩ := value?_ofInterface_choices name a
  obtain ⟨hbalance', hversion'⟩ := value?_ofInterface_choices name' b
  rw [hvalue, henabled', Option.some.injEq] at henabled
  rw [hvalue, h4', Option.some.injEq] at h4
  rw [hvalue, h6', Option.some.injEq] at h6
  rw [hvalue, hbalance', Option.some.injEq] at hbalance
  rw [hvalue, hversion', Option.some.injEq] at hversion
  have hfamilies : b.families = a.families := by
    apply PerFamily.ext_get
    intro family
    cases family with
    | ipv4 => exact boolText_injective h4
    | ipv6 => exact boolText_injective h6
  have hlimits : b.maxPaths = a.maxPaths := by
    apply PerFamily.ext_get
    intro family
    have htexts := hpaths family
    rw [hvalue, hpaths'] at htexts
    exact Option.map_injective uint32Text_injective htexts
  have heq : b = a := by
    cases a
    cases b
    rw [InterfaceState.mk.injEq]
    exact ⟨boolText_injective henabled, hfamilies, hlimits, OpenMode.name_injective hbalance,
      Family.versionText_injective hversion⟩
  exact heq.symm

/-- What is written of a group is determined by the hash of its record. -/
theorem written_eq_of_ofGroup {family family' : Family} {name name' : String} {a b : GroupState}
    (h : (ofGroup family name a).fields.toHash = (ofGroup family' name' b).fields.toHash) :
    a.written = b.written := by
  have hvalue := Fields.value?_eq_of_toHash_eq h
  have htext : a.networkText = b.networkText := by
    simpa [ofGroup, Fields.value?] using hvalue "prefix"
  have hpaths : toString a.maxPaths.toNat = toString b.maxPaths.toNat := by
    simpa [ofGroup, Fields.value?] using hvalue "max_paths"
  have hhash : a.hash.name = b.hash.name := by
    simpa [ofGroup, Fields.value?] using hvalue "hash_algorithm"
  unfold GroupState.written
  rw [htext, uint32Text_injective hpaths, OpenMode.name_injective hhash]

/-- The RDMA settings are determined by the hash of their record. -/
theorem ofRdma_inj {a b : RdmaConfig} (h : (ofRdma a).fields.toHash = (ofRdma b).fields.toHash) :
    a = b := by
  have hvalue := Fields.value?_eq_of_toHash_eq h
  have hconnections : a.maxConnections = b.maxConnections := by
    apply PerFamily.ext_get
    intro family
    apply uint32Text_injective
    have htexts := hvalue (maxConnectionsField family)
    cases family <;> simpa [ofRdma, single, Fields.value?, maxConnectionsField, PerFamily.get]
      using htexts
  have hmode : a.mode.name = b.mode.name := by
    simpa [ofRdma, single, Fields.value?, maxConnectionsField] using hvalue "connection_mode"
  have htimeout : toString a.timeout.toNat = toString b.timeout.toNat := by
    simpa [ofRdma, single, Fields.value?, maxConnectionsField] using hvalue "connection_timeout"
  cases a
  cases b
  rw [RdmaConfig.mk.injEq]
  exact ⟨hconnections, ConnectionMode.name_injective hmode, uint32Text_injective htimeout⟩

/-- No record has two fields of one name. -/
theorem nodup_fields_of_mem {state : DerivedState} {r : AppRecord} (hr : r ∈ state.records) :
    (r.fields.map Prod.fst).Nodup := by
  rw [DerivedState.records_eq_flatMap] at hr
  obtain ⟨scope, -, hr⟩ := List.mem_flatMap.1 hr
  cases scope with
  | global =>
    obtain ⟨g, -, hr⟩ := List.mem_flatMap.1 hr
    cases g with
    | disabled =>
      cases List.mem_singleton.1 hr
      simp [single]
    | enabled families transport dualStack congestion =>
      simp only [ofGlobal, List.mem_cons, List.not_mem_nil, or_false] at hr
      rcases hr with rfl | rfl | rfl | rfl <;> simp [single]
  | addressFamily =>
    obtain ⟨⟨family, derived⟩, -, hr⟩ := List.mem_flatMap.1 hr
    obtain ⟨derived, -, rfl⟩ := List.mem_map.1 hr
    cases derived <;> simp [ofFamily]
  | interface =>
    obtain ⟨⟨name, derived⟩, -, rfl⟩ := List.mem_map.1 hr
    obtain ⟨enabled, families, ⟨paths4, paths6⟩, loadBalance, preferred⟩ := derived
    cases paths4 <;> cases paths6 <;> simp [ofInterface, pathsFields, maxPathsField]
  | ecmp =>
    obtain ⟨⟨family, groups⟩, -, hr⟩ := List.mem_flatMap.1 hr
    obtain ⟨⟨name, derived⟩, -, rfl⟩ := List.mem_map.1 hr
    simp [ofGroup]
  | rdma =>
    obtain ⟨config, -, rfl⟩ := List.mem_map.1 hr
    simp [ofRdma, single, maxConnectionsField]

end AppRecord

/-! ## States -/

namespace DerivedState

open AppRecord

/-- Two states that agree on everything that is written. -/
structure SameAsWritten (a b : DerivedState) : Prop where
  global : a.global = b.global
  families : a.families = b.families
  interfaces : a.interfaces = b.interfaces
  groups : ∀ family (name : String), (a.groups.get family)[name]?.map GroupState.written =
    (b.groups.get family)[name]?.map GroupState.written
  rdma : a.rdma = b.rdma

/-- What an empty application database holds after the delivery of a state. -/
def hashes (state : DerivedState) (channel : String) : NameMap Hash :=
  (state.apply channel (Store.empty .appl)).1.hashes

/-- On an empty database a delivery writes every record of the state. -/
theorem hashes_eq (state : DerivedState) (channel : String) : state.hashes channel =
    NameMap.insertAll ∅ (entries (Store.empty .appl) state.records) := by
  unfold hashes
  rw [apply_eq]
  rfl

/-- The hashes that are left are exactly those of the records of the state. -/
theorem getElem?_hashes_eq_some_iff {state : DerivedState} {channel key : String} {hash : Hash} :
    (state.hashes channel)[key]? = some hash ↔
      ∃ r ∈ state.records, r.key = key ∧ r.fields.toHash = hash := by
  have hmem : ∀ r ∈ state.records,
      (state.hashes channel)[r.key]? = some r.fields.toHash := by
    intro r hr
    rw [hashes_eq]
    exact NameMap.getElem?_insertAll_of_mem (state.pairwise_entries _)
      (mem_entries.2 ⟨r, hr, Store.faultless_empty _ r.key, rfl⟩)
  constructor
  · intro h
    have hkey : key ∈ state.hashes channel := by
      rw [Std.ExtTreeMap.mem_iff_isSome_getElem?, h]
      rfl
    rw [hashes_eq, NameMap.mem_insertAll] at hkey
    rcases hkey with hkey | ⟨pair, hpair, rfl⟩
    · simp at hkey
    · obtain ⟨r, hr, -, rfl⟩ := mem_entries.1 hpair
      refine ⟨r, hr, rfl, ?_⟩
      rw [hmem r hr] at h
      exact Option.some.inj h
  · rintro ⟨r, hr, rfl, rfl⟩
    exact hmem r hr

section

variable {a b : DerivedState} {channel : String} (h : a.hashes channel = b.hashes channel)
include h

/-- A record of one state has its like in the other, under the same key and for the same scope. -/
theorem exists_mem_recordsOf {scope : Scope} {r : AppRecord} (hr : r ∈ a.recordsOf scope) :
    ∃ r' ∈ b.recordsOf scope, r'.key = r.key ∧ r'.fields.toHash = r.fields.toHash := by
  have hfound : (b.hashes channel)[r.key]? = some r.fields.toHash := by
    rw [← h]
    exact getElem?_hashes_eq_some_iff.2 ⟨r, mem_records.2 ⟨scope, hr⟩, rfl, rfl⟩
  obtain ⟨r', hr', hkey, hhash⟩ := getElem?_hashes_eq_some_iff.1 hfound
  obtain ⟨scope', hscope⟩ := mem_records.1 hr'
  -- the key tells the scope
  have heq : scope' = scope := by
    rw [← (scope_of_mem_recordsOf hscope).2, hkey, (scope_of_mem_recordsOf hr).2]
  subst heq
  exact ⟨r', hscope, hkey, hhash⟩

/-- The global state is recovered from the hashes. -/
theorem global_of_hashes {state : GlobalState} (hstate : a.global = some state) :
    b.global = some state := by
  have hall : ∀ r ∈ ofGlobal state, ∃ r' ∈ b.recordsOf .global,
      r'.key = r.key ∧ r'.fields.toHash = r.fields.toHash := by
    intro r hr
    apply exists_mem_recordsOf h
    exact List.mem_flatMap.2 ⟨state, Option.mem_toList.2 hstate, hr⟩
  obtain ⟨r, hr⟩ : ∃ r, r ∈ ofGlobal state := by
    cases state <;> exact ⟨_, List.mem_cons_self⟩
  obtain ⟨r', hr', -⟩ := hall r hr
  obtain ⟨state', hstate', -⟩ := List.mem_flatMap.1 hr'
  rw [Option.mem_toList] at hstate'
  rw [hstate']
  refine congrArg some (ofGlobal_inj fun r hr => ?_).symm
  obtain ⟨r', hr', hsame⟩ := hall r hr
  obtain ⟨state'', hstate'', hr'⟩ := List.mem_flatMap.1 hr'
  rw [Option.mem_toList, hstate', Option.some.injEq] at hstate''
  subst hstate''
  exact ⟨r', hr', hsame⟩

/-- The states of the families are recovered from the hashes. -/
theorem families_of_hashes {family : Family} {state : FamilyState}
    (hstate : a.families.get family = some state) : b.families.get family = some state := by
  have hr := mem_recordsOf_addressFamily.2 ⟨family, state, hstate, rfl⟩
  obtain ⟨r', hr', hkey, hhash⟩ := exists_mem_recordsOf h hr
  obtain ⟨family', state', hstate', rfl⟩ := mem_recordsOf_addressFamily.1 hr'
  obtain rfl := familyKey_inj.1 hkey
  rw [hstate', ofFamily_inj hhash]

/-- The states of the interfaces are recovered from the hashes. -/
theorem interfaces_of_hashes {name : String} {state : InterfaceState}
    (hstate : a.interfaces[name]? = some state) : b.interfaces[name]? = some state := by
  have hr := mem_recordsOf_interface.2 ⟨name, state, hstate, rfl⟩
  obtain ⟨r', hr', hkey, hhash⟩ := exists_mem_recordsOf h hr
  obtain ⟨name', state', hstate', rfl⟩ := mem_recordsOf_interface.1 hr'
  obtain rfl := key_ofInterface_inj.1 hkey
  rw [hstate', ofInterface_inj hhash]

/-- Of every group, what is written is recovered from the hashes. -/
theorem groups_of_hashes {family : Family} {name : String} {state : GroupState}
    (hstate : (a.groups.get family)[name]? = some state) :
    ∃ state', (b.groups.get family)[name]? = some state' ∧ state'.written = state.written := by
  have hr := mem_recordsOf_ecmp.2 ⟨family, name, state, hstate, rfl⟩
  obtain ⟨r', hr', hkey, hhash⟩ := exists_mem_recordsOf h hr
  obtain ⟨family', name', state', hstate', rfl⟩ := mem_recordsOf_ecmp.1 hr'
  obtain ⟨rfl, rfl⟩ := groupKey_inj.1 hkey
  exact ⟨state', hstate', written_eq_of_ofGroup hhash⟩

/-- The RDMA settings are recovered from the hashes. -/
theorem rdma_of_hashes {config : RdmaConfig} (hconfig : a.rdma = some config) :
    b.rdma = some config := by
  have hr : ofRdma config ∈ a.recordsOf .rdma :=
    List.mem_map.2 ⟨config, Option.mem_toList.2 hconfig, rfl⟩
  obtain ⟨r', hr', -, hhash⟩ := exists_mem_recordsOf h hr
  obtain ⟨config', hconfig', rfl⟩ := List.mem_map.1 hr'
  rw [Option.mem_toList] at hconfig'
  rw [hconfig', ofRdma_inj hhash]

/-- States that leave the same hashes agree on everything that is written. -/
theorem sameAsWritten_of_hashes : a.SameAsWritten b where
  global := Option.ext fun _ => ⟨global_of_hashes h, global_of_hashes h.symm⟩
  families := PerFamily.ext_get fun _ => Option.ext fun _ =>
    ⟨families_of_hashes h, families_of_hashes h.symm⟩
  interfaces := Std.ExtTreeMap.ext_getElem? fun _ => Option.ext fun _ =>
    ⟨interfaces_of_hashes h, interfaces_of_hashes h.symm⟩
  groups family name := by
    apply Option.ext
    intro values
    rw [Option.map_eq_some_iff, Option.map_eq_some_iff]
    constructor
    · rintro ⟨state, hstate, rfl⟩
      exact groups_of_hashes h hstate
    · rintro ⟨state, hstate, rfl⟩
      exact groups_of_hashes h.symm hstate
  rdma := Option.ext fun _ => ⟨rdma_of_hashes h, rdma_of_hashes h.symm⟩

end

/-- The records of the groups of a family depend on what is written of the groups. -/
theorem map_ofGroup_congr {family : Family} {groups groups' : NameMap GroupState}
    (h : ∀ name : String, groups[name]?.map GroupState.written =
      groups'[name]?.map GroupState.written) :
    (groups.toList.map fun (name, state) => ofGroup family name state) =
      groups'.toList.map fun (name, state) => ofGroup family name state := by
  have hmaps : (groups.map fun _ => GroupState.written) =
      groups'.map fun _ => GroupState.written := by
    apply Std.ExtTreeMap.ext_getElem?
    intro name
    rw [Std.ExtTreeMap.getElem?_map, Std.ExtTreeMap.getElem?_map]
    exact h name
  have hlists := congrArg Std.ExtTreeMap.toList hmaps
  rw [Std.ExtTreeMap.toList_map, Std.ExtTreeMap.toList_map] at hlists
  have : Nonempty AppRecord := ⟨⟨.ecmp, "", "", []⟩⟩
  have hfactors : Function.FactorsThrough
      (fun pair : String × GroupState => ofGroup family pair.1 pair.2)
      (fun pair => (pair.1, pair.2.written)) := by
    rintro ⟨name, state⟩ ⟨name', state'⟩ hpair
    simp only [GroupState.written, Prod.mk.injEq] at hpair
    obtain ⟨rfl, htext, hpaths, hhash⟩ := hpair
    simp only [ofGroup, htext, hpaths, hhash]
  obtain ⟨write, hwrite⟩ := (Function.factorsThrough_iff _).1 hfactors
  have hmap : ∀ list : List (String × GroupState),
      (list.map fun (name, state) => ofGroup family name state) =
        (list.map fun pair => (pair.1, pair.2.written)).map write := by
    intro list
    rw [List.map_map]
    exact congrArg (List.map · list) hwrite
  rw [hmap, hmap, hlists]

/-- States that agree on everything that is written have the same records in the same order. -/
theorem SameAsWritten.records_eq {a b : DerivedState} (h : a.SameAsWritten b) :
    a.records = b.records := by
  have hgroups : a.recordsOf .ecmp = b.recordsOf .ecmp := by
    simp only [recordsOf, PerFamily.toList, List.flatMap_map]
    apply List.flatMap_congr
    intro family _
    exact map_ofGroup_congr (h.groups family)
  rw [records_eq_flatMap, records_eq_flatMap]
  apply List.flatMap_congr
  intro scope _
  cases scope with
  | global => simp only [recordsOf, h.global]
  | addressFamily => simp only [recordsOf, h.families]
  | interface => simp only [recordsOf, h.interfaces]
  | ecmp => exact hgroups
  | rdma => simp only [recordsOf, h.rdma]

/-- Every record of a state has a key of its own and every field of a record a name of its own, and
there are as many records as the state counts. What is written can be read back: the records of two
states are the same, and so is what they leave in an empty application database, exactly if the
states agree on everything that is written. -/
theorem told_by_records (a b : DerivedState) (channel : String) :
    (a.records.map AppRecord.key).Nodup ∧
    (∀ r ∈ a.records, (r.fields.map Prod.fst).Nodup) ∧
    a.records.length = a.recordCount ∧
    (a.records = b.records ↔ a.SameAsWritten b) ∧
    (a.hashes channel = b.hashes channel ↔ a.SameAsWritten b) := by
  have hwritten : a.records = b.records → a.hashes channel = b.hashes channel := by
    intro h
    rw [hashes_eq, hashes_eq, h]
  refine ⟨List.pairwise_map.2 a.pairwise_records, fun r hr => nodup_fields_of_mem hr,
    a.length_records, ⟨fun h => sameAsWritten_of_hashes (hwritten h), fun h => h.records_eq⟩,
    ⟨sameAsWritten_of_hashes, fun h => hwritten h.records_eq⟩⟩

end DerivedState

end DualStack
