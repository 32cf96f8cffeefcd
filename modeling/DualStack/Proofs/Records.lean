import DualStack.Proofs.Store
import DualStack.State.Record

/-!
# The keys of the records of a state

Every record of a derived state has a key of its own: the key tells the scope, and within a scope
it tells the entity. The names of interfaces and groups are arbitrary texts, so this rests on where
the separators stand and not on what the names look like. A state is written as as many records
as it counts, and no record is without fields.
-/

set_option autoImplicit false

namespace DualStack

namespace AppRecord

/-! ## The scope of a key -/

/-- The scope of the records that are written under a key. -/
def scopeOf (key : String) : Scope :=
  if Text.startsWith (Database.appl.recordKey Schema.interfaceConfigTable "") key then .interface
  else if Text.startsWith (Database.appl.recordKey Schema.ecmpGroupTable "") key then .ecmp
  else if key = Schema.rdmaConfigKey then .rdma
  else if key = Schema.ipv4ConfigKey ∨ key = Schema.ipv6ConfigKey then .addressFamily
  else .global

/-- Every record of the global state is of the global scope, as its key tells. -/
theorem scopeOf_ofGlobal {state : GlobalState} {r : AppRecord} (hr : r ∈ ofGlobal state) :
    r.scope = .global ∧ scopeOf r.key = .global := by
  have hkeys : ∀ key ∈ [Schema.globalStateKey, Schema.transportModeKey, Schema.dualStackKey,
      Schema.congestionControlKey], scopeOf key = .global := by decide
  cases state with
  | disabled =>
    simp only [ofGlobal, List.mem_singleton] at hr
    subst hr
    exact ⟨rfl, hkeys _ (by simp [single])⟩
  | enabled families transport dualStack congestion =>
    simp only [ofGlobal, List.mem_cons, List.not_mem_nil, or_false] at hr
    rcases hr with rfl | rfl | rfl | rfl <;> exact ⟨rfl, hkeys _ (by simp [single])⟩

/-- The key of the record of a family tells its scope. -/
theorem scopeOf_ofFamily (family : Family) (state : FamilyState) :
    scopeOf (ofFamily family state).key = .addressFamily := by
  show scopeOf (familyKey family) = .addressFamily
  cases family <;> decide

/-- The key of the record of an interface. -/
def interfaceKey (name : String) : String :=
  Database.appl.recordKey Schema.interfaceConfigTable name

/-- The key of the record of a group. -/
def groupKey (family : Family) (name : String) : String :=
  Database.appl.recordKey Schema.ecmpGroupTable s!"{family.name}:{name}"

/-- The key of the record of an interface tells its scope, whatever the name is. -/
theorem scopeOf_ofInterface (name : String) (state : InterfaceState) :
    scopeOf (ofInterface name state).key = .interface := by
  unfold scopeOf
  exact if_pos (Database.startsWith_recordKey _ _ _)

/-- The key of the record of a group tells its scope, whatever the name is. -/
theorem scopeOf_groupKey (family : Family) (name : String) :
    scopeOf (groupKey family name) = .ecmp := by
  have hother : Text.startsWith (Database.appl.recordKey Schema.interfaceConfigTable "")
      (groupKey family name) = false := by
    simp only [Text.startsWith, groupKey, Database.toList_recordKey]
    simp [Schema.interfaceConfigTable, Schema.ecmpGroupTable, Text.after?]
  have hown : Text.startsWith (Database.appl.recordKey Schema.ecmpGroupTable "")
      (groupKey family name) = true := Database.startsWith_recordKey _ _ _
  unfold scopeOf
  rw [hother, hown, if_neg Bool.false_ne_true, if_pos rfl]

/-- The key of the RDMA record tells its scope. -/
theorem scopeOf_ofRdma (config : RdmaConfig) : scopeOf (ofRdma config).key = .rdma := by
  show scopeOf Schema.rdmaConfigKey = .rdma
  decide

/-! ## The keys of one scope -/

/-- The records of the global state have distinct keys. -/
theorem pairwise_ofGlobal (state : GlobalState) :
    (ofGlobal state).Pairwise fun r r' => r.key ≠ r'.key := by
  rw [← List.pairwise_map (f := key)]
  cases state with
  | disabled => exact List.pairwise_singleton _ _
  | enabled families transport dualStack congestion =>
    show [Schema.globalStateKey, Schema.transportModeKey, Schema.dualStackKey,
      Schema.congestionControlKey].Nodup
    decide

/-- The records of the two families have different keys. -/
theorem familyKey_inj {family family' : Family} :
    familyKey family = familyKey family' ↔ family = family' := by
  cases family <;> cases family' <;> decide

/-- The records of interfaces with different names have different keys. -/
theorem key_ofInterface_inj {name name' : String} {state state' : InterfaceState} :
    (ofInterface name state).key = (ofInterface name' state').key ↔ name = name' :=
  Database.recordKey_inj

/-- The records of groups that differ in family or name have different keys. -/
theorem groupKey_inj {family family' : Family} {name name' : String} :
    groupKey family name = groupKey family' name' ↔ family = family' ∧ name = name' := by
  constructor
  · intro h
    have hname := congrArg String.toList (Database.recordKey_inj.1 h)
    have hlist : ∀ (f : Family) (n : String),
        (s!"{f.name}:{n}").toList = f.name.toList ++ ':' :: n.toList := by
      intro f n
      show ((f.name ++ ":") ++ n).toList = _
      simp
    rw [hlist, hlist] at hname
    -- both family names have four characters, so the two texts split at the same place
    have hlength : family.name.toList.length = family'.name.toList.length := by
      cases family <;> cases family' <;> simp [Family.name]
    obtain ⟨hfamily, hrest⟩ := List.append_inj hname hlength
    refine ⟨?_, String.toList_injective (List.cons.inj hrest).2⟩
    cases family <;> cases family' <;> first | rfl | exact absurd hfamily (by decide)
  · rintro ⟨rfl, rfl⟩
    rfl

end AppRecord

namespace DerivedState

open AppRecord

/-! ## The records of a state -/

/-- The records of a state that belong to a scope. -/
def recordsOf (state : DerivedState) : Scope → List AppRecord
  | .global => state.global.toList.flatMap ofGlobal
  | .addressFamily => state.families.toList.flatMap fun (family, derived) =>
      derived.toList.map (ofFamily family)
  | .interface => state.interfaces.toList.map fun (name, derived) => ofInterface name derived
  | .ecmp => state.groups.toList.flatMap fun (family, groups) =>
      groups.toList.map fun (name, derived) => ofGroup family name derived
  | .rdma => state.rdma.toList.map ofRdma

/-- The records of a state are those of its scopes, one scope after another. -/
theorem records_eq_flatMap (state : DerivedState) :
    state.records = Scope.all.flatMap state.recordsOf := by
  simp [records, Scope.all, recordsOf]

/-- The records of a scope carry this scope, and their keys tell it. -/
theorem scope_of_mem_recordsOf {state : DerivedState} {scope : Scope} {r : AppRecord}
    (hr : r ∈ state.recordsOf scope) : r.scope = scope ∧ scopeOf r.key = scope := by
  cases scope with
  | global =>
    obtain ⟨g, -, hr⟩ := List.mem_flatMap.1 hr
    exact scopeOf_ofGlobal hr
  | addressFamily =>
    obtain ⟨⟨family, derived⟩, -, hr⟩ := List.mem_flatMap.1 hr
    obtain ⟨derived, -, rfl⟩ := List.mem_map.1 hr
    exact ⟨rfl, scopeOf_ofFamily family derived⟩
  | interface =>
    obtain ⟨⟨name, derived⟩, -, rfl⟩ := List.mem_map.1 hr
    exact ⟨rfl, scopeOf_ofInterface name derived⟩
  | ecmp =>
    obtain ⟨⟨family, groups⟩, -, hr⟩ := List.mem_flatMap.1 hr
    obtain ⟨⟨name, derived⟩, -, rfl⟩ := List.mem_map.1 hr
    exact ⟨rfl, scopeOf_groupKey family name⟩
  | rdma =>
    obtain ⟨config, -, rfl⟩ := List.mem_map.1 hr
    exact ⟨rfl, scopeOf_ofRdma config⟩

/-- The records with a scope are the ones written for it. -/
theorem filter_scope_records (state : DerivedState) (scope : Scope) :
    (state.records.filter fun r => r.scope = scope) = state.recordsOf scope := by
  have hfilter : ∀ other : Scope,
      ((state.recordsOf other).filter fun r => r.scope = scope) =
        if other = scope then state.recordsOf scope else [] := by
    intro other
    split
    · next heq =>
      subst heq
      exact List.filter_eq_self.2 fun r hr => by simp [(scope_of_mem_recordsOf hr).1]
    · next hne =>
      exact List.filter_eq_nil_iff.2 fun r hr => by simp [(scope_of_mem_recordsOf hr).1, hne]
  rw [records_eq_flatMap, List.filter_flatMap]
  simp only [hfilter]
  cases scope <;> simp [Scope.all]

/-- The records of a scope are those records of the state that carry it. -/
theorem mem_recordsOf_iff {state : DerivedState} {scope : Scope} {r : AppRecord} :
    r ∈ state.recordsOf scope ↔ r ∈ state.records ∧ r.scope = scope := by
  rw [← filter_scope_records, List.mem_filter, decide_eq_true_iff]

/-- Every record of a state belongs to a scope. -/
theorem mem_records {state : DerivedState} {r : AppRecord} :
    r ∈ state.records ↔ ∃ scope, r ∈ state.recordsOf scope := by
  rw [records_eq_flatMap, List.mem_flatMap]
  exact ⟨fun ⟨scope, _, hr⟩ => ⟨scope, hr⟩, fun ⟨scope, hr⟩ => ⟨scope, scope.mem_all, hr⟩⟩

/-- The records of the family scope are those of the families that have a state. -/
theorem mem_recordsOf_addressFamily {state : DerivedState} {r : AppRecord} :
    r ∈ state.recordsOf .addressFamily ↔
      ∃ family derived, state.families.get family = some derived ∧ r = ofFamily family derived := by
  simp only [recordsOf, PerFamily.toList, List.mem_flatMap, List.mem_map, Option.mem_toList]
  constructor
  · rintro ⟨_, ⟨family, -, rfl⟩, derived, hderived, rfl⟩
    exact ⟨family, derived, hderived, rfl⟩
  · rintro ⟨family, derived, hderived, rfl⟩
    exact ⟨_, ⟨family, family.mem_all, rfl⟩, derived, hderived, rfl⟩

/-- The records of the interface scope are those of the interfaces that have a state. -/
theorem mem_recordsOf_interface {state : DerivedState} {r : AppRecord} :
    r ∈ state.recordsOf .interface ↔
      ∃ name derived, state.interfaces[name]? = some derived ∧ r = ofInterface name derived := by
  simp only [recordsOf, List.mem_map, Prod.exists, Std.ExtTreeMap.mem_toList_iff_getElem?_eq_some,
    eq_comm (a := r)]

/-- The records of the group scope are those of the groups that have a state. -/
theorem mem_recordsOf_ecmp {state : DerivedState} {r : AppRecord} :
    r ∈ state.recordsOf .ecmp ↔ ∃ family name derived,
      (state.groups.get family)[name]? = some derived ∧ r = ofGroup family name derived := by
  simp only [recordsOf, PerFamily.toList, List.mem_flatMap, List.mem_map]
  constructor
  · rintro ⟨_, ⟨family, -, rfl⟩, ⟨name, derived⟩, hderived, rfl⟩
    rw [Std.ExtTreeMap.mem_toList_iff_getElem?_eq_some] at hderived
    exact ⟨family, name, derived, hderived, rfl⟩
  · rintro ⟨family, name, derived, hderived, rfl⟩
    rw [← Std.ExtTreeMap.mem_toList_iff_getElem?_eq_some] at hderived
    exact ⟨_, ⟨family, family.mem_all, rfl⟩, (name, derived), hderived, rfl⟩

/-- The records of a state that carry the family scope are those of its families. -/
theorem mem_records_addressFamily {state : DerivedState} {r : AppRecord} :
    r ∈ state.records ∧ r.scope = .addressFamily ↔
      ∃ family derived, state.families.get family = some derived ∧ r = ofFamily family derived := by
  rw [← mem_recordsOf_iff, mem_recordsOf_addressFamily]

/-- The records of a state that carry the interface scope are those of its interfaces. -/
theorem mem_records_interface {state : DerivedState} {r : AppRecord} :
    r ∈ state.records ∧ r.scope = .interface ↔
      ∃ name derived, state.interfaces[name]? = some derived ∧ r = ofInterface name derived := by
  rw [← mem_recordsOf_iff, mem_recordsOf_interface]

/-- The records of one scope have distinct keys. -/
theorem pairwise_recordsOf (state : DerivedState) (scope : Scope) :
    (state.recordsOf scope).Pairwise fun r r' => r.key ≠ r'.key := by
  cases scope with
  | global =>
    cases hglobal : state.global with
    | none => simp [recordsOf, hglobal]
    | some g => simpa [recordsOf, hglobal] using pairwise_ofGlobal g
  | addressFamily =>
    refine List.pairwise_flatMap.2 ⟨?_, ?_⟩
    · rintro ⟨family, derived⟩ -
      cases derived <;> simp
    -- between the blocks of the two families it is the families that differ
    · refine List.Pairwise.imp (R := fun a b => a.1 ≠ b.1) ?_ ?_
      · rintro ⟨family, derived⟩ ⟨family', derived'⟩ hne r hr r' hr' hkey
        obtain ⟨d, -, rfl⟩ := List.mem_map.1 hr
        obtain ⟨d', -, rfl⟩ := List.mem_map.1 hr'
        exact hne (familyKey_inj.1 hkey)
      · simp [PerFamily.toList, Family.all]
  | interface =>
    refine List.pairwise_map.2 ((NameMap.pairwise_toList state.interfaces).imp ?_)
    rintro ⟨name, derived⟩ ⟨name', derived'⟩ hlt hkey
    rw [key_ofInterface_inj.1 hkey] at hlt
    simp at hlt
  | ecmp =>
    refine List.pairwise_flatMap.2 ⟨?_, ?_⟩
    · rintro ⟨family, groups⟩ -
      refine List.pairwise_map.2 ((NameMap.pairwise_toList groups).imp ?_)
      rintro ⟨name, derived⟩ ⟨name', derived'⟩ hlt hkey
      rw [(groupKey_inj.1 hkey).2] at hlt
      simp at hlt
    · refine List.Pairwise.imp (R := fun a b => a.1 ≠ b.1) ?_ ?_
      · rintro ⟨family, groups⟩ ⟨family', groups'⟩ hne r hr r' hr' hkey
        obtain ⟨⟨name, derived⟩, -, rfl⟩ := List.mem_map.1 hr
        obtain ⟨⟨name', derived'⟩, -, rfl⟩ := List.mem_map.1 hr'
        exact hne (groupKey_inj.1 hkey).1
      · simp [PerFamily.toList, Family.all]
  | rdma =>
    cases hrdma : state.rdma <;> simp [recordsOf, hrdma]

/-- No two records of a state have the same key. -/
theorem pairwise_records (state : DerivedState) :
    state.records.Pairwise fun r r' => r.key ≠ r'.key := by
  rw [records_eq_flatMap]
  refine List.pairwise_flatMap.2 ⟨fun scope _ => state.pairwise_recordsOf scope, ?_⟩
  refine List.Pairwise.imp (R := fun a b => a ≠ b) ?_ (by decide)
  intro scope scope' hne r hr r' hr' hkey
  have hscope := (scope_of_mem_recordsOf hr).2
  rw [hkey, (scope_of_mem_recordsOf hr').2] at hscope
  exact hne hscope.symm

/-- A record of a state is the only one under its key. -/
theorem filter_key_records {state : DerivedState} {r : AppRecord} (hr : r ∈ state.records) :
    (state.records.filter fun r' => r'.key = r.key) = [r] := by
  have hpairwise := state.pairwise_records
  obtain ⟨before, after, hsplit⟩ := List.append_of_mem hr
  rw [hsplit] at hpairwise ⊢
  obtain ⟨-, hafter, hbetween⟩ := List.pairwise_append.1 hpairwise
  have hbefore : before.filter (fun r' => r'.key = r.key) = [] :=
    List.filter_eq_nil_iff.2 fun r' hr' => by simpa using hbetween r' hr' r List.mem_cons_self
  have hlater : after.filter (fun r' => r'.key = r.key) = [] :=
    List.filter_eq_nil_iff.2 fun r' hr' => by
      simpa using ((List.pairwise_cons.1 hafter).1 r' hr').symm
  rw [List.filter_append, hbefore, List.filter_cons_of_pos (by simp), hlater, List.nil_append]

/-- A state has as many records as it counts. -/
theorem length_records (state : DerivedState) : state.records.length = state.recordCount := by
  have hglobal : (state.recordsOf .global).length = globalRecordCount state.global := by
    cases hstate : state.global with
    | none => simp [recordsOf, hstate, globalRecordCount]
    | some g => cases g <;> simp [recordsOf, hstate, globalRecordCount, ofGlobal]
  have hfamilies : (state.recordsOf .addressFamily).length =
      state.families.toList.countP (·.2.isSome) := by
    cases h4 : state.families.ipv4 <;> cases h6 : state.families.ipv6 <;>
      simp [recordsOf, PerFamily.toList, Family.all, PerFamily.get, h4, h6]
  have hinterfaces : (state.recordsOf .interface).length = state.interfaces.size := by
    simp [recordsOf]
  have hgroups : (state.recordsOf .ecmp).length =
      state.groups.ipv4.size + state.groups.ipv6.size := by
    simp [recordsOf, PerFamily.toList, Family.all, PerFamily.get]
  have hrdma : (state.recordsOf .rdma).length = state.rdma.toList.length := by
    simp [recordsOf]
  rw [records_eq_flatMap]
  simp only [Scope.all, List.flatMap_cons, List.flatMap_nil, List.append_nil, List.length_append,
    hglobal, hfamilies, hinterfaces, hgroups, hrdma, recordCount]
  omega

/-- No record of a state is empty, so writing it never amounts to a removal. -/
theorem fields_ne_nil {state : DerivedState} {r : AppRecord} (hr : r ∈ state.records) :
    r.fields ≠ [] := by
  rw [records_eq_flatMap] at hr
  obtain ⟨scope, -, hr⟩ := List.mem_flatMap.1 hr
  cases scope with
  | global =>
    obtain ⟨g, -, hr⟩ := List.mem_flatMap.1 hr
    cases g with
    | disabled => simp_all [ofGlobal, single]
    | enabled families transport dualStack congestion =>
      simp only [ofGlobal, List.mem_cons, List.not_mem_nil, or_false] at hr
      rcases hr with rfl | rfl | rfl | rfl <;> simp [single]
  | addressFamily =>
    obtain ⟨⟨family, derived⟩, -, hr⟩ := List.mem_flatMap.1 hr
    obtain ⟨derived, -, rfl⟩ := List.mem_map.1 hr
    cases derived <;> simp [ofFamily]
  | interface =>
    obtain ⟨⟨name, derived⟩, -, rfl⟩ := List.mem_map.1 hr
    simp [ofInterface]
  | ecmp =>
    obtain ⟨⟨family, groups⟩, -, hr⟩ := List.mem_flatMap.1 hr
    obtain ⟨⟨name, derived⟩, -, rfl⟩ := List.mem_map.1 hr
    simp [ofGroup]
  | rdma =>
    obtain ⟨config, -, rfl⟩ := List.mem_map.1 hr
    simp [ofRdma, single]

end DerivedState

end DualStack
