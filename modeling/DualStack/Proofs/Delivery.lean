import DualStack.Manager.Delivery
import DualStack.Proofs.Records

/-!
# What a delivery leaves behind

The faults of a store do not change while a state is delivered, so they decide beforehand which
records are written and which messages go out. The records that fail leave their hashes as they
were, the others replace theirs, and since all keys are distinct no record of a state overwrites
another. A written interface is followed by its message; the channel may fail on its own, and
then the records stay.
-/

set_option autoImplicit false

namespace DualStack

/-! ## One record -/

namespace DerivedState

/-- The notification that is due behind a record once it is written. -/
def notificationOf? (state : DerivedState) (r : AppRecord) : Option Notification :=
  if r.scope = .interface then state.notifications[r.name]? else none

/-- Notifying in closed form: nothing is due, the channel fails, or the message is published. -/
theorem notify_eq (state : DerivedState) (channel : String) (r : AppRecord) (s : Store) :
    state.notify channel r s =
      match state.notificationOf? r with
      | none => (s, .notDue)
      | some n =>
        if s.fails channel then (s, .failed)
        else ({ s with published := s.published ++ [(channel, n.render)] }, .published) := by
  unfold notify notificationOf? Store.publish
  split
  · cases state.notifications[r.name]? with
    | none => rfl
    | some n =>
      simp only [Store.guarded_eq]
      cases s.fails channel <;> rfl
  · rfl

/-- The records that the faults of a store let through. -/
def accepted (s : Store) (records : List AppRecord) : List AppRecord :=
  records.filter fun r => !s.fails r.key

/-- The hashes that are written for records. -/
def entries (s : Store) (records : List AppRecord) : List (String × Hash) :=
  (accepted s records).map fun r => (r.key, r.fields.toHash)

/-- What is published for records, channel and message. -/
def messages (state : DerivedState) (channel : String) (s : Store) (records : List AppRecord) :
    List (String × String) :=
  if s.fails channel then []
  else ((accepted s records).filterMap state.notificationOf?).map fun n => (channel, n.render)

/-- What becomes of a record on a store with the faults of `s`. -/
def outcome (state : DerivedState) (channel : String) (s : Store) (r : AppRecord) : Delivery :=
  if s.fails r.key then .failed r.key (s.failure .del r.key)
  else .written r.key
    (match state.notificationOf? r with
    | none => .notDue
    | some _ => if s.fails channel then .failed else .published)

/-- The store after the delivery of records: what the faults of `s` let through is written and
published, and nothing else has changed. -/
def delivered (state : DerivedState) (channel : String) (records : List AppRecord) (s : Store) :
    Store :=
  { s with
    hashes := NameMap.insertAll s.hashes (entries s records)
    published := s.published ++ state.messages channel s records }

/-- A delivery leaves the faults of a store as they are. -/
theorem sameFaults_delivered (state : DerivedState) (channel : String) (records : List AppRecord)
    (s : Store) : Store.SameFaults s (state.delivered channel records s) :=
  ⟨rfl, rfl, rfl⟩

/-- Delivering one record in closed form: what the store becomes, and what becomes of the record. -/
theorem deliver_eq (state : DerivedState) (channel : String) {r : AppRecord} (hr : r.fields ≠ [])
    (s : Store) :
    state.deliver channel r s = (state.delivered channel [r] s, state.outcome channel s r) := by
  have hempty : r.fields.isEmpty = false := by simpa using hr
  unfold deliver delivered outcome entries messages accepted
  rw [Store.replace_eq]
  cases hfails : s.fails r.key with
  | true => simp [hfails, NameMap.insertAll]
  | false =>
    have hchannel : ∀ hashes, Store.fails { s with hashes := hashes } channel = s.fails channel :=
      fun _ => rfl
    simp only [Bool.false_eq_true, if_false, hempty, notify_eq, hchannel]
    cases hn : state.notificationOf? r with
    | none => simp [hfails, hn, NameMap.insertAll]
    | some n => cases hc : s.fails channel <;> simp [hfails, hn, NameMap.insertAll]

/-! ## All records -/

section

variable {s s' : Store} (hs : Store.SameFaults s s')
include hs

/-- Which records are accepted depends on the faults of a store alone. -/
theorem accepted_congr (records : List AppRecord) : accepted s' records = accepted s records := by
  unfold accepted
  simp only [hs.fails_eq]

/-- Which hashes are written depends on the faults of a store alone. -/
theorem entries_congr (records : List AppRecord) : entries s' records = entries s records := by
  unfold entries
  rw [accepted_congr hs]

/-- What is published depends on the faults of a store alone. -/
theorem messages_congr (state : DerivedState) (channel : String) (records : List AppRecord) :
    state.messages channel s' records = state.messages channel s records := by
  unfold messages
  rw [accepted_congr hs, hs.fails_eq]

/-- What becomes of a record depends on the faults of a store alone. -/
theorem outcome_congr (state : DerivedState) (channel : String) :
    state.outcome channel s' = state.outcome channel s := by
  funext r
  unfold outcome
  rw [hs.fails_eq, hs.fails_eq, hs.failure_eq]

end

/-- The hashes written for records in two parts are those of the first part and then those of the
second. -/
theorem entries_append (s : Store) (records records' : List AppRecord) :
    entries s (records ++ records') = entries s records ++ entries s records' := by
  simp only [entries, accepted, List.filter_append, List.map_append]

/-- The messages for records in two parts are those of the first part and then those of the
second. -/
theorem messages_append (state : DerivedState) (channel : String) (s : Store)
    (records records' : List AppRecord) :
    state.messages channel s (records ++ records') =
      state.messages channel s records ++ state.messages channel s records' := by
  unfold messages accepted
  split
  · rfl
  · simp only [List.filter_append, List.filterMap_append, List.map_append]

/-- Records in two parts may be delivered one part after the other. -/
theorem delivered_append (state : DerivedState) (channel : String)
    (records records' : List AppRecord) (s : Store) :
    state.delivered channel (records ++ records') s =
      state.delivered channel records' (state.delivered channel records s) := by
  have hs := state.sameFaults_delivered channel records s
  calc state.delivered channel (records ++ records') s
      = { s with
          hashes := NameMap.insertAll (NameMap.insertAll s.hashes (entries s records))
            (entries s records')
          published := s.published ++ state.messages channel s records ++
            state.messages channel s records' } := by
        unfold delivered
        rw [entries_append, messages_append, NameMap.insertAll_append, List.append_assoc]
    _ = state.delivered channel records' (state.delivered channel records s) := by
        rw [← entries_congr hs, ← messages_congr hs]
        rfl

/-- Delivering records in closed form, by induction on the records: earlier ones do not change the
faults that later ones meet. -/
theorem deliverAll_eq (state : DerivedState) (channel : String) {records : List AppRecord}
    (hrecords : ∀ r ∈ records, r.fields ≠ []) (s : Store) :
    state.deliverAll channel records s =
      (state.delivered channel records s, records.map (state.outcome channel s)) := by
  induction records generalizing s with
  | nil => simp [deliverAll, delivered, entries, messages, accepted, NameMap.insertAll]
  | cons r records ih =>
    -- the store behind the first record has the faults of `s`, which is all that the rest looks at
    have hs := state.sameFaults_delivered channel [r] s
    rw [deliverAll, deliver_eq state channel (hrecords r List.mem_cons_self)]
    simp only [ih fun r hr => hrecords r (List.mem_cons_of_mem _ hr)]
    rw [← delivered_append, outcome_congr hs]
    rfl

/-- Delivering a state in closed form, since none of its records is empty. -/
theorem apply_eq (state : DerivedState) (channel : String) (s : Store) :
    state.apply channel s =
      (state.delivered channel state.records s, ⟨state.records.map (state.outcome channel s)⟩) := by
  unfold apply
  rw [deliverAll_eq state channel fun r hr => fields_ne_nil hr]

/-! ## The report -/

section

variable (state : DerivedState) (channel : String) (s : Store) (records : List AppRecord)

/-- The errors of a report are those of the records whose keys fail, in order. -/
theorem errors_outcome :
    (ApplyReport.mk (records.map (state.outcome channel s))).errors =
      (records.filter fun r => s.fails r.key).map fun r =>
        ⟨r.key, .storeUnavailable (s.failure .del r.key)⟩ := by
  unfold ApplyReport.errors
  induction records with
  | nil => rfl
  | cons r records ih =>
    cases hfails : s.fails r.key <;> simp_all [outcome]

/-- The number of written records is that of the records that are accepted. -/
theorem applied_outcome :
    (ApplyReport.mk (records.map (state.outcome channel s))).applied =
      (accepted s records).length := by
  unfold ApplyReport.applied accepted
  induction records with
  | nil => rfl
  | cons r records ih =>
    cases hfails : s.fails r.key <;> simp_all [outcome]

/-- A count of outcomes that depends only on what became of a due notification is the number of
notifications due, or nothing. -/
theorem countP_outcome {counts : Delivery → Bool} (counted : Bool)
    (hfailed : ∀ key failure, counts (.failed key failure) = false)
    (hnotDue : ∀ key, counts (.written key .notDue) = false)
    (hdue : ∀ key, counts (.written key (if s.fails channel then .failed else .published)) =
      counted) :
    (records.map (state.outcome channel s)).countP counts =
      if counted then ((accepted s records).filterMap state.notificationOf?).length else 0 := by
  unfold accepted
  induction records with
  | nil => simp
  | cons r records ih =>
    rw [List.map_cons, List.countP_cons, ih]
    unfold outcome
    cases hfails : s.fails r.key with
    | true => simp [hfails, hfailed]
    | false =>
      cases hn : state.notificationOf? r with
      | none => simp [hfails, hn, hnotDue]
      | some n => cases counted <;> simp [hfails, hn, hdue]

/-- As many messages are published as there are notifications due behind accepted records, or none
if the channel fails. -/
theorem published_outcome :
    (ApplyReport.mk (records.map (state.outcome channel s))).published =
      if s.fails channel then 0
      else ((accepted s records).filterMap state.notificationOf?).length := by
  unfold ApplyReport.published
  rw [countP_outcome state channel s records (!s.fails channel) (fun _ _ => rfl) (fun _ => rfl)
    fun _ => by cases s.fails channel <;> rfl]
  cases s.fails channel <;> rfl

/-- Every due message counts as failed if the channel fails, and none does otherwise. -/
theorem publishFailures_outcome :
    (ApplyReport.mk (records.map (state.outcome channel s))).publishFailures =
      if s.fails channel then ((accepted s records).filterMap state.notificationOf?).length
      else 0 := by
  unfold ApplyReport.publishFailures
  exact countP_outcome state channel s records (s.fails channel) (fun _ _ => rfl) (fun _ => rfl)
    fun _ => by cases s.fails channel <;> rfl

end

/-! ## The contract of a delivery -/

/-- The notifications behind the interface records that a store accepts, by interface. -/
def dueNotifications (state : DerivedState) (s : Store) : List Notification :=
  (state.interfaces.keys.filter fun name => !s.fails (AppRecord.interfaceKey name)).filterMap
    fun name => state.notifications[name]?

/-- The notifications behind accepted records are those of the interfaces whose keys do not fail, in
the order of their names. -/
theorem filterMap_notificationOf? (state : DerivedState) (s : Store) :
    (accepted s state.records).filterMap state.notificationOf? = state.dueNotifications s := by
  have hscope : ∀ scope : Scope,
      (accepted s (state.recordsOf scope)).filterMap state.notificationOf? =
        if scope = .interface then state.dueNotifications s else [] := by
    intro scope
    split
    · next heq =>
      subst heq
      unfold accepted recordsOf dueNotifications
      rw [← Std.ExtTreeMap.map_fst_toList_eq_keys, List.filter_map, List.filter_map,
        List.filterMap_map, List.filterMap_map]
      rfl
    · next hne =>
      refine List.filterMap_eq_nil_iff.2 fun r hr => ?_
      have hr' := (scope_of_mem_recordsOf (List.mem_filter.1 hr).1).1
      unfold notificationOf?
      rw [if_neg (by rw [hr']; exact hne)]
  have hflat : accepted s state.records =
      Scope.all.flatMap fun scope => accepted s (state.recordsOf scope) := by
    unfold accepted
    rw [records_eq_flatMap, List.filter_flatMap]
  rw [hflat, List.filterMap_flatMap]
  simp only [hscope]
  simp [Scope.all]

/-- The hashes that are written for a state have distinct keys. -/
theorem pairwise_entries (s : Store) (state : DerivedState) :
    (entries s state.records).Pairwise fun a b => a.1 ≠ b.1 :=
  List.pairwise_map.2 (state.pairwise_records.sublist List.filter_sublist)

/-- A hash is written exactly for a record whose key does not fail, and it is that of its fields. -/
theorem mem_entries {s : Store} {records : List AppRecord} {pair : String × Hash} :
    pair ∈ entries s records ↔
      ∃ r ∈ records, s.fails r.key = false ∧ pair = (r.key, r.fields.toHash) := by
  unfold entries accepted
  simp only [List.mem_map, List.mem_filter, Bool.not_eq_true', and_assoc, eq_comm (b := pair)]

/-- A record whose key does not fail is found under its key. -/
theorem getElem?_delivered_of_mem (state : DerivedState) (channel : String) {s : Store}
    {r : AppRecord} (hr : r ∈ state.records) (hfails : s.fails r.key = false) :
    (state.delivered channel state.records s).hashes[r.key]? = some r.fields.toHash :=
  NameMap.getElem?_insertAll_of_mem (state.pairwise_entries s) (mem_entries.2 ⟨r, hr, hfails, rfl⟩)

/-- A key keeps its hash unless a record is written under it. -/
theorem getElem?_delivered_of_notMem (state : DerivedState) (channel : String) {s : Store}
    {records : List AppRecord} {key : String}
    (h : ∀ r ∈ records, r.key = key → s.fails key = true) :
    (state.delivered channel records s).hashes[key]? = s.hashes[key]? := by
  refine NameMap.getElem?_insertAll_of_forall_ne fun pair hpair hkey => ?_
  obtain ⟨r, hr, hfails, rfl⟩ := mem_entries.1 hpair
  simp only at hkey
  rw [hkey, h r hr hkey] at hfails
  exact Bool.noConfusion hfails

/-- What a delivery does, whatever fails: a record whose key does not fail replaces its hash, one
whose key fails is reported once and leaves its hash alone, and no other key is touched. The
notifications of the interfaces that were written go out in order, or none does if the channel
fails, and that has no effect on the records. Records and notifications are counted without a
rest, and the faults of the store stay as they are. -/
theorem apply_under_faults (state : DerivedState) (channel : String) (s : Store) :
    let after := (state.apply channel s).1
    let report := (state.apply channel s).2
    (∀ r ∈ state.records, s.fails r.key = false →
      after.hashes[r.key]? = some r.fields.toHash) ∧
    (∀ r ∈ state.records, s.fails r.key = true → after.hashes[r.key]? = s.hashes[r.key]?) ∧
    (∀ key, key ∉ state.records.map AppRecord.key → after.hashes[key]? = s.hashes[key]?) ∧
    (state.records.map AppRecord.key).Nodup ∧
    report.errors = ((state.records.filter fun r => s.fails r.key).map fun r =>
      ⟨r.key, .storeUnavailable (s.failure .del r.key)⟩) ∧
    report.applied + report.errors.length = state.records.length ∧
    state.records.length = state.recordCount ∧
    after.published = s.published ++ (if s.fails channel then []
      else (state.dueNotifications s).map fun n => (channel, n.render)) ∧
    report.published + report.publishFailures = (state.dueNotifications s).length ∧
    report.published = (if s.fails channel then 0 else (state.dueNotifications s).length) ∧
    Store.SameFaults s after := by
  intro after report
  have happly : state.apply channel s = (state.delivered channel state.records s,
      ⟨state.records.map (state.outcome channel s)⟩) := state.apply_eq channel s
  have hafter : after = state.delivered channel state.records s := congrArg Prod.fst happly
  have hreport : report = ⟨state.records.map (state.outcome channel s)⟩ :=
    congrArg Prod.snd happly
  rw [hafter, hreport, errors_outcome, applied_outcome, published_outcome,
    publishFailures_outcome, filterMap_notificationOf?]
  refine ⟨?_, ?_, ?_, ?_, rfl, ?_, state.length_records, ?_, ?_, rfl,
    state.sameFaults_delivered channel _ s⟩
  · intro r hr hfails
    exact state.getElem?_delivered_of_mem channel hr hfails
  · intro r _ hfails
    exact state.getElem?_delivered_of_notMem channel fun _ _ _ => hfails
  · intro key hkey
    refine state.getElem?_delivered_of_notMem channel fun r hr heq => ?_
    exact absurd (List.mem_map.2 ⟨r, hr, heq⟩) hkey
  · exact List.pairwise_map.2 state.pairwise_records
  -- every record either is accepted or has an error
  · have hcount := List.length_eq_countP_add_countP (l := state.records) fun r => s.fails r.key
    simp only [decide_not, Bool.decide_eq_true] at hcount
    rw [List.length_map, accepted, ← List.countP_eq_length_filter,
      ← List.countP_eq_length_filter, Nat.add_comm]
    exact hcount.symm
  · show s.published ++ state.messages channel s state.records = _
    rw [messages, filterMap_notificationOf?]
  · split <;> simp

end DerivedState

end DualStack
