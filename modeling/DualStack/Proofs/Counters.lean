import DualStack.Manager.Statistics
import DualStack.Proofs.FieldTexts
import DualStack.Proofs.ReadBack
import DualStack.Proofs.Session
import DualStack.Proofs.Tokens

/-!
# What the counters of an interface are

The counters of an interface stand in two hashes, one for each family, and nothing else is looked
at: they can be read exactly if neither of the two keys fails. A counter whose text is a number of
64 bits, with blanks around it, has the value of that number. Without such a text it is zero, and
the other counters are what they would be anyway.
-/

set_option autoImplicit false

namespace DualStack

namespace Statistics

/-! ## The value of a counter -/

/-- A counter of a family. -/
inductive Counter where
  | packetsSprayed
  | activePaths
  | connections
deriving DecidableEq, Repr

namespace Counter

/-- The field of the state database that a counter is in. -/
def field : Counter → String
  | packetsSprayed => "packets_sprayed"
  | activePaths => "active_paths"
  | connections => "active_connections"

/-- The value of a counter among those of a family. -/
def value (counters : FamilyCounters) : Counter → UInt64
  | packetsSprayed => counters.packetsSprayed
  | activePaths => counters.activePaths
  | connections => counters.connections

end Counter

/-- There is a text, and between its blanks it is a number below `2 ^ 64`. -/
def IsCount (text : Option String) (n : Nat) : Prop :=
  ∃ whole core, text = some whole ∧ Text.IsCore whole core ∧ Text.IsNumeral core.toList n ∧
    n < UInt64.size

/-- A count is below the limit of 64 bits. -/
theorem IsCount.lt {text : Option String} {n : Nat} (h : IsCount text n) : n < UInt64.size := by
  obtain ⟨whole, core, -, -, -, hlt⟩ := h
  exact hlt

/-- The count of a text is the number that the reader takes from it. -/
theorem isCount_iff {text : Option String} {n : UInt64} :
    IsCount text n.toNat ↔ (text.bind fun whole => Text.uint64? (Text.trim whole)) = some n := by
  rw [Option.bind_eq_some_iff]
  constructor
  · rintro ⟨whole, core, rfl, hcore, hnumeral, -⟩
    rw [Text.isCore_iff] at hcore
    exact ⟨whole, rfl, Text.uint64?_eq_some_iff.2 (hcore ▸ hnumeral)⟩
  · rintro ⟨whole, rfl, hread⟩
    exact ⟨whole, _, rfl, Text.isCore_iff.2 rfl, Text.uint64?_eq_some_iff.1 hread, n.toNat_lt_size⟩

/-- What a counter counts, from its text: a number, or zero if the text is none. -/
def Counts (text : Option String) (n : Nat) : Prop :=
  IsCount text n ∨ (∀ m, ¬ IsCount text m) ∧ n = 0

/-- The reader of a counter gives what its text counts. -/
theorem counts_counter (fields : Fields) (field : String) :
    Counts (fields.value? field) (counter fields field).1.toNat := by
  let read := (fields.value? field).bind fun whole => Text.uint64? (Text.trim whole)
  have hcounter : (counter fields field).1 = read.getD 0 := by
    unfold counter
    cases htext : fields.value? field with
    | none => simp [read, htext]
    | some whole => cases hnumber : Text.uint64? (Text.trim whole) <;> simp [read, htext, hnumber]
  rw [hcounter]
  cases hread : read with
  | some n => exact .inl (isCount_iff.2 hread)
  | none =>
    refine .inr ⟨fun m hm => ?_, rfl⟩
    have hword : IsCount (fields.value? field) (UInt64.ofNat m).toNat := by
      rwa [UInt64.toNat_ofNat_of_lt' hm.lt]
    cases hread.symm.trans (isCount_iff.1 hword)

/-- A text counts as one number. -/
theorem Counts.unique {text : Option String} {m n : Nat} (hm : Counts text m)
    (hn : Counts text n) : m = n := by
  have hone : IsCount text m → IsCount text n → m = n := by
    rintro ⟨whole, core, rfl, hcore, hnumeral, -⟩ ⟨_, core', hwhole, hcore', hnumeral', -⟩
    cases hwhole
    rw [Text.isCore_iff] at hcore hcore'
    rw [hcore] at hnumeral
    rw [hcore'] at hnumeral'
    exact hnumeral.unique hnumeral'
  rcases hm with hm | ⟨hnone, rfl⟩
  · rcases hn with hn | ⟨hnone, -⟩
    · exact hone hm hn
    · exact absurd hm (hnone m)
  · rcases hn with hn | ⟨-, rfl⟩
    · exact absurd hn (hnone n)
    · rfl

/-- Each counter of a family is read from its own field. -/
theorem value_countersOf (fields : Fields) (c : Counter) :
    c.value (countersOf fields).1 = (counter fields c.field).1 := by
  cases c <;> rfl

/-! ## The hashes -/

/-- The key of the counters of an interface for a family. -/
def counterKey : Family → String → String
  | .ipv4, interface => "UE_INTERFACE_STATS_V4:" ++ interface
  | .ipv6, interface => "UE_INTERFACE_STATS_V6:" ++ interface

/-- The key of the counters is that of the schema for the family. -/
theorem key_eq_counterKey (family : Family) (interface : String) :
    key family interface = counterKey family interface := by
  have h4 : Schema.countersV4 ++ ":" = "UE_INTERFACE_STATS_V4:" := by decide
  have h6 : Schema.countersV6 ++ ":" = "UE_INTERFACE_STATS_V6:" := by decide
  cases family with
  | ipv4 => exact congrArg (· ++ interface) h4
  | ipv6 => exact congrArg (· ++ interface) h6

/-- The text of a counter of an interface, if there is one. -/
def counterText? (s : Store) (interface : String) (family : Family) (c : Counter) :
    Option String :=
  s.hashes[counterKey family interface]?.bind fun hash => hash[c.field]?

/-- The fields with the counters of an interface; none if there is no hash of them. -/
def counterFields (s : Store) (interface : String) (family : Family) : Fields :=
  (s.hashes[counterKey family interface]?.getD ∅).toList

/-- The text of a counter is the value of its field in the hash of its family. -/
theorem value?_counterFields (s : Store) (interface : String) (family : Family) (c : Counter) :
    (counterFields s interface family).value? c.field = counterText? s interface family c := by
  unfold counterFields counterText?
  rw [Fields.value?_toList]
  cases s.hashes[counterKey family interface]? with
  | none => exact Std.ExtTreeMap.getElem?_empty
  | some hash => rfl

/-! ## Reading -/

/-- Reading in closed form: the two keys are looked at in order, and the first that fails decides;
otherwise the counters come from the two hashes. -/
theorem read_eq (s : Store) (interface : String) :
    read s interface =
      if s.fails (counterKey .ipv4 interface) then
        .error (.storeUnavailable (s.failure .hgetall (counterKey .ipv4 interface)))
      else if s.fails (counterKey .ipv6 interface) then
        .error (.storeUnavailable (s.failure .hgetall (counterKey .ipv6 interface)))
      else
        .ok (⟨(countersOf (counterFields s interface .ipv4)).1,
            (countersOf (counterFields s interface .ipv6)).1⟩,
          (countersOf (counterFields s interface .ipv4)).2 ++
            (countersOf (counterFields s interface .ipv6)).2) := by
  unfold read Store.hgetall
  simp only [key_eq_counterKey, Store.guarded_eq]
  cases s.fails (counterKey .ipv4 interface) with
  | true => rfl
  | false => cases s.fails (counterKey .ipv6 interface) <;> rfl

variable {s s' : Store} {interface : String}

/-- Counters cannot be read only because one of the two keys fails, and the error tells of this
key. -/
theorem read_eq_error {error : PipelineError} (h : read s interface = .error error) :
    ∃ family, s.fails (counterKey family interface) = true ∧
      error = .storeUnavailable (s.failure .hgetall (counterKey family interface)) := by
  rw [read_eq] at h
  split at h
  · next h4 =>
    cases h
    exact ⟨.ipv4, h4, rfl⟩
  · split at h
    · next h6 =>
      cases h
      exact ⟨.ipv6, h6, rfl⟩
    · cases h

/-- Counters cannot be read exactly if one of the two keys fails. -/
theorem exists_read_eq_error_iff : (∃ error, read s interface = .error error) ↔
    ∃ family, s.fails (counterKey family interface) = true := by
  constructor
  · rintro ⟨error, herror⟩
    obtain ⟨family, hfails, -⟩ := read_eq_error herror
    exact ⟨family, hfails⟩
  · rintro ⟨family, hfails⟩
    rw [read_eq]
    split
    · exact ⟨_, rfl⟩
    · next h4 =>
      cases family with
      | ipv4 => exact absurd hfails h4
      | ipv6 => exact ⟨_, if_pos hfails⟩

/-- Every counter that is read counts what its own text says. -/
theorem counts_of_read {counters : InterfaceCounters} {log : List LogEvent}
    (h : read s interface = .ok (counters, log)) (family : Family) (c : Counter) :
    Counts (counterText? s interface family c) (c.value (counters.get family)).toNat := by
  have hcounters : counters.get family = (countersOf (counterFields s interface family)).1 := by
    rw [read_eq] at h
    split at h
    · cases h
    · split at h
      · cases h
      · cases h
        cases family <;> rfl
  rw [hcounters, value_countersOf, ← value?_counterFields]
  exact counts_counter _ _

/-- Nothing but the two hashes and the faults in their way has a part in what is read. -/
theorem read_congr (hunavailable : s'.unavailable = s.unavailable)
    (hfailing : ∀ family, counterKey family interface ∈ s'.failing ↔
      counterKey family interface ∈ s.failing)
    (hhashes : ∀ family, s'.hashes[counterKey family interface]? =
      s.hashes[counterKey family interface]?) : read s' interface = read s interface := by
  have hfails : ∀ family, s'.fails (counterKey family interface) =
      s.fails (counterKey family interface) := by
    intro family
    rw [Bool.eq_iff_iff, Store.fails_iff, Store.fails_iff, hunavailable, hfailing]
  have hfailure : ∀ key, s'.failure .hgetall key = s.failure .hgetall key := by
    intro key
    unfold Store.failure
    rw [hunavailable]
  have hfields : ∀ family,
      counterFields s' interface family = counterFields s interface family := by
    intro family
    unfold counterFields
    rw [hhashes]
  simp only [read_eq, hfails, hfailure, hfields]

/-- What is read of the counters of an interface. It cannot be read exactly if the state database is
unavailable or one of the two keys is a failing key. Otherwise each of the six counters is the
number that its own text spells, or zero if its text spells none below the limit or is missing; it
is the same whatever the texts of the others are. Of the database only the two hashes and the faults
in their way have a part in the answer, and asking for it leaves everything as it was. -/
theorem counted_exactly (s : Store) (interface : String) :
    ((∃ error, read s interface = .error error) ↔
      s.unavailable = true ∨ "UE_INTERFACE_STATS_V4:" ++ interface ∈ s.failing ∨
        "UE_INTERFACE_STATS_V6:" ++ interface ∈ s.failing) ∧
    (∀ error, read s interface = .error error → ∃ failure, error = .storeUnavailable failure) ∧
    (∀ counters log, read s interface = .ok (counters, log) → ∀ family c,
      Counts (counterText? s interface family c) (c.value (counters.get family)).toNat ∧
      ∀ s' counters' log', read s' interface = .ok (counters', log') →
        counterText? s' interface family c = counterText? s interface family c →
        c.value (counters'.get family) = c.value (counters.get family)) ∧
    (∀ s' : Store, s'.unavailable = s.unavailable →
      (∀ family, counterKey family interface ∈ s'.failing ↔
        counterKey family interface ∈ s.failing) →
      (∀ family, s'.hashes[counterKey family interface]? =
        s.hashes[counterKey family interface]?) →
      read s' interface = read s interface) ∧
    ∀ session : Session, session.databases.state = s →
      session.step (.statistics interface) =
        (session, .counters ((read s interface).map Prod.fst)) := by
  refine ⟨?_, ?_, ?_, fun s' => read_congr, ?_⟩
  · rw [exists_read_eq_error_iff]
    simp only [Store.fails_iff]
    constructor
    · rintro ⟨family, hunavailable | hfailing⟩
      · exact .inl hunavailable
      · cases family with
        | ipv4 => exact .inr (.inl hfailing)
        | ipv6 => exact .inr (.inr hfailing)
    · rintro (hunavailable | h4 | h6)
      · exact ⟨.ipv4, .inl hunavailable⟩
      · exact ⟨.ipv4, .inr h4⟩
      · exact ⟨.ipv6, .inr h6⟩
  · intro error herror
    obtain ⟨family, -, herror⟩ := read_eq_error herror
    exact ⟨_, herror⟩
  · intro counters log hread family c
    refine ⟨counts_of_read hread family c, fun s' counters' log' hread' htext => ?_⟩
    have hcounts := counts_of_read hread' family c
    rw [htext] at hcounts
    exact UInt64.toNat_inj.1 (hcounts.unique (counts_of_read hread family c))
  · rintro session rfl
    rfl

end Statistics

end DualStack
