import DualStack.Manager.Detection
import DualStack.Proofs.Loading
import DualStack.Proofs.NetworkSyntax

/-!
# Which capabilities are detected

The address table has a key for each address of an interface: the name of the table, the interface
and the entry, with bars between them. An interface is given a family exactly if one of the keys
behind its own lead has an entry of that family. The lead ends in a bar, so it is not the start of
the keys of another interface, however alike the names begin; what is stored for other interfaces or
in other tables has therefore no part in the answer, and more keys never take a family away.
-/

set_option autoImplicit false

namespace DualStack

/-- The reader of addresses takes exactly the texts of an address for this address. -/
theorem Address.parse?_eq_some_iff {text : String} {address : Address} :
    Address.parse? text = some address ↔ address.IsText text := by
  unfold Address.parse? Address.IsText
  cases hread : V4.parse? text.toList with
  | some bits =>
    have hother : ∀ bits', V6.parse? text.toList ≠ some bits' := fun bits' h =>
      V4.colon_notMem_of_parse? hread (V6.colon_mem_of_parse? h)
    cases address <;> simp [hother]
  | none => cases address <;> simp

/-! ## Entries -/

namespace Detection

/-- The part of an entry in front of its first slash: all of it if it has none. -/
inductive Front (entry : String) : String → Prop where
  | whole (h : '/' ∉ entry.toList) : Front entry entry
  | beforeSlash {front rest : String} (h : entry = front ++ "/" ++ rest)
    (hfirst : '/' ∉ front.toList) : Front entry front

/-- An entry is of a family if the part in front of its first slash is the text of an address of
it. -/
def IsEntryOf (family : Family) (entry : String) : Prop :=
  ∃ front, Front entry front ∧ ∃ address : Address, address.IsText front ∧ address.family = family

/-- The front of an entry is what a cut at the first slash leaves in front, or all of the entry. -/
theorem front_iff {entry front : String} :
    Front entry front ↔ ((Text.cutFirst? '/' entry).map (·.1)).getD entry = front := by
  have hnone : Text.cutFirst? '/' entry = none ↔ '/' ∉ entry.toList := by
    rw [Text.cutFirst?, Option.map_eq_none_iff, Text.cutFirst_eq_none_iff]
  constructor
  · rintro (hwhole | @⟨_, rest, rfl, hfirst⟩)
    · rw [hnone.2 hwhole]
      rfl
    · have hcut : Text.cutFirst? '/' (front ++ "/" ++ rest) = some (front, rest) :=
        Text.cutFirst?_eq_some_mk_iff.2 ⟨by simp, hfirst⟩
      rw [hcut]
      rfl
  · rintro rfl
    cases hcut : Text.cutFirst? '/' entry with
    | none => exact .whole (hnone.1 hcut)
    | some parts =>
      obtain ⟨hentry, hfirst⟩ := Text.cutFirst?_eq_some_mk_iff.1 hcut
      have htext : entry = parts.1 ++ "/" ++ parts.2 := by
        rw [← String.toList_inj, hentry]
        simp
      exact .beforeSlash htext hfirst

/-- An entry is taken for one of a family exactly if its front is the text of an address of this
family. -/
theorem familyOf?_eq_some_iff {entry : String} {family : Family} :
    familyOf? entry = some family ↔ IsEntryOf family entry := by
  unfold familyOf? IsEntryOf
  simp only [front_iff, Option.map_eq_some_iff, Address.parse?_eq_some_iff]
  simp

/-- The families of the keys of a store behind a lead are those of the entries behind it. -/
theorem get_familiesOf_eq_true_iff {s : Store} {lead : String} {family : Family} :
    (familiesOf lead (s.hashes.keys.filter (Store.keyMatches (lead ++ "*")))).get family = true ↔
      ∃ entry, lead ++ entry ∈ s.hashes ∧ IsEntryOf family entry := by
  unfold familiesOf
  simp only [FamilySet.get_ofList, List.contains_iff_mem, List.mem_filterMap, List.mem_filter,
    Std.ExtTreeMap.mem_keys, Store.keyMatches_lead, Option.bind_eq_some_iff,
    familyOf?_eq_some_iff]
  constructor
  · rintro ⟨key, ⟨hkey, -⟩, entry, hrest, hentry⟩
    refine ⟨entry, ?_, hentry⟩
    rw [Text.rest?_eq_some_iff, ← String.toList_append, String.toList_inj] at hrest
    rwa [← hrest]
  · rintro ⟨entry, hkey, hentry⟩
    have hrest : Text.rest? lead (lead ++ entry) = some entry :=
      Text.rest?_eq_some_iff.2 (String.toList_append ..)
    refine ⟨_, ⟨hkey, ?_⟩, entry, hrest, hentry⟩
    rw [← Text.isSome_rest?, hrest]
    rfl

/-! ## One detection -/

/-- Where the keys of an interface start depends on the database alone. -/
theorem addressLead_congr {s s' : Store} (h : s.SameFaults s') (interface : String) :
    addressLead s' interface = addressLead s interface := by
  unfold addressLead
  rw [h.database]

/-- A detection fails exactly if the pattern of its keys does; otherwise it has looked at every key
that matches the pattern. -/
theorem tryDetect_eq (s : Store) (interface : String) :
    tryDetect s interface =
      if s.fails (addressLead s interface ++ "*") then
        .error (.unreachable Schema.addressTable
          (s.failure .keys (addressLead s interface ++ "*")).message)
      else .ok (familiesOf (addressLead s interface)
        (s.hashes.keys.filter (Store.keyMatches (addressLead s interface ++ "*")))) := by
  simp only [tryDetect, Store.keys, Store.guarded_eq]
  cases s.fails (addressLead s interface ++ "*") <;> rfl

variable {s s' : Store} {interface : String}

/-- An interface is given a family if its keys can be listed and one of them has an entry of it. -/
theorem get_detect_eq_true_iff {family : Family} :
    (detect s interface).1.get family = true ↔
      s.fails (addressLead s interface ++ "*") = false ∧
        ∃ entry, addressLead s interface ++ entry ∈ s.hashes ∧ IsEntryOf family entry := by
  rw [← get_familiesOf_eq_true_iff]
  unfold detect
  rw [tryDetect_eq]
  cases s.fails (addressLead s interface ++ "*") with
  | true => cases family <;> simp [FamilySet.empty, PerFamily.get]
  | false => simp

/-- A detection depends on the faults, and on which keys there are behind the lead. -/
theorem tryDetect_congr (hfaults : s.SameFaults s')
    (h : ∀ entry, addressLead s interface ++ entry ∈ s'.hashes ↔
      addressLead s interface ++ entry ∈ s.hashes) :
    tryDetect s' interface = tryDetect s interface := by
  let pattern := addressLead s interface ++ "*"
  have hfamilies : familiesOf (addressLead s interface)
        (s'.hashes.keys.filter (Store.keyMatches pattern)) =
      familiesOf (addressLead s interface)
        (s.hashes.keys.filter (Store.keyMatches pattern)) := by
    refine PerFamily.ext_get fun family => ?_
    rw [Bool.eq_iff_iff, get_familiesOf_eq_true_iff, get_familiesOf_eq_true_iff]
    simp only [h]
  rw [tryDetect_eq, tryDetect_eq, addressLead_congr hfaults, hfaults.fails_eq,
    hfaults.failure_eq, hfamilies]

/-! ## Keys of the address table -/

/-- The store key of an entry of an interface. -/
def addressKey (interface entry : String) : String :=
  s!"INTERFACE|{interface}|{entry}"

/-- The key of an entry is the key of a record whose name is again a key, of interface and entry. -/
theorem addressKey_eq_recordKey (interface entry : String) :
    addressKey interface entry =
      Database.config.recordKey Schema.addressTable
        (Database.config.recordKey interface entry) :=
  Database.recordKey_assoc .config Schema.addressTable interface entry

/-- The keys of an interface start with its lead and go on with the entry. -/
theorem addressLead_append {s : Store} (hs : s.database = .config) (interface entry : String) :
    addressLead s interface ++ entry = addressKey interface entry := by
  rw [addressKey_eq_recordKey, ← String.toList_inj, String.toList_append, addressLead, hs,
    Database.toList_recordKey, Database.toList_recordKey, Database.toList_recordKey]
  show _ ++ '|' :: (interface ++ "|").toList ++ entry.toList = _
  simp [Database.separator]

/-- Interfaces without a bar in their names have no key in common. -/
theorem addressKey_ne {interface other : String} (hinterface : '|' ∉ interface.toList)
    (hother : '|' ∉ other.toList) (hne : interface ≠ other) (entry entry' : String) :
    addressKey interface entry ≠ addressKey other entry' := by
  rw [addressKey_eq_recordKey, addressKey_eq_recordKey, ne_eq, Database.recordKey_inj,
    Database.recordKey_eq_recordKey_iff hinterface hother]
  exact fun h => hne h.1

section

variable (hs : s.database = .config)
include hs

/-- Capabilities cannot be detected exactly if the store is unavailable or the pattern of the keys
is failing. -/
theorem exists_tryDetect_eq_error_iff : (∃ error, tryDetect s interface = .error error) ↔
    s.unavailable = true ∨ addressKey interface "*" ∈ s.failing := by
  rw [tryDetect_eq, addressLead_append hs, ← Store.fails_iff]
  cases s.fails (addressKey interface "*") <;> simp

/-- What is stored for other interfaces and in other tables has no part in a detection. -/
theorem tryDetect_of_others {other : String} (hinterface : '|' ∉ interface.toList)
    (hother : '|' ∉ other.toList) (hne : interface ≠ other) (hfaults : s.SameFaults s')
    (h : ∀ key, s'.hashes[key]? ≠ s.hashes[key]? → (∃ entry, key = addressKey other entry) ∨
      ∀ record, key ≠ Database.config.recordKey Schema.addressTable record) :
    tryDetect s' interface = tryDetect s interface := by
  refine tryDetect_congr hfaults fun entry => ?_
  rw [addressLead_append hs, Std.ExtTreeMap.mem_iff_isSome_getElem?,
    Std.ExtTreeMap.mem_iff_isSome_getElem?]
  by_contra hkey
  have hchanged : s'.hashes[addressKey interface entry]? ≠ s.hashes[addressKey interface entry]? :=
    fun heq => hkey (by rw [heq])
  rcases h _ hchanged with ⟨entry', hentry⟩ | hrecord
  · exact addressKey_ne hinterface hother hne entry entry' hentry
  · exact hrecord _ (addressKey_eq_recordKey interface entry)

end

/-- What a detection answers. It fails exactly if the configuration database is unavailable or the
pattern of the keys of the interface is a failing key, always with the address table as what could
not be reached, and then no capability is reported. Otherwise the capabilities are the families of
the entries that stand behind the name of the interface in the address table. They do not change
with the keys of another interface or with keys that are not of this table, which are all keys of
tables with another name; and they do not get fewer when keys are added. -/
theorem detected_exactly {s : Store} (hs : s.database = .config) (interface : String) :
    ((∃ error, tryDetect s interface = .error error) ↔
      s.unavailable = true ∨ addressKey interface "*" ∈ s.failing) ∧
    (∀ error, tryDetect s interface = .error error →
      (∃ message, error = .unreachable "INTERFACE" message) ∧
        (detect s interface).1 = ⟨false, false⟩) ∧
    (∀ families, tryDetect s interface = .ok families →
      (detect s interface).1 = families ∧
        ∀ family, families.get family = true ↔
          ∃ entry, addressKey interface entry ∈ s.hashes ∧ IsEntryOf family entry) ∧
    (∀ other, '|' ∉ interface.toList → '|' ∉ other.toList → interface ≠ other →
      ∀ s', s.SameFaults s' →
        (∀ key, s'.hashes[key]? ≠ s.hashes[key]? → (∃ entry, key = addressKey other entry) ∨
          ∀ record, key ≠ Database.config.recordKey "INTERFACE" record) →
        tryDetect s' interface = tryDetect s interface ∧
          detect s' interface = detect s interface) ∧
    (∀ table, '|' ∉ table.toList → table ≠ "INTERFACE" → ∀ record record',
      Database.config.recordKey table record ≠ Database.config.recordKey "INTERFACE" record') ∧
    (∀ s', s.SameFaults s' → (∀ key ∈ s.hashes, key ∈ s'.hashes) → ∀ family,
      (detect s interface).1.get family = true → (detect s' interface).1.get family = true) := by
  refine ⟨exists_tryDetect_eq_error_iff hs, ?_, ?_, ?_, ?_, ?_⟩
  · intro error herror
    refine ⟨?_, by rw [detect, herror]; rfl⟩
    rw [tryDetect_eq] at herror
    split at herror
    · cases herror
      exact ⟨_, rfl⟩
    · cases herror
  · intro families hfamilies
    have hdetect : (detect s interface).1 = families := by rw [detect, hfamilies]
    refine ⟨hdetect, fun family => ?_⟩
    have hfails : s.fails (addressLead s interface ++ "*") = false := by
      rw [tryDetect_eq] at hfamilies
      split at hfamilies
      · cases hfamilies
      · next hfails => exact eq_false_of_ne_true hfails
    rw [← hdetect, get_detect_eq_true_iff, and_iff_right hfails]
    simp only [addressLead_append hs]
  · intro other hinterface hother hne s' hfaults hchanges
    have hsame := tryDetect_of_others hs hinterface hother hne hfaults hchanges
    exact ⟨hsame, by rw [detect, detect, hsame]⟩
  · intro table hbar htable record record' heq
    exact htable ((Database.recordKey_eq_recordKey_iff hbar (by decide)).1 heq).1
  · intro s' hfaults hmore family hdetected
    rw [get_detect_eq_true_iff] at hdetected ⊢
    obtain ⟨hfails, entry, hkey, hentry⟩ := hdetected
    rw [addressLead_congr hfaults, hfaults.fails_eq]
    exact ⟨hfails, entry, hmore _ hkey, hentry⟩

/-- The entry of an interface whose name goes on with a digit, and an entry with a colon that is no
address, do not count; without the former the answer is the same. An interface whose pattern fails
is reported without capabilities. -/
theorem detected_beside_longer_name :
    let record : Hash := Fields.toHash [("NULL", "NULL")]
    let s : Store := { Store.empty .config with
      hashes := NameMap.ofPairs [("INTERFACE|Ethernet4|10.0.0.1/31", record),
        ("INTERFACE|Ethernet4|vrf:red", record), ("INTERFACE|Ethernet40|fc00::1/126", record),
        ("INTERFACE|Ethernet8|10.0.0.3/31", record)]
      failing := (∅ : NameSet).insert "INTERFACE|Ethernet8|*" }
    let s' : Store := { s with hashes := s.hashes.erase "INTERFACE|Ethernet40|fc00::1/126" }
    s.database = .config ∧ tryDetect s "Ethernet4" = .ok ⟨true, false⟩ ∧
      detect s' "Ethernet4" = detect s "Ethernet4" ∧
      (∃ error, tryDetect s "Ethernet8" = .error error) := by
  intro record s s'
  obtain ⟨-, -, -, hothers, -⟩ := @detected_exactly s rfl "Ethernet4"
  refine ⟨rfl, ?_, ?_, ?_⟩
  · apply toOption_eq_some_iff.1
    decide +kernel
  · refine (hothers "Ethernet40" (by decide) (by decide) (by decide) s' ⟨rfl, rfl, rfl⟩ ?_).2
    intro key hkey
    refine .inl ⟨"fc00::1/126", ?_⟩
    by_contra hne
    have hother : "INTERFACE|Ethernet40|fc00::1/126" ≠ key := Ne.symm hne
    exact hkey (by rw [Std.ExtTreeMap.getElem?_erase, if_neg (by simpa using hother)])
  · exact (detected_exactly (s := s) rfl "Ethernet8").1.2 (.inr (by decide +kernel))

end Detection

end DualStack
