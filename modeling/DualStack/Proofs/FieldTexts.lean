import DualStack.Config.FamilySet
import DualStack.Proofs.Store
import DualStack.Text.Decimal
import Mathlib.Data.List.Basic

/-!
# Which texts are numbers and lists of versions

The readers of numbers and of version lists go through a text from its front and stop at the first
thing they cannot read. What they accept is said here of the text as a whole: a number is digits
behind an optional plus sign with a value below the limit, and a list of versions is a text of which
every piece between commas is a version number with blanks around it. A list that is refused is
refused for its first piece that is none.
-/

set_option autoImplicit false

namespace DualStack

namespace Text

/-- A text is a number: one or more digits behind an optional plus sign. -/
def IsNumeral (cs : List Char) (n : Nat) : Prop :=
  ∃ digits, (cs = digits ∨ cs = '+' :: digits) ∧ digits ≠ [] ∧
    (∀ c ∈ digits, c.isDigit = true) ∧ Nat.ofDigitChars 10 digits 0 = n

/-- A text is one or more digits, without a sign, with a value. -/
def IsDigits (cs : List Char) (n : Nat) : Prop :=
  cs ≠ [] ∧ (∀ c ∈ cs, c.isDigit = true) ∧ Nat.ofDigitChars 10 cs 0 = n

/-- Digits without a sign are a number. -/
theorem IsDigits.isNumeral {cs : List Char} {n : Nat} (h : IsDigits cs n) : IsNumeral cs n :=
  ⟨cs, .inl rfl, h⟩

/-- A decimal digit is read by its distance from zero, and no other character is read. -/
theorem digit?_eq (c : Char) :
    digit? c = if c.isDigit = true then some (c.toNat - '0'.toNat) else none := by
  have hiff : ('0' ≤ c ∧ c ≤ '9') ↔ c.isDigit = true := by
    simp [Char.isDigit, Char.le_def]
  unfold digit?
  simp only [hiff]

/-- What is read behind a number are decimal digits, and their value goes on from that number. -/
theorem digitsFrom?_eq_some_iff {acc n : Nat} {cs : List Char} :
    digitsFrom? acc cs = some n ↔
      (∀ c ∈ cs, c.isDigit = true) ∧ Nat.ofDigitChars 10 cs acc = n := by
  induction cs generalizing acc with
  | nil => simp [digitsFrom?]
  | cons c cs ih =>
    rw [digitsFrom?, digit?_eq, Nat.ofDigitChars_cons]
    by_cases hdigit : c.isDigit = true
    · simp [hdigit, ih]
    · simp [hdigit]

/-- The reader of digits takes exactly the texts that are one or more digits. -/
theorem digits?_eq_some_iff {n : Nat} {cs : List Char} :
    digits? cs = some n ↔ IsDigits cs n := by
  unfold digits? IsDigits
  cases cs with
  | nil => simp
  | cons c cs => simp [digitsFrom?_eq_some_iff]

/-- The reader of numbers takes exactly the numbers below its limit. -/
theorem unsigned?_eq_some_iff {limit n : Nat} {cs : List Char} :
    unsigned? limit cs = some n ↔ IsNumeral cs n ∧ n < limit := by
  have hplus : ('+' : Char).isDigit = false := by decide
  unfold unsigned? IsNumeral
  simp only [Option.filter_eq_some_iff, digits?_eq_some_iff, decide_eq_true_eq]
  refine and_congr_left fun _ => ?_
  split
  · next rest =>
    constructor
    · intro h
      exact ⟨rest, .inr rfl, h⟩
    · rintro ⟨digits, rfl | hrest, hne, hdigits, hn⟩
      · have hfirst := hdigits '+' List.mem_cons_self
        rw [hplus] at hfirst
        cases hfirst
      · obtain ⟨-, rfl⟩ := List.cons.inj hrest
        exact ⟨hne, hdigits, hn⟩
  · next hnone =>
    constructor
    · intro h
      exact ⟨cs, .inl rfl, h⟩
    · rintro ⟨digits, rfl | hrest, h⟩
      · exact h
      · exact absurd hrest (hnone digits)

/-- A text has one value at most. -/
theorem IsNumeral.unique {cs : List Char} {m n : Nat} (hm : IsNumeral cs m)
    (hn : IsNumeral cs n) : m = n := by
  have hread : ∀ k, IsNumeral cs k → k < m + n + 1 → unsigned? (m + n + 1) cs = some k :=
    fun k hk hlt => unsigned?_eq_some_iff.2 ⟨hk, hlt⟩
  exact Option.some.inj ((hread m hm (by omega)).symm.trans (hread n hn (by omega)))

/-- Reading into a word of a fixed size keeps the value. -/
theorem map_unsigned?_eq_some_iff {α : Type} {limit : Nat} {ofNat : Nat → α} {toNat : α → Nat}
    (toNat_lt : ∀ a, toNat a < limit) (toNat_ofNat : ∀ n < limit, toNat (ofNat n) = n)
    (ofNat_toNat : ∀ a, ofNat (toNat a) = a) {cs : List Char} {a : α} :
    (unsigned? limit cs).map ofNat = some a ↔ IsNumeral cs (toNat a) := by
  simp only [Option.map_eq_some_iff, unsigned?_eq_some_iff]
  constructor
  · rintro ⟨n, ⟨hn, hlt⟩, rfl⟩
    rwa [toNat_ofNat n hlt]
  · intro ha
    exact ⟨toNat a, ⟨ha, toNat_lt a⟩, ofNat_toNat a⟩

/-- A text is read as a number of 16 bits exactly if it is this number. -/
theorem uint16?_eq_some_iff {s : String} {n : UInt16} :
    uint16? s = some n ↔ IsNumeral s.toList n.toNat :=
  map_unsigned?_eq_some_iff UInt16.toNat_lt_size (fun _ => UInt16.toNat_ofNat_of_lt')
    fun _ => UInt16.ofNat_toNat

/-- A text is read as a number of 32 bits exactly if it is this number. -/
theorem uint32?_eq_some_iff {s : String} {n : UInt32} :
    uint32? s = some n ↔ IsNumeral s.toList n.toNat :=
  map_unsigned?_eq_some_iff UInt32.toNat_lt_size (fun _ => UInt32.toNat_ofNat_of_lt')
    fun _ => UInt32.ofNat_toNat

/-- A text is read as a number of 64 bits exactly if it is this number. -/
theorem uint64?_eq_some_iff {s : String} {n : UInt64} :
    uint64? s = some n ↔ IsNumeral s.toList n.toNat :=
  map_unsigned?_eq_some_iff UInt64.toNat_lt_size (fun _ => UInt64.toNat_ofNat_of_lt')
    fun _ => UInt64.ofNat_toNat

end Text

namespace Family

/-- A piece of a text is the version number of a family, with blanks around it. -/
def Names (family : Family) (piece : String) : Prop :=
  Text.trim piece = toString family.version

/-- A text is the version of a family exactly if it is written as the version number. -/
theorem ofVersion?_eq_some_iff {s : String} {family : Family} :
    ofVersion? s = some family ↔ s = toString family.version := by
  have h4 : toString Family.ipv4.version = "4" := rfl
  have h6 : toString Family.ipv6.version = "6" := rfl
  constructor
  · intro h
    unfold ofVersion? at h
    split at h
    · next heq =>
      cases h
      exact heq
    · split at h
      · next heq =>
        cases h
        exact heq
      · cases h
  · rintro rfl
    cases family <;> decide

/-- A piece is read as a family exactly if it is the version number with blanks around it. -/
theorem ofVersion_eq_ok_iff {piece : String} {family : Family} :
    Family.ofVersion piece = .ok family ↔ family.Names piece := by
  unfold Names
  rw [← ofVersion?_eq_some_iff]
  unfold Family.ofVersion
  cases ofVersion? (Text.trim piece) <;> simp

/-- A piece is refused exactly if it names no family, and the error has it without the blanks. -/
theorem ofVersion_eq_error_iff {piece : String} {error : ParseError} :
    Family.ofVersion piece = .error error ↔
      (∀ family : Family, ¬ family.Names piece) ∧ error = .invalidVersion (Text.trim piece) := by
  simp only [← ofVersion_eq_ok_iff]
  unfold Family.ofVersion
  cases ofVersion? (Text.trim piece) <;> simp [eq_comm]

end Family

namespace FamilySet

variable {pieces : List String}

/-- The families that are read are those that some piece names. -/
theorem of_familiesOf_eq_ok {families : List Family} (h : familiesOf pieces = .ok families) :
    (∀ piece ∈ pieces, ∃ family : Family, family.Names piece) ∧
      ∀ family : Family, family ∈ families ↔ ∃ piece ∈ pieces, family.Names piece := by
  induction pieces generalizing families with
  | nil =>
    cases h
    simp
  | cons piece pieces ih =>
    unfold familiesOf at h
    obtain ⟨first, hfirst, h⟩ := exists_of_bind_eq_ok h
    obtain ⟨others, hothers, h⟩ := exists_of_bind_eq_ok h
    cases h
    obtain ⟨hpieces, hmem⟩ := ih hothers
    have hsame : ∀ family : Family, family.Names piece ↔ family = first := by
      intro family
      rw [← Family.ofVersion_eq_ok_iff, hfirst, Except.ok.injEq, eq_comm]
    constructor
    · simpa [hsame] using hpieces
    · intro family
      simp [hsame, hmem]

/-- The piece that a list is refused for is the first that names no family. -/
theorem of_familiesOf_eq_error {error : ParseError} (h : familiesOf pieces = .error error) :
    ∃ before piece after, pieces = before ++ piece :: after ∧
      (∀ earlier ∈ before, ∃ family : Family, family.Names earlier) ∧
      (∀ family : Family, ¬ family.Names piece) ∧ error = .invalidVersion (Text.trim piece) := by
  induction pieces with
  | nil => cases h
  | cons piece pieces ih =>
    unfold familiesOf at h
    rcases of_bind_eq_error h with hfirst | ⟨first, hfirst, h⟩
    · obtain ⟨hnone, rfl⟩ := Family.ofVersion_eq_error_iff.1 hfirst
      exact ⟨[], piece, pieces, rfl, by simp, hnone, rfl⟩
    · rcases of_bind_eq_error h with hlater | ⟨others, -, h⟩
      · obtain ⟨before, bad, after, rfl, hbefore, hbad⟩ := ih hlater
        refine ⟨piece :: before, bad, after, rfl, ?_, hbad⟩
        simpa using ⟨⟨first, Family.ofVersion_eq_ok_iff.1 hfirst⟩, hbefore⟩
      · cases h

variable {s : String}

/-- In a list that is read every piece names a family, and the set has exactly the families that are
named. -/
theorem of_parse_eq_ok {families : FamilySet} (h : parse s = .ok families) :
    (∀ piece ∈ Text.pieces ',' s, ∃ family : Family, family.Names piece) ∧
      ∀ family, families.get family = true ↔ ∃ piece ∈ Text.pieces ',' s, family.Names piece := by
  unfold parse at h
  obtain ⟨named, hnamed, h⟩ := exists_of_bind_eq_ok h
  cases h
  obtain ⟨hpieces, hmem⟩ := of_familiesOf_eq_ok hnamed
  refine ⟨hpieces, fun family => ?_⟩
  rw [← hmem]
  simp

/-- A list that is refused is refused for its first piece that names no family. -/
theorem of_parse_eq_error {error : ParseError} (h : parse s = .error error) :
    ∃ before piece after, Text.pieces ',' s = before ++ piece :: after ∧
      (∀ earlier ∈ before, ∃ family : Family, family.Names earlier) ∧
      (∀ family : Family, ¬ family.Names piece) ∧ error = .invalidVersion (Text.trim piece) := by
  unfold parse at h
  rcases of_bind_eq_error h with hnamed | ⟨named, -, h⟩
  · exact of_familiesOf_eq_error hnamed
  · cases h

/-- The written form of a set that is not empty is read as this set. -/
theorem parse_render {families : FamilySet} (h : families.isEmpty = false) :
    parse families.render = .ok families := by
  obtain ⟨ipv4, ipv6⟩ := families
  cases ipv4 <;> cases ipv6
  · cases h
  all_goals decide +kernel

end FamilySet

end DualStack
