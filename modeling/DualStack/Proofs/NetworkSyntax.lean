import DualStack.Proofs.FieldTexts
import DualStack.Proofs.NetworkText
import Mathlib.Data.Nat.Bitwise

/-!
# Which texts are networks

A text is cut at its last slash. What stands in front must be an address and what stands behind
must be digits and nothing else; the value of the digits must fit the family of the address, and
the address must be a multiple of the power of two that the length leaves. The reader chooses the
family of the address by a colon, and no address is missed that way, because an IPv6 address has a
colon in its text and an IPv4 address has none. A text that is no network of the expected family is
refused for the first of these requirements that it does not meet, the family being the last.
-/

set_option autoImplicit false

namespace DualStack

/-! ## Host bits -/

/-- A mask of ones shifted to the right keeps the low bits. -/
theorem toNat_and_allOnes_shiftRight {width : Nat} (bits : BitVec width) {length : Nat}
    (h : length ≤ width) :
    (bits &&& (BitVec.allOnes width >>> length)).toNat = bits.toNat % 2 ^ (width - length) := by
  have hsplit : 2 ^ width = 2 ^ (width - length) * 2 ^ length := by
    rw [← Nat.pow_add, Nat.sub_add_cancel h]
  have hlow : 0 < 2 ^ length := Nat.two_pow_pos length
  have hhigh : 0 < 2 ^ (width - length) := Nat.two_pow_pos (width - length)
  have hmask : (2 ^ width - 1) >>> length = 2 ^ (width - length) - 1 := by
    rw [Nat.shiftRight_eq_div_pow, hsplit]
    apply Nat.div_eq_of_lt_le
    · rw [Nat.sub_mul]
      omega
    · rw [Nat.sub_add_cancel hhigh]
      have hpos : 0 < 2 ^ (width - length) * 2 ^ length := Nat.mul_pos hhigh hlow
      omega
  rw [BitVec.toNat_and, BitVec.toNat_ushiftRight, BitVec.toNat_allOnes, hmask,
    Nat.and_two_pow_sub_one_eq_mod]

namespace Address

/-- The bits below a prefix are zero exactly if the address is a multiple of the power of two that
the prefix leaves. -/
theorem hostBitsClear_iff {address : Address} {length : Nat}
    (h : length ≤ address.family.width) : address.hostBitsClear length = true ↔
      address.toNat % 2 ^ (address.family.width - length) = 0 := by
  cases address with
  | v4 bits =>
    rw [hostBitsClear, beq_iff_eq, BitVec.toNat_eq, toNat_and_allOnes_shiftRight bits h]
    rfl
  | v6 bits =>
    rw [hostBitsClear, beq_iff_eq, BitVec.toNat_eq, toNat_and_allOnes_shiftRight bits h]
    rfl

end Address

/-! ## Texts of addresses -/

/-- If a list is read item by item, each of its items is read. -/
theorem exists_of_mapM_eq_some {α β : Type} {f : α → Option β} {as : List α} {bs : List β}
    (h : as.mapM f = some bs) : ∀ a ∈ as, ∃ b, f a = some b := by
  induction as generalizing bs with
  | nil => simp
  | cons a as ih =>
    rw [List.mapM_cons] at h
    obtain ⟨b, hb, h⟩ := Option.bind_eq_some_iff.1 h
    obtain ⟨others, hothers, -⟩ := Option.bind_eq_some_iff.1 h
    exact List.forall_mem_cons.2 ⟨⟨b, hb⟩, ih hothers⟩

/-- Every character of a text is a separator or stands in a piece. -/
theorem Text.mem_splitOn (sep : Char) {c : Char} {cs : List Char} (h : c ∈ cs) :
    c = sep ∨ ∃ piece ∈ splitOn sep cs, c ∈ piece := by
  rw [← intercalate_splitOn sep cs] at h
  generalize splitOn sep cs = pieces at h
  induction pieces with
  | nil => simp at h
  | cons piece pieces ih =>
    cases pieces with
    | nil => exact .inr ⟨piece, by simp, by simpa using h⟩
    | cons next pieces =>
      rw [List.intercalate_cons_cons, List.append_assoc, List.mem_append] at h
      grind

/-- The characters of an IPv4 address are digits and the dots between them. -/
theorem V4.mem_of_parse? {cs : List Char} {bits : BitVec 32} (h : V4.parse? cs = some bits)
    {c : Char} (hc : c ∈ cs) : c = '.' ∨ c.isDigit = true := by
  unfold V4.parse? at h
  cases hread : (Text.splitOn '.' cs).mapM octet? with
  | none => simp [hread] at h
  | some octets =>
    refine (Text.mem_splitOn '.' hc).imp_right fun ⟨piece, hpiece, hmem⟩ => ?_
    obtain ⟨n, hn⟩ := exists_of_mapM_eq_some hread piece hpiece
    -- a piece that is an octet has nothing but digits in it
    unfold octet? at hn
    split at hn
    · cases hn
    · obtain ⟨-, hdigits, -⟩ := Text.digits?_eq_some_iff.1 (Option.filter_eq_some_iff.1 hn).1
      exact hdigits c hmem

/-- There is no colon in the text of an IPv4 address. -/
theorem V4.colon_notMem_of_parse? {cs : List Char} {bits : BitVec 32}
    (h : V4.parse? cs = some bits) : ':' ∉ cs := by
  intro hcolon
  rcases V4.mem_of_parse? h hcolon with hdot | hdigit
  · cases hdot
  · exact absurd hdigit (by decide)

/-- There is a colon in every text of an IPv6 address. -/
theorem V6.colon_mem_of_parse? {cs : List Char} {bits : BitVec 128}
    (h : V6.parse? cs = some bits) : ':' ∈ cs := by
  by_contra hcolon
  obtain ⟨groups, hgroups, -⟩ := Option.map_eq_some_iff.1 h
  have hempty := @Text.cutAt_append_of_notMem ':' [':'] cs [] hcolon
  have hcut : Text.cutAt [':', ':'] cs = none := by
    simpa [Text.cutAt, Text.after?] using hempty
  have hpieces : piecesOf cs = if cs.isEmpty then [] else [cs] := by
    unfold piecesOf
    have hone : Text.splitOn ':' ([':'].intercalate [cs]) = [cs] :=
      Text.splitOn_intercalate (by simp) (by simpa using hcolon)
    rw [List.intercalate_singleton] at hone
    rw [hone]
  -- without a colon there is one piece at most, which stands for one or two groups
  have hshort : ∀ gs, groupsWithTail? (piecesOf cs) = some gs → gs.length ≠ 8 := by
    rw [hpieces]
    intro gs hgs
    split at hgs
    · cases hgs
      decide
    · unfold groupsWithTail? at hgs
      split at hgs
      · cases hgs
        simp [mappedGroups]
      · obtain ⟨group, -, rfl⟩ := Option.map_eq_some_iff.1 hgs
        simp
  rw [groups?, hcut] at hgroups
  obtain ⟨hread, hlength⟩ := Option.filter_eq_some_iff.1 hgroups
  exact hshort groups hread (of_decide_eq_true hlength)

/-- A text is that of an address: the reader of its family reads it so. -/
def Address.IsText (address : Address) (text : String) : Prop :=
  match address with
  | .v4 bits => V4.parse? text.toList = some bits
  | .v6 bits => V6.parse? text.toList = some bits

namespace Network

/-- The address in front of a slash is read exactly if the text is one of it, so choosing the reader
by a colon misses nothing. -/
theorem addressOf_eq_ok_iff {text : String} {address : Address} :
    addressOf text = .ok address ↔ address.IsText text := by
  unfold addressOf Address.IsText
  by_cases hcolon : ':' ∈ text.toList
  · have hv4 : ∀ bits, V4.parse? text.toList ≠ some bits :=
      fun bits h => V4.colon_notMem_of_parse? h hcolon
    cases hread : V6.parse? text.toList <;> cases address <;> simp [hcolon, hv4]
  · have hv6 : ∀ bits, V6.parse? text.toList ≠ some bits :=
      fun bits h => hcolon (V6.colon_mem_of_parse? h)
    cases hread : V4.parse? text.toList <;> cases address <;> simp [hcolon, hv6]

/-- A text is refused as an address exactly if it is the text of none, and the error has the
text. -/
theorem addressOf_eq_error_iff {text : String} {error : ParseError} :
    addressOf text = .error error ↔
      (∀ address : Address, ¬ address.IsText text) ∧ error = .invalidAddress text := by
  simp only [← addressOf_eq_ok_iff]
  unfold addressOf
  simp only
  split <;> simp [eq_comm]

end Network

/-! ## Texts of lengths -/

namespace Network

/-- A length is read exactly if it is written in digits with a value below 256. -/
theorem lengthOf_eq_ok_iff {text digits : String} {length : Nat} :
    lengthOf text digits = .ok length ↔ Text.IsDigits digits.toList length ∧ length < 256 := by
  have hread : lengthOf text digits = .ok length ↔
      (Text.digits? digits.toList).filter (· < 256) = some length := by
    unfold lengthOf
    cases (Text.digits? digits.toList).filter (· < 256) <;> simp
  rw [hread, Option.filter_eq_some_iff, decide_eq_true_iff, Text.digits?_eq_some_iff]

/-- A length is refused exactly if no value below 256 has these digits, and the error has the whole
text. -/
theorem lengthOf_eq_error_iff {text digits : String} {error : ParseError} :
    lengthOf text digits = .error error ↔
      (∀ length < 256, ¬ Text.IsDigits digits.toList length) ∧
        error = .invalidLength (.malformed text) := by
  have hnone : (∀ length < 256, ¬ Text.IsDigits digits.toList length) ↔
      ∀ length, lengthOf text digits ≠ .ok length := by
    simp only [ne_eq, lengthOf_eq_ok_iff, not_and]
    exact ⟨fun h length hdigits hlt => h length hlt hdigits,
      fun h length hlt hdigits => h length hdigits hlt⟩
  rw [hnone]
  unfold lengthOf
  split <;> simp [eq_comm]

/-! ## An address and a length -/

/-- A network that is made of an address and a length is the one with these two. -/
theorem of_eq_ok_iff {address : Address} {length : Nat} {network : Network} :
    of address length = .ok network ↔ network.address = address ∧ network.length = length := by
  constructor
  · exact eq_of_of_eq_ok
  · rintro ⟨rfl, rfl⟩
    exact network.of_self

/-- An address and a length are a network exactly if the length fits and the rest is zero. -/
theorem exists_of_iff {address : Address} {length : Nat} :
    (∃ network : Network, network.address = address ∧ network.length = length) ↔
      length ≤ address.family.width ∧
        address.toNat % 2 ^ (address.family.width - length) = 0 := by
  constructor
  · rintro ⟨network, rfl, rfl⟩
    exact ⟨network.length_le, (Address.hostBitsClear_iff network.length_le).1 network.clear⟩
  · rintro ⟨hlength, hclear⟩
    exact ⟨⟨address, length, hlength, (Address.hostBitsClear_iff hlength).2 hclear⟩, rfl, rfl⟩

/-- No network is made if the length is too great, or else if a bit is set below it, and the error
says which. -/
theorem of_eq_error_iff {address : Address} {length : Nat} {error : ParseError} :
    of address length = .error error ↔
      address.family.width < length ∧
        error = .invalidLength (.tooLong length address.family) ∨
      length ≤ address.family.width ∧
        address.toNat % 2 ^ (address.family.width - length) ≠ 0 ∧
        error = .invalidLength (.hostBits address length) := by
  unfold of
  by_cases hlength : length ≤ address.family.width
  · rw [dif_pos hlength, ne_eq, ← Address.hostBitsClear_iff hlength]
    by_cases hclear : address.hostBitsClear length = true
    · simp [hclear, hlength]
    · simp [hclear, hlength, eq_comm]
  · rw [dif_neg hlength]
    simp [hlength, Nat.lt_of_not_le hlength, eq_comm]

/-! ## The parts of a text -/

/-- A text is cut at its last slash, or not at all if there is none. -/
inductive Cut (text : String) : String → Option String → Prop where
  | whole (h : '/' ∉ text.toList) : Cut text text none
  | atSlash {front digits : String} (h : text = front ++ "/" ++ digits)
    (hlast : '/' ∉ digits.toList) : Cut text front (some digits)

/-- A text is cut at its last slash exactly if it is the two parts with a slash between them and
none in the second. -/
theorem cutLast?_eq_some_mk_iff {text front digits : String} :
    Text.cutLast? '/' text = some (front, digits) ↔ Cut text front (some digits) := by
  have htext : text = front ++ "/" ++ digits ↔
      text.toList = front.toList ++ '/' :: digits.toList := by
    rw [← String.toList_inj]
    simp
  have hcut : Cut text front (some digits) ↔
      text.toList = front.toList ++ '/' :: digits.toList ∧ '/' ∉ digits.toList := by
    rw [← htext]
    constructor
    · rintro (_ | ⟨h, hlast⟩)
      exact ⟨h, hlast⟩
    · rintro ⟨h, hlast⟩
      exact .atSlash h hlast
  rw [hcut, ← Text.cutLast_eq_some_iff, Text.cutLast?, Option.map_eq_some_iff]
  constructor
  · rintro ⟨⟨left, right⟩, hfound, heq⟩
    obtain ⟨rfl, rfl⟩ := Prod.mk.inj heq
    simpa using hfound
  · intro hfound
    exact ⟨_, hfound, by simp⟩

/-- Every text is cut in some way. -/
theorem exists_cut (text : String) : ∃ front back, Cut text front back := by
  cases hcut : Text.cutLast? '/' text with
  | none =>
    rw [Text.cutLast?, Option.map_eq_none_iff, Text.cutLast_eq_none_iff] at hcut
    exact ⟨text, none, .whole hcut⟩
  | some parts => exact ⟨parts.1, some parts.2, cutLast?_eq_some_mk_iff.1 hcut⟩

/-- The length that the part behind the slash gives to an address: all of its bits without such a
part. -/
def lengthFor (text : String) (address : Address) : Option String → Except ParseError Nat
  | none => .ok address.family.width
  | some digits => lengthOf text digits

/-- A network is read from the parts of its text: the address first, then the length, then both
together. -/
theorem parse_of_cut {text front : String} {back : Option String} (h : Cut text front back) :
    parse text =
      addressOf front >>= fun address =>
        lengthFor text address back >>= fun length => of address length := by
  unfold parse
  cases h with
  | whole hslash =>
    have hnone : Text.cutLast? '/' text = none := by
      rw [Text.cutLast?, Text.cutLast_eq_none_iff.2 hslash]
      rfl
    rw [hnone]
    rfl
  | atSlash htext hlast =>
    rw [cutLast?_eq_some_mk_iff.2 (.atSlash htext hlast)]
    rfl

/-- The part behind the slash stands for a length: digits, or all bits without such a part. -/
def LengthIs (width : Nat) : Option String → Nat → Prop
  | none, length => length = width
  | some digits, length => Text.IsDigits digits.toList length

/-- A text spells a network: an address, and a length that fits it and leaves no bit below. -/
def Spells (text : String) (address : Address) (length : Nat) : Prop :=
  (∃ front back, Cut text front back ∧ address.IsText front ∧
    LengthIs address.family.width back length) ∧
  length ≤ address.family.width ∧
  address.toNat % 2 ^ (address.family.width - length) = 0

/-- Why a text is no network. What each reason presupposes excludes the ones before it. -/
inductive Malformed (text : String) : ParseError → Prop where
  | noAddress {front : String} {back : Option String} (hcut : Cut text front back)
    (h : ∀ address : Address, ¬ address.IsText front) :
    Malformed text (.invalidAddress front)
  | noDigits {front digits : String} {address : Address} (hcut : Cut text front (some digits))
    (haddress : address.IsText front) (h : ∀ length < 256, ¬ Text.IsDigits digits.toList length) :
    Malformed text (.invalidLength (.malformed text))
  | tooLong {front digits : String} {address : Address} {length : Nat}
    (hcut : Cut text front (some digits)) (haddress : address.IsText front)
    (hdigits : Text.IsDigits digits.toList length) (hlt : length < 256)
    (h : address.family.width < length) :
    Malformed text (.invalidLength (.tooLong length address.family))
  | hostBits {front digits : String} {address : Address} {length : Nat}
    (hcut : Cut text front (some digits)) (haddress : address.IsText front)
    (hdigits : Text.IsDigits digits.toList length) (hle : length ≤ address.family.width)
    (h : address.toNat % 2 ^ (address.family.width - length) ≠ 0) :
    Malformed text (.invalidLength (.hostBits address length))

/-! ## The reader -/

section

variable {text : String}

/-- The part behind the slash gives a length exactly if it stands for one below 256. -/
theorem lengthFor_eq_ok_iff {address : Address} {back : Option String} {length : Nat} :
    lengthFor text address back = .ok length ↔
      LengthIs address.family.width back length ∧ length < 256 := by
  cases back with
  | some digits => exact lengthOf_eq_ok_iff
  | none =>
    have hwidth : address.family.width < 256 := by cases address.family <;> decide
    constructor
    · intro h
      cases h
      exact ⟨rfl, hwidth⟩
    · rintro ⟨h, -⟩
      exact congrArg Except.ok (Eq.symm h)

/-- A text is read as a network exactly if it spells the address and the length of the network. -/
theorem parse_eq_ok_iff {network : Network} :
    parse text = .ok network ↔ Spells text network.address network.length := by
  constructor
  · intro h
    obtain ⟨front, back, hcut⟩ := exists_cut text
    rw [parse_of_cut hcut] at h
    obtain ⟨address, haddress, h⟩ := exists_of_bind_eq_ok h
    obtain ⟨length, hlength, h⟩ := exists_of_bind_eq_ok h
    obtain ⟨rfl, rfl⟩ := of_eq_ok_iff.1 h
    refine ⟨⟨front, back, hcut, addressOf_eq_ok_iff.1 haddress, ?_⟩,
      exists_of_iff.1 ⟨network, rfl, rfl⟩⟩
    exact (lengthFor_eq_ok_iff.1 hlength).1
  · rintro ⟨⟨front, back, hcut, haddress, hback⟩, -⟩
    rw [parse_of_cut hcut, addressOf_eq_ok_iff.2 haddress]
    simp only [bind, Except.bind, lengthFor_eq_ok_iff.2 ⟨hback, network.length_lt⟩]
    exact network.of_self

/-- A text is refused with an error exactly if it is malformed for this reason. -/
theorem parse_eq_error_iff {error : ParseError} :
    parse text = .error error ↔ Malformed text error := by
  constructor
  · intro h
    obtain ⟨front, back, hcut⟩ := exists_cut text
    rw [parse_of_cut hcut] at h
    rcases of_bind_eq_error h with hfront | ⟨address, haddress, hrest⟩
    · obtain ⟨hnone, rfl⟩ := addressOf_eq_error_iff.1 hfront
      exact .noAddress hcut hnone
    rw [addressOf_eq_ok_iff] at haddress
    rcases of_bind_eq_error hrest with hlength | ⟨length, hlength, hof⟩
    · cases back with
      | none => cases hlength
      | some digits =>
        obtain ⟨hnone, rfl⟩ := lengthOf_eq_error_iff.1 hlength
        exact .noDigits hcut haddress hnone
    obtain ⟨hback, hlt⟩ := lengthFor_eq_ok_iff.1 hlength
    cases back with
    | none =>
      -- all bits of an address leave none below
      obtain rfl := hback
      rcases of_eq_error_iff.1 hof with ⟨hlong, -⟩ | ⟨-, hbits, -⟩
      · exact absurd hlong (lt_irrefl _)
      · rw [Nat.sub_self, Nat.pow_zero, Nat.mod_one] at hbits
        exact absurd rfl hbits
    | some digits =>
      rcases of_eq_error_iff.1 hof with ⟨hlong, rfl⟩ | ⟨hle, hbits, rfl⟩
      · exact .tooLong hcut haddress hback hlt hlong
      · exact .hostBits hcut haddress hback hle hbits
  · intro h
    cases h with
    | noAddress hcut h =>
      rw [parse_of_cut hcut, addressOf_eq_error_iff.2 ⟨h, rfl⟩]
      rfl
    | noDigits hcut haddress h =>
      rw [parse_of_cut hcut, addressOf_eq_ok_iff.2 haddress]
      simp only [bind, Except.bind, lengthFor, lengthOf_eq_error_iff.2 ⟨h, rfl⟩]
    | tooLong hcut haddress hdigits hlt h =>
      rw [parse_of_cut hcut, addressOf_eq_ok_iff.2 haddress]
      simp only [bind, Except.bind, lengthFor, lengthOf_eq_ok_iff.2 ⟨hdigits, hlt⟩]
      exact of_eq_error_iff.2 (.inl ⟨h, rfl⟩)
    | @hostBits _ _ address length hcut haddress hdigits hle h =>
      have hlt : length < 256 := by
        have hwidth : address.family.width < 256 := by cases address.family <;> decide
        omega
      rw [parse_of_cut hcut, addressOf_eq_ok_iff.2 haddress]
      simp only [bind, Except.bind, lengthFor, lengthOf_eq_ok_iff.2 ⟨hdigits, hlt⟩]
      exact of_eq_error_iff.2 (.inr ⟨hle, h, rfl⟩)

/-- A text is refused for a family exactly if it is no network or one of the other family. -/
theorem parseFor_eq_error_iff {expected : Family} {error : ParseError} :
    parseFor expected text = .error error ↔ parse text = .error error ∨
      ∃ network, parse text = .ok network ∧ network.family ≠ expected ∧
        error = .familyMismatch text expected := by
  constructor
  · intro h
    rcases of_bind_eq_error h with hparse | ⟨network, hparse, hchecked⟩
    · exact .inl hparse
    · by_cases hfamily : network.family = expected
      · rw [if_pos hfamily] at hchecked
        cases hchecked
      · rw [if_neg hfamily] at hchecked
        cases hchecked
        exact .inr ⟨network, hparse, hfamily, rfl⟩
  · unfold parseFor
    rintro (hparse | ⟨network, hparse, hfamily, rfl⟩)
    · rw [hparse]
      rfl
    · rw [hparse]
      exact if_neg hfamily

/-- A text is read as a network of an address and a length exactly if it spells these. -/
theorem exists_parse_iff {address : Address} {length : Nat} :
    (∃ network, parse text = .ok network ∧ network.address = address ∧ network.length = length) ↔
      Spells text address length := by
  constructor
  · rintro ⟨network, h, rfl, rfl⟩
    exact parse_eq_ok_iff.1 h
  · intro h
    obtain ⟨network, rfl, rfl⟩ := exists_of_iff.2 h.2
    exact ⟨network, parse_eq_ok_iff.2 h, rfl, rfl⟩

end

/-- Which texts are networks of a family. A text is read exactly if it spells an address of the
family with a length that leaves no bit below, and what is read is that address and that length. If
it is refused, then for what is wrong with its address, its length or the bits below, the first of
them that is; or it is a network of the other family. Looking for a colon before an address is read
misses no address. -/
theorem read_strictly (expected : Family) (text : String) :
    (∀ address length, (∃ network, parseFor expected text = .ok network ∧
        network.address = address ∧ network.length = length) ↔
      address.family = expected ∧ Spells text address length) ∧
    (∀ error, parseFor expected text = .error error ↔ Malformed text error ∨
      ∃ address length, Spells text address length ∧ address.family ≠ expected ∧
        error = .familyMismatch text expected) ∧
    (∀ front : String, (∀ address : Address, ¬ address.IsText front) ↔
      if ':' ∈ front.toList then V6.parse? front.toList = none
      else V4.parse? front.toList = none) := by
  refine ⟨?_, ?_, ?_⟩
  · intro address length
    simp only [← exists_parse_iff, parseFor_eq_ok_iff]
    constructor
    · rintro ⟨network, ⟨hparse, hfamily⟩, rfl, rfl⟩
      exact ⟨hfamily, network, hparse, rfl, rfl⟩
    · rintro ⟨hfamily, network, hparse, rfl, rfl⟩
      exact ⟨network, ⟨hparse, hfamily⟩, rfl, rfl⟩
  · intro error
    rw [parseFor_eq_error_iff, parse_eq_error_iff]
    refine or_congr_right ?_
    simp only [← exists_parse_iff]
    constructor
    · rintro ⟨network, hparse, hfamily, rfl⟩
      exact ⟨_, _, ⟨network, hparse, rfl, rfl⟩, hfamily, rfl⟩
    · rintro ⟨_, _, ⟨network, hparse, rfl, rfl⟩, hfamily, rfl⟩
      exact ⟨network, hparse, hfamily, rfl⟩
  · intro front
    have hnone : (∀ address : Address, ¬ address.IsText front) ↔
        addressOf front = .error (.invalidAddress front) := by
      simp [addressOf_eq_error_iff]
    rw [hnone]
    unfold addressOf
    by_cases hcolon : ':' ∈ front.toList
    · cases hread : V6.parse? front.toList <;> simp [hcolon]
    · cases hread : V4.parse? front.toList <;> simp [hcolon]

end Network

end DualStack
