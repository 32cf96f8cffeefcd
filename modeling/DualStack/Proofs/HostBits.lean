import DualStack.Proofs.NetworkSyntax

/-!
# Which addresses and lengths are networks

An address of a family with `width` bits and a length make a network exactly if the length is at
most `width` and the address is a multiple of `2 ^ (width - length)`. This is tested with a mask of
ones that is shifted right by the length: at length zero the mask looks at every bit, at full length
at none, and a length beyond that is refused before the mask is made. The two refusals have wordings
that are never the same, so the wording tells which of them it was.
-/

set_option autoImplicit false

namespace DualStack

/-- A number is no multiple of a power of two exactly if a bit below the power is set. -/
theorem mod_two_pow_ne_zero_iff {n k : Nat} :
    n % 2 ^ k ≠ 0 ↔ ∃ i < k, n.testBit i = true := by
  constructor
  · intro h
    by_contra hnone
    have hclear : ∀ i < k, n.testBit i = false := by simpa using hnone
    refine h (Nat.zero_of_testBit_eq_false fun i => ?_)
    rw [Nat.testBit_mod_two_pow]
    by_cases hi : i < k
    · simp [hclear i hi]
    · simp [hi]
  · rintro ⟨i, hi, hset⟩ h
    have hbit := Nat.testBit_mod_two_pow n k i
    rw [h, hset] at hbit
    simp [hi] at hbit

/-- The number of an address has no more bits than its family. -/
theorem Address.toNat_lt (address : Address) : address.toNat < 2 ^ address.family.width := by
  cases address with
  | v4 bits => exact bits.isLt
  | v6 bits => exact bits.isLt

namespace ParseError

variable (length shorter : Nat) (family : Family) (address : Address)

/-- What is said of a length that is too long ends in a digit, and what is said of set bits in a
letter. -/
theorem message_tooLong_ne_message_hostBits :
    (invalidLength (.tooLong length family)).message ≠
      (invalidLength (.hostBits address shorter)).message := by
  intro h
  obtain ⟨lead, hlead⟩ : ∃ lead, (invalidLength (.tooLong length family)).message =
      lead ++ (s!"prefix length {length} exceeds maximum {family.width} for " ++ family.name) :=
    ⟨"invalid IP prefix format: ", rfl⟩
  obtain ⟨lead', hlead'⟩ : ∃ lead, (invalidLength (.hostBits address shorter)).message =
      lead ++ (s!"{address.render}/{shorter}" ++ " has host bits set") :=
    ⟨"invalid IP prefix format: ", rfl⟩
  rw [hlead, hlead'] at h
  have hlast := congrArg (fun s : String => s.toList.getLast?) h
  simp only [String.toList_append, List.getLast?_append] at hlast
  cases family <;> cases hlast

end ParseError

namespace Network

variable (address : Address) (length : Nat)

/-- A network is made exactly if the length fits the family and no bit of the address is set below
it. -/
theorem exists_of_eq_ok_iff : (∃ network, of address length = .ok network) ↔
    length ≤ address.family.width ∧
      address.toNat % 2 ^ (address.family.width - length) = 0 := by
  simp only [of_eq_ok_iff, exists_of_iff]

/-- A refusal is worded as that of a long length exactly if the length is too long. -/
theorem exists_of_eq_error_tooLong_iff : (∃ error, of address length = .error error ∧
      error.message = (ParseError.invalidLength (.tooLong length address.family)).message) ↔
    address.family.width < length := by
  constructor
  · rintro ⟨error, hof, hmessage⟩
    rcases of_eq_error_iff.1 hof with ⟨hlong, -⟩ | ⟨-, -, rfl⟩
    · exact hlong
    · exact absurd hmessage.symm (ParseError.message_tooLong_ne_message_hostBits _ _ _ _)
  · intro hlong
    exact ⟨_, of_eq_error_iff.2 (.inl ⟨hlong, rfl⟩), rfl⟩

/-- A refusal is worded as that of host bits exactly if the length fits and a bit below is set. -/
theorem exists_of_eq_error_hostBits_iff : (∃ error, of address length = .error error ∧
      error.message = (ParseError.invalidLength (.hostBits address length)).message) ↔
    length ≤ address.family.width ∧
      ∃ i < address.family.width - length, address.toNat.testBit i = true := by
  rw [← mod_two_pow_ne_zero_iff]
  constructor
  · rintro ⟨error, hof, hmessage⟩
    rcases of_eq_error_iff.1 hof with ⟨-, rfl⟩ | ⟨hle, hbits, -⟩
    · exact absurd hmessage (ParseError.message_tooLong_ne_message_hostBits _ _ _ _)
    · exact ⟨hle, hbits⟩
  · rintro ⟨hle, hbits⟩
    exact ⟨_, of_eq_error_iff.2 (.inr ⟨hle, hbits, rfl⟩), rfl⟩

/-- Which addresses and lengths are networks, and what is said of the others. The address and the
length are kept as they are. An address is refused for its length exactly if that is beyond the
width of its family, and for its bits exactly if the length fits and one of the bits below it is
set. At length zero only the zero address is a network, and at full length every address is. -/
theorem made_without_host_bits :
    let width := address.family.width
    ((∃ network, of address length = .ok network) ↔
      length ≤ width ∧ address.toNat % 2 ^ (width - length) = 0) ∧
    (∀ network, of address length = .ok network →
      network.address = address ∧ network.length = length) ∧
    ((∃ error, of address length = .error error ∧ error.message = "invalid IP prefix format: " ++
        s!"prefix length {length} exceeds maximum {width} for {address.family.name}") ↔
      width < length) ∧
    ((∃ error, of address length = .error error ∧ error.message = "invalid IP prefix format: " ++
        s!"{address.render}/{length} has host bits set") ↔
      length ≤ width ∧ ∃ i < width - length, address.toNat.testBit i = true) ∧
    ((∃ network, of address 0 = .ok network) ↔ address.toNat = 0) ∧
    ∃ network, of address width = .ok network := by
  intro width
  refine ⟨exists_of_eq_ok_iff address length, fun network => of_eq_ok_iff.1, ?_, ?_, ?_, ?_⟩
  · exact exists_of_eq_error_tooLong_iff address length
  · exact exists_of_eq_error_hostBits_iff address length
  · rw [exists_of_eq_ok_iff, Nat.sub_zero, Nat.mod_eq_of_lt address.toNat_lt]
    simp
  · rw [exists_of_eq_ok_iff, Nat.sub_self, Nat.pow_zero, Nat.mod_one]
    exact ⟨le_rfl, rfl⟩

end Network

end DualStack
