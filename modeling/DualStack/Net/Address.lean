import DualStack.Net.Family
import DualStack.Net.V6

/-!
# Addresses

An address of either family is its bits, read as an unsigned number. This module says how an
address of unknown family is read, how it is written, and which of its bits lie below a
prefix length.
-/

set_option autoImplicit false

namespace DualStack

/-- An IPv4 or IPv6 address. -/
inductive Address where
  | v4 (bits : BitVec 32)
  | v6 (bits : BitVec 128)
deriving DecidableEq, Repr

namespace Address

/-- The family of an address. -/
def family : Address → Family
  | v4 _ => .ipv4
  | v6 _ => .ipv6

/-- The address as an unsigned number. -/
def toNat : Address → Nat
  | v4 bits => bits.toNat
  | v6 bits => bits.toNat

/-- The address of a text of either family. -/
def parse? (s : String) : Option Address :=
  ((V4.parse? s.toList).map v4).or ((V6.parse? s.toList).map v6)

/-- The written form of an address. -/
def render : Address → String
  | v4 bits => String.ofList (V4.render bits)
  | v6 bits => String.ofList (V6.render bits)

/-- Whether every bit below the first `length` ones is zero, by a mask of ones shifted right. -/
def hostBitsClear (length : Nat) : Address → Bool
  | v4 bits => bits &&& (BitVec.allOnes 32 >>> length) == 0
  | v6 bits => bits &&& (BitVec.allOnes 128 >>> length) == 0

end Address

end DualStack
