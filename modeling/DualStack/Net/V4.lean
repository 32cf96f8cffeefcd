import DualStack.Text.Split
import DualStack.Text.Decimal

/-!
# The text of IPv4 addresses

An IPv4 address is a number of 32 bits. It is written as four octets in decimal between
dots, and only that form is read: exactly four octets, each below 256 and without a leading
zero.
-/

set_option autoImplicit false

namespace DualStack.V4

/-- The value of an octet: decimal digits without a leading zero, below 256. -/
def octet? (cs : List Char) : Option Nat :=
  if cs.head? = some '0' ∧ cs.length ≠ 1 then none
  else (Text.digits? cs).filter (· < 256)

/-- The number whose octets are given, most significant first. -/
def ofOctets (octets : List Nat) : BitVec 32 :=
  BitVec.ofNat 32 (octets.foldl (fun n octet => n * 256 + octet) 0)

/-- The address of a text. -/
def parse? (cs : List Char) : Option (BitVec 32) :=
  match (Text.splitOn '.' cs).mapM octet? with
  | some [a, b, c, d] => some (ofOctets [a, b, c, d])
  | _ => none

/-- The four octets, most significant first. -/
def octets (bits : BitVec 32) : List Nat :=
  [24, 16, 8, 0].map fun shift => (bits.toNat >>> shift) % 256

/-- The written form of an address. -/
def render (bits : BitVec 32) : List Char :=
  ['.'].intercalate ((octets bits).map (Nat.toDigits 10))

end DualStack.V4
