import DualStack.Net.ParseError

/-!
# Networks

A network is an address with a prefix length that fits its family and leaves no bit set
below it; the type holds nothing else. Reading is strict: the length is one or more digits
and nothing more, and a bare address is a network of full length. The statements say that a
network determines its address and length, and nothing besides them.
-/

set_option autoImplicit false

namespace DualStack

/-- An address and a prefix length with all host bits zero. -/
structure Network where
  address : Address
  length : Nat
  length_le : length ≤ address.family.width
  clear : address.hostBitsClear length = true
deriving DecidableEq

namespace Network

/-- The family of the address. -/
def family (network : Network) : Family :=
  network.address.family

/-- The network of an address and a prefix length. -/
def of (address : Address) (length : Nat) : Except ParseError Network :=
  if hlength : length ≤ address.family.width then
    if hclear : address.hostBitsClear length = true then
      .ok ⟨address, length, hlength, hclear⟩
    else .error (.invalidLength (.hostBits address length))
  else .error (.invalidLength (.tooLong length address.family))

/-- The address in front of the length: an IPv6 address exactly if there is a colon in it. -/
def addressOf (text : String) : Except ParseError Address :=
  let address :=
    if text.toList.contains ':' then (V6.parse? text.toList).map Address.v6
    else (V4.parse? text.toList).map Address.v4
  match address with
  | some address => .ok address
  | none => .error (.invalidAddress text)

/-- The length behind the last slash of `text`: digits of a value below 256. -/
def lengthOf (text digits : String) : Except ParseError Nat :=
  match (Text.digits? digits.toList).filter (· < 256) with
  | some length => .ok length
  | none => .error (.invalidLength (.malformed text))

/-- The network of a text. -/
def parse (text : String) : Except ParseError Network :=
  match Text.cutLast? '/' text with
  | none => do
    let address ← addressOf text
    of address address.family.width
  | some (front, digits) => do
    let address ← addressOf front
    let length ← lengthOf text digits
    of address length

/-- The network of a text, which must be of the given family. -/
def parseFor (expected : Family) (text : String) : Except ParseError Network := do
  let network ← parse text
  if network.family = expected then pure network
  else throw (.familyMismatch text expected)

/-- The written form: address, slash, length. -/
def render (network : Network) : String :=
  s!"{network.address.render}/{network.length}"

/-- A network is determined by its address and its length; the proof that no host bit is set does
not distinguish networks. -/
@[ext]
theorem ext_of {a b : Network} (haddress : a.address = b.address) (hlength : a.length = b.length) :
    a = b := by
  cases a
  cases b
  simp_all

/-- A network is made again from its own address and length. -/
theorem of_self (network : Network) : of network.address network.length = .ok network := by
  simp [of, network.length_le, network.clear]

end Network

end DualStack
