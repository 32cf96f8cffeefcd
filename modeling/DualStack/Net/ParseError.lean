import DualStack.Net.Address
import DualStack.Text.Blank

/-!
# What is wrong with a family, an address or a network

The reasons for which a text is rejected, the wording of each, and the readers of a family
name and of a version number that give them.
-/

set_option autoImplicit false

namespace DualStack

/-- What is wrong with a prefix length. -/
inductive LengthFault where
  /-- The network text has no usable length. -/
  | malformed (text : String)
  /-- The length exceeds the width of the family. -/
  | tooLong (length : Nat) (family : Family)
  /-- The address has bits set below the prefix. -/
  | hostBits (address : Address) (length : Nat)
deriving DecidableEq, Repr

/-- The wording of a fault. -/
def LengthFault.message : LengthFault → String
  | malformed text => text
  | tooLong length family =>
    s!"prefix length {length} exceeds maximum {family.width} for {family.name}"
  | hostBits address length => s!"{address.render}/{length} has host bits set"

/-- Why a text is no family, address or network. -/
inductive ParseError where
  | invalidAddress (text : String)
  | invalidLength (fault : LengthFault)
  | invalidVersion (text : String)
  | invalidFamily (text : String)
  /-- A network of the other family than the expected one. -/
  | familyMismatch (text : String) (expected : Family)
deriving DecidableEq, Repr

/-- The wording of a parse error. -/
def ParseError.message : ParseError → String
  | invalidAddress text => s!"invalid IP address format: {text}"
  | invalidLength fault => s!"invalid IP prefix format: {fault.message}"
  | invalidVersion text => s!"invalid IP version: {text} (must be 4 or 6)"
  | invalidFamily text => s!"invalid address family: {text} (must be ipv4 or ipv6)"
  | familyMismatch text expected => s!"{text} is not a valid {expected.name} network"

/-- The family of a name, compared exactly. -/
def Family.ofName (s : String) : Except ParseError Family :=
  match ofName? s with
  | some family => .ok family
  | none => .error (.invalidFamily s)

/-- The family of a version number with blanks around it. -/
def Family.ofVersion (s : String) : Except ParseError Family :=
  match ofVersion? (Text.trim s) with
  | some family => .ok family
  | none => .error (.invalidVersion (Text.trim s))

end DualStack
