/-!
# Decimal numbers in texts

Reading an unsigned number below a limit: one optional plus sign, then one or more ASCII
digits with leading zeros allowed. Nothing is wrapped or cut off: a value at or above the
limit is no number.
-/

set_option autoImplicit false

namespace DualStack.Text

/-- The value of an ASCII digit. -/
def digit? (c : Char) : Option Nat :=
  if '0' ≤ c ∧ c ≤ '9' then some (c.toNat - '0'.toNat) else none

/-- The value of the digits `cs` written behind a number of value `acc`. -/
def digitsFrom? (acc : Nat) : List Char → Option Nat
  | [] => some acc
  | c :: cs => (digit? c).bind fun d => digitsFrom? (10 * acc + d) cs

/-- The value of one or more digits. -/
def digits? (cs : List Char) : Option Nat :=
  if cs.isEmpty then none else digitsFrom? 0 cs

/-- The value below `limit` of digits behind an optional plus sign. -/
def unsigned? (limit : Nat) (cs : List Char) : Option Nat :=
  let body := match cs with
    | '+' :: rest => rest
    | _ => cs
  (digits? body).filter (· < limit)

/-- An unsigned number below `2 ^ 16`. -/
def uint16? (s : String) : Option UInt16 :=
  (unsigned? UInt16.size s.toList).map UInt16.ofNat

/-- An unsigned number below `2 ^ 32`. -/
def uint32? (s : String) : Option UInt32 :=
  (unsigned? UInt32.size s.toList).map UInt32.ofNat

/-- An unsigned number below `2 ^ 64`. -/
def uint64? (s : String) : Option UInt64 :=
  (unsigned? UInt64.size s.toList).map UInt64.ofNat

end DualStack.Text
