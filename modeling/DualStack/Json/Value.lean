import DualStack.Json.Text

/-!
# JSON values

A JSON value as it is written: numbers keep their digits and strings their escapes, so that
reading decides the form of a text and leaves its meaning to whoever asks for it. Members of
an object keep their order and repetitions.
-/

set_option autoImplicit false

namespace DualStack

/-- A JSON value as written. -/
inductive Json where
  | null
  | bool (value : Bool)
  /-- A number, by its characters. -/
  | number (digits : List Char)
  /-- A string, by the body of its literal. -/
  | string (body : List Char)
  | array (items : List Json)
  | object (members : List (List Char × Json))
deriving Inhabited

namespace Json

/-- The string value of a text. -/
def ofString (s : String) : Json :=
  string (escape s.toList)

/-- The number value of a natural number. -/
def ofNat (n : Nat) : Json :=
  number (Nat.toDigits 10 n)

/-- The object of named values, in the order given. -/
def ofMembers (members : List (String × Json)) : Json :=
  object (members.map fun (name, value) => (escape name.toList, value))

/-- The text of a string value. -/
def text? : Json → Option String
  | string body => (unescape? body).map String.ofList
  | _ => none

/-- The truth value of a boolean. -/
def bool? : Json → Option Bool
  | bool value => some value
  | _ => none

/-- The text of a member's name. -/
def name? (body : List Char) : Option String :=
  (unescape? body).map String.ofList

end Json

end DualStack
