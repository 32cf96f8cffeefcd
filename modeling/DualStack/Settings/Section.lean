import DualStack.Toml.Reader

/-!
# Sections of a settings file

A section gives values to named fields. It is written as a table, or as an array with the values
in the order of the fields; a date stands for a section without a value. Fields that are left out
have defaults, and names that are no fields are passed over as long as their numbers can be read.
-/

set_option autoImplicit false

namespace DualStack

/-- A section as written: values by name, or values in the order of the fields. -/
inductive Section where
  | named (entries : Toml.Entries)
  | listed (values : List Toml.Value)

namespace Section

/-- The section without a value. -/
def empty : Section := named []

/-- The section that a value stands for. -/
def of? : Toml.Value → Option Section
  | .table _ entries => some (named entries)
  | .array items => some (listed items)
  | .tables latestFirst => some (listed latestFirst.reverse)
  | .dateTime => some empty
  | _ => none

/-- The value of the field at a position among the names of the fields. -/
def value? (names : List String) (position : Nat) : Section → Option Toml.Value
  | named entries => names[position]?.bind entries.find
  | listed values => values[position]?

/-- A field that `read` understands, or its default. -/
def field? {α : Type} (names : List String) (position : Nat) (read : Toml.Value → Option α)
    (default : α) (s : Section) : Option α :=
  match s.value? names position with
  | none => some default
  | some value => read value

/-- Whether an integer fits 128 bits, with a sign if it is negative and without one otherwise. -/
def fits (n : Int) : Bool :=
  if n < 0 then n.natAbs ≤ 1 <<< 127 else n.natAbs < 1 <<< 128

mutual

/-- Whether every number in a value can be read: an integer fits, a floating-point number is within
the range of a double, and no word only begins like a number. -/
def isReadable : Toml.Value → Bool
  | .integer n => fits n
  | .float inRange => inRange
  | .array items => areReadable items
  | .tables latestFirst => areReadable latestFirst
  | .table _ entries => entriesAreReadable entries
  | .string _ => true
  | .boolean _ => true
  | .dateTime => true
  | .unreadable => false

/-- Whether every number in a list of values can be read. -/
def areReadable : List Toml.Value → Bool
  | [] => true
  | item :: items => isReadable item && areReadable items

/-- Whether every number in the values of a table can be read. -/
def entriesAreReadable : List (String × Toml.Value) → Bool
  | [] => true
  | (_, value) :: entries => isReadable value && entriesAreReadable entries

end

/-- Whether everything that stands under other names than those of the fields may be passed
over. -/
def restIsReadable (names : List String) : Section → Bool
  | named entries => entriesAreReadable (entries.filter fun (name, _) => !names.contains name)
  | listed _ => true

/-- A text. -/
def text? : Toml.Value → Option String
  | .string text => some text
  | _ => none

/-- A natural number below a limit. -/
def natBelow? (limit : Nat) : Toml.Value → Option Nat
  | .integer n => if 0 ≤ n ∧ n < limit then some n.toNat else none
  | _ => none

/-- A list of texts. -/
def texts? : Toml.Value → Option (List String)
  | .array items => items.mapM text?
  | .tables latestFirst => latestFirst.mapM text?
  | _ => none

end Section

end DualStack
