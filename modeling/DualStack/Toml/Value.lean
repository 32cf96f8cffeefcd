/-!
# TOML values

The values of a TOML document. Numbers keep what a reader of settings can ask of them: an integer
its value, a floating-point number only whether it is within the range of a double. A word that
only begins like a number is a value that cannot be read. A table remembers how it came about,
because that decides how it may be extended.
-/

set_option autoImplicit false

namespace DualStack.Toml

/-- How a table came about. -/
inductive Origin where
  /-- On the way to a table that has a header. -/
  | implied
  /-- On the way to a key with dots. -/
  | dotted
  /-- By a header of its own; the document itself counts as such. -/
  | header
  /-- Between braces. -/
  | inline
deriving DecidableEq, Repr, Inhabited

/-- A value. -/
inductive Value where
  | string (text : String)
  | integer (n : Int)
  | float (inRange : Bool)
  | boolean (b : Bool)
  | dateTime
  /-- A word that begins like an integer and is none. The document is valid where nobody reads
  it. -/
  | unreadable
  | array (items : List Value)
  /-- The tables under one double-bracketed header, the latest first. -/
  | tables (latestFirst : List Value)
  | table (origin : Origin) (entries : List (String × Value))
deriving Inhabited

/-- The keys of a table with their values. -/
abbrev Entries := List (String × Value)

/-- The value under a key. -/
def Entries.find (entries : Entries) (key : String) : Option Value :=
  (entries.lookup key)

/-- The entries with the value under a key replaced, or put behind the others. -/
def Entries.put (entries : Entries) (key : String) (value : Value) : Entries :=
  if entries.any (·.1 == key) then
    entries.map fun (name, old) => if name == key then (name, value) else (name, old)
  else entries ++ [(key, value)]

end DualStack.Toml
