import DualStack.Json.Value

/-!
# Reading JSON

A strict reader: the whole text must be one value with blanks around its tokens, no comma may
trail, no control character may stand in a string, and an escape must be one of the format.
Whether the escapes of a string spell a text is left to `Json.text?`. Each reader takes what is
left of the text and returns a value with what is left behind it; the values are nested at most
as deep as the text is long, which bounds the recursion.

There is no other limit on the nesting. A reader that builds values level by level may refuse one
below level 128, but no message has more than two levels that are looked at, and a member that is
passed over is skipped without counting levels, so such a limit is never reached.
-/

set_option autoImplicit false

namespace DualStack.Json

/-- The blanks between tokens. -/
def isSpace (c : Char) : Bool :=
  c == ' ' || c == '\n' || c == '\t' || c == '\r'

/-- The text from the next token on. -/
def skipSpace (cs : List Char) : List Char :=
  cs.dropWhile isSpace

/-- The body of a string literal whose opening quotation mark has been read. -/
def literal? : List Char → Option (List Char × List Char)
  | [] => none
  | '"' :: rest => some ([], rest)
  | '\\' :: 'u' :: a :: b :: c :: d :: rest =>
    if [a, b, c, d].all Text.isHexDigit then
      (literal? rest).map fun (body, rest) => ('\\' :: 'u' :: a :: b :: c :: d :: body, rest)
    else none
  | '\\' :: e :: rest =>
    if (shortEscape? e).isSome then
      (literal? rest).map fun (body, rest) => ('\\' :: e :: body, rest)
    else none
  | c :: rest =>
    if c = '\\' ∨ c.toNat < 0x20 then none
    else (literal? rest).map fun (body, rest) => (c :: body, rest)

/-- The digits at the start and the text behind them. -/
def digits (cs : List Char) : List Char × List Char :=
  (cs.takeWhile Char.isDigit, cs.dropWhile Char.isDigit)

/-- One or more digits and the text behind them. -/
def digits1? (cs : List Char) : Option (List Char × List Char) :=
  if (digits cs).1.isEmpty then none else some (digits cs)

/-- The digits before the decimal point: a single zero, or digits that do not start with one. -/
def integerPart? (cs : List Char) : Option (List Char × List Char) :=
  match cs with
  | '0' :: c :: _ => if c.isDigit then none else some (['0'], cs.drop 1)
  | _ => digits1? cs

/-- An optional fraction. -/
def fraction? : List Char → Option (List Char × List Char)
  | '.' :: rest => (digits1? rest).map fun (ds, rest) => ('.' :: ds, rest)
  | cs => some ([], cs)

/-- The sign at the start, if there is one. -/
def sign : List Char → List Char × List Char
  | '+' :: rest => (['+'], rest)
  | '-' :: rest => (['-'], rest)
  | cs => ([], cs)

/-- An optional exponent. -/
def exponent? : List Char → Option (List Char × List Char)
  | c :: rest =>
    if c = 'e' ∨ c = 'E' then
      let (s, rest) := sign rest
      (digits1? rest).map fun (ds, rest) => (c :: s ++ ds, rest)
    else some ([], c :: rest)
  | [] => some ([], [])

/-- A number. -/
def number? (cs : List Char) : Option (List Char × List Char) := do
  let (minus, cs) := match cs with
    | '-' :: rest => (['-'], rest)
    | _ => ([], cs)
  let (whole, cs) ← integerPart? cs
  let (part, cs) ← fraction? cs
  let (power, cs) ← exponent? cs
  some (minus ++ whole ++ part ++ power, cs)

/-- What follows a word of the format. -/
def word? (word : List Char) (value : Json) (cs : List Char) : Option (Json × List Char) :=
  if word.isPrefixOf cs then some (value, cs.drop word.length) else none

mutual

/-- A value, at most `depth` steps of nesting or listing deep. -/
def value? : (depth : Nat) → List Char → Option (Json × List Char)
  | 0, _ => none
  | depth + 1, cs =>
    match skipSpace cs with
    | '"' :: rest => (literal? rest).map fun (body, rest) => (string body, rest)
    | '[' :: rest =>
      match skipSpace rest with
      | ']' :: rest => some (array [], rest)
      | rest => (items? depth rest).map fun (items, rest) => (array items, rest)
    | '\x7b' :: rest =>
      match skipSpace rest with
      | '\x7d' :: rest => some (object [], rest)
      | rest => (members? depth rest).map fun (members, rest) => (object members, rest)
    | 'n' :: rest => word? "ull".toList null rest
    | 't' :: rest => word? "rue".toList (bool true) rest
    | 'f' :: rest => word? "alse".toList (bool false) rest
    | rest => (number? rest).map fun (digits, rest) => (number digits, rest)

/-- The items of an array from the first or next one on, up to the closing bracket. -/
def items? : (depth : Nat) → List Char → Option (List Json × List Char)
  | 0, _ => none
  | depth + 1, cs =>
    match value? depth cs with
    | none => none
    | some (item, rest) =>
      match skipSpace rest with
      | ']' :: rest => some ([item], rest)
      | ',' :: rest => (items? depth rest).map fun (items, rest) => (item :: items, rest)
      | _ => none

/-- The members of an object from the first or next one on, up to the closing brace. -/
def members? : (depth : Nat) → List Char → Option (List (List Char × Json) × List Char)
  | 0, _ => none
  | depth + 1, cs =>
    match skipSpace cs with
    | '"' :: rest =>
      match literal? rest with
      | none => none
      | some (name, rest) =>
        match skipSpace rest with
        | ':' :: rest =>
          match value? depth rest with
          | none => none
          | some (value, rest) =>
            match skipSpace rest with
            | '\x7d' :: rest => some ([(name, value)], rest)
            | ',' :: rest =>
              (members? depth rest).map fun (members, rest) => ((name, value) :: members, rest)
            | _ => none
        | _ => none
    | _ => none

end

/-- The value of a whole text. -/
def parse? (s : String) : Option Json :=
  match value? (s.toList.length + 1) s.toList with
  | some (value, rest) => if (skipSpace rest).isEmpty then some value else none
  | none => none

end DualStack.Json
