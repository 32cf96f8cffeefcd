import DualStack.Toml.Value
import DualStack.Text.Split
import DualStack.Text.Hexadecimal

/-!
# Bare values in TOML

Truth values, integers in four bases, floating-point numbers, and dates and times. A bare value is a
whole word, with the blanks between its parts. A word that is none of these is an error, at once or,
if it begins like an integer, where it is read.
-/

set_option autoImplicit false

namespace DualStack.Toml

/-- The digits of a number without the underscores between them. Every underscore must have a
digit on either side. -/
def joined? (isDigit : Char → Bool) (cs : List Char) : Option (List Char) :=
  let groups := Text.splitOn '_' cs
  if groups.all fun group => !group.isEmpty && group.all isDigit then some groups.flatten
  else none

/-- The value of digits in a base of at most sixteen. -/
def valueOf (base : Nat) (digits : List Char) : Nat :=
  digits.foldl (fun n c => base * n + digitValue c) 0
where
  /-- The value of one digit. -/
  digitValue (c : Char) : Nat :=
    if c.isDigit then c.toNat - '0'.toNat else c.toLower.toNat - 'a'.toNat + 10

/-- The digits of a decimal number, which has no needless zero in front. -/
def wholePart? (cs : List Char) : Option (List Char) :=
  match joined? Char.isDigit cs with
  | some digits => if digits.head? = some '0' ∧ digits.length ≠ 1 then none else some digits
  | none => none

/-- The sign of a number, and the number without it. -/
def signOf : List Char → Option Bool × List Char
  | '+' :: rest => (some false, rest)
  | '-' :: rest => (some true, rest)
  | cs => (none, cs)

/-- An integer. Only decimal ones have a sign. -/
def integer? (cs : List Char) : Option Int :=
  match cs with
  | '0' :: 'x' :: rest => (joined? Text.isHexDigit rest).map fun digits => (valueOf 16 digits : Int)
  | '0' :: 'o' :: rest =>
    (joined? (fun c => '0' ≤ c && c ≤ '7') rest).map fun digits => (valueOf 8 digits : Int)
  | '0' :: 'b' :: rest =>
    (joined? (fun c => c == '0' || c == '1') rest).map fun digits => (valueOf 2 digits : Int)
  | _ =>
    let (negative, rest) := signOf cs
    (wholePart? rest).map fun digits =>
      if negative = some true then -(valueOf 10 digits : Int) else (valueOf 10 digits : Int)

/-- The least number that is rounded to no finite double, `2 ^ 1024 - 2 ^ 970`. -/
def doubleLimit : Nat := (1 <<< 1024) - (1 <<< 970)

/-- Whether `mantissa · 10 ^ exponent` is rounded to a finite double. Numbers far from the limit
are told apart by their count of digits. -/
def isFinite (mantissa : Nat) (exponent : Int) : Bool :=
  let magnitude := (Nat.toDigits 10 mantissa).length + exponent
  if mantissa = 0 || magnitude < 300 then true
  else if 320 < magnitude then false
  else if 0 ≤ exponent then mantissa * Nat.pow 10 exponent.toNat < doubleLimit
  else mantissa < doubleLimit * Nat.pow 10 (-exponent).toNat

/-- An exponent with an optional sign. -/
def exponent? (cs : List Char) : Option Int :=
  let (negative, rest) := signOf cs
  (joined? Char.isDigit rest).map fun digits =>
    if negative = some true then -(valueOf 10 digits : Int) else (valueOf 10 digits : Int)

/-- The part of a number behind its exponent mark, if it has one. -/
def cutExponent (cs : List Char) : List Char × Option (List Char) :=
  match Text.cutFirst 'e' (cs.map fun c => if c = 'E' then 'e' else c) with
  | some (left, right) => (left, some right)
  | none => (cs, none)

/-- A floating-point number, by whether it is in the range of a double. -/
def float? (cs : List Char) : Option Bool :=
  let (_, unsigned) := signOf cs
  if unsigned = "inf".toList || unsigned = "nan".toList then some true
  else do
    let (front, power) := cutExponent unsigned
    let exponent ← match power with
      | some power => exponent? power
      | none => some 0
    match Text.cutFirst '.' front with
    | some (whole, fraction) => do
      let whole ← wholePart? whole
      let fraction ← joined? Char.isDigit fraction
      some (isFinite (valueOf 10 (whole ++ fraction)) (exponent - fraction.length))
    | none => do
      let whole ← wholePart? front
      if power.isNone then none
      else some (isFinite (valueOf 10 whole) exponent)

/-- The value of exactly `n` decimal digits at the start, and what follows them. -/
def digits? (n : Nat) (cs : List Char) : Option (Nat × List Char) :=
  let front := cs.take n
  if front.length = n && front.all Char.isDigit then some (valueOf 10 front, cs.drop n) else none

/-- What follows a character at the start. -/
def expect? (c : Char) : List Char → Option (List Char)
  | d :: rest => if d = c then some rest else none
  | [] => none

/-- The number of days of a month. -/
def daysOf (year month : Nat) : Nat :=
  if month = 2 then
    if year % 4 = 0 && (year % 100 != 0 || year % 400 = 0) then 29 else 28
  else if [4, 6, 9, 11].contains month then 30
  else 31

/-- What follows a date. -/
def date? (cs : List Char) : Option (List Char) := do
  let (year, cs) ← digits? 4 cs
  let cs ← expect? '-' cs
  let (month, cs) ← digits? 2 cs
  let cs ← expect? '-' cs
  let (day, cs) ← digits? 2 cs
  if 1 ≤ month && month ≤ 12 && 1 ≤ day && day ≤ daysOf year month then some cs else none

/-- What follows the fraction of a second, if there is one. -/
def fraction? : List Char → Option (List Char)
  | '.' :: rest =>
    if (rest.takeWhile Char.isDigit).isEmpty then none else some (rest.dropWhile Char.isDigit)
  | cs => some cs

/-- What follows a time of day, whose seconds may be left out. -/
def time? (cs : List Char) : Option (List Char) := do
  let (hour, cs) ← digits? 2 cs
  let cs ← expect? ':' cs
  let (minute, cs) ← digits? 2 cs
  if 23 < hour || 59 < minute then none
  else match cs with
  | ':' :: rest => do
    let (second, rest) ← digits? 2 rest
    if 60 < second then none else fraction? rest
  | _ => some cs

/-- What follows the distance from universal time, if it is given. -/
def offset? : List Char → Option (List Char)
  | 'Z' :: rest => some rest
  | 'z' :: rest => some rest
  | c :: rest =>
    if c = '+' || c = '-' then do
      let (hour, rest) ← digits? 2 rest
      let rest ← expect? ':' rest
      let (minute, rest) ← digits? 2 rest
      if 23 < hour || 59 < minute then none else some rest
    else some (c :: rest)
  | [] => some []

/-- Whether a word is a date, a time, or both, with an offset only for both. -/
def isDateTime (cs : List Char) : Bool :=
  match date? cs with
  | some [] => true
  | some (c :: rest) =>
    (c == 'T' || c == 't' || c == ' ') && ((time? rest).bind offset?).any List.isEmpty
  | none => (time? cs).any List.isEmpty

/-- Whether every underscore stands between two characters that are digits in some base. -/
def underscoresBetweenDigits (cs : List Char) : Bool :=
  let groups := Text.splitOn '_' cs
  groups.tail.all (fun group => group.head?.any Text.isHexDigit) &&
    groups.dropLast.all (fun group => group.getLast?.any Text.isHexDigit)

/-- Whether a word begins like an integer although it need not be one. It is the mark of a base
with no digits behind it, or it has decimal digits up to its first underscore, and neither a
decimal point nor an exponent mark nor a space, though it may have tabs. -/
def beginsLikeInteger (cs : List Char) : Bool :=
  if ["0x".toList, "0o".toList, "0b".toList].contains cs then true
  else
    let (_, unsigned) := signOf cs
    let digits := unsigned.takeWhile (· != '_')
    !digits.isEmpty && digits.all Char.isDigit && digits.head? != some '0' &&
      !unsigned.any (['.', 'e', 'E', ' '].contains ·) && underscoresBetweenDigits unsigned

/-- The value of a word. -/
def scalar? (cs : List Char) : Option Value :=
  if cs = "true".toList then some (.boolean true)
  else if cs = "false".toList then some (.boolean false)
  else match integer? cs with
  | some n => some (.integer n)
  | none =>
    match float? cs with
    | some inRange => some (.float inRange)
    | none =>
      if isDateTime cs then some .dateTime
      else if beginsLikeInteger cs then some .unreadable
      else none

end DualStack.Toml
