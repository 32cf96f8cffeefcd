import DualStack.Text.Hexadecimal

/-!
# Strings and comments in TOML

The four kinds of string, between one or three quotation marks of either sort, and the characters
that strings and comments admit. Each reader starts behind the opening marks and returns the
characters of the string with the text behind its closing marks.
-/

set_option autoImplicit false

namespace DualStack.Toml

/-- Whether a character may stand in a string or comment as it is: a tab or no control
character. -/
def isPlain (c : Char) : Bool :=
  c == '\t' || (0x20 ≤ c.toNat && c.toNat != 0x7F)

/-- The character whose number the hexadecimal digits spell. -/
def codePoint? (digits : List Char) : Option Char := do
  let n ← Text.hexDigitsFrom? 0 digits
  if h : n.isValidChar then some (Char.ofNatAux n h) else none

/-- The character of a letter after a backslash. -/
def shortEscape? : Char → Option Char
  | 'b' => some '\x08'
  | 't' => some '\t'
  | 'n' => some '\n'
  | 'f' => some '\x0c'
  | 'r' => some '\r'
  | 'e' => some '\x1b'
  | '"' => some '"'
  | '\\' => some '\\'
  | _ => none

/-- The number of hexadecimal digits that a letter after a backslash announces. -/
def escapeDigits? : Char → Option Nat
  | 'x' => some 2
  | 'u' => some 4
  | 'U' => some 8
  | _ => none

/-- The character of an escape whose backslash has been read. -/
def escape? : List Char → Option (Char × List Char)
  | [] => none
  | e :: rest =>
    match escapeDigits? e with
    | some n =>
      if rest.length < n then none
      else (codePoint? (rest.take n)).map fun c => (c, rest.drop n)
    | none => (shortEscape? e).map fun c => (c, rest)

/-- Reading an escape takes at least one character, so the readers that use it come to an end. -/
theorem length_of_escape? {cs rest : List Char} {c : Char} (h : escape? cs = some (c, rest)) :
    rest.length < cs.length := by
  cases cs with
  | nil => simp [escape?] at h
  | cons e cs =>
    simp only [escape?] at h
    split at h
    · split at h
      · simp at h
      · simp only [Option.map_eq_some_iff, Prod.mk.injEq] at h
        obtain ⟨_, _, _, rfl⟩ := h
        rw [List.length_drop, List.length_cons]
        omega
    · simp only [Option.map_eq_some_iff, Prod.mk.injEq] at h
      obtain ⟨_, _, _, rfl⟩ := h
      simp

/-- A string between single quotation marks. -/
def literal? : List Char → Option (List Char × List Char)
  | [] => none
  | '\x27' :: rest => some ([], rest)
  | c :: rest =>
    if isPlain c then (literal? rest).map fun (text, rest) => (c :: text, rest) else none

/-- A string between double quotation marks. -/
def basic? (cs : List Char) : Option (List Char × List Char) :=
  match cs with
  | [] => none
  | '"' :: rest => some ([], rest)
  | '\\' :: rest =>
    match h : escape? rest with
    | none => none
    | some (c, after) =>
      have : after.length < rest.length := length_of_escape? h
      (basic? after).map fun (text, after) => (c :: text, after)
  | c :: rest =>
    if isPlain c then (basic? rest).map fun (text, rest) => (c :: text, rest) else none
termination_by cs.length
decreasing_by all_goals (simp_wf <;> omega)

/-- What stands in front of the closing marks when the text starts with three of them: up to two
more marks belong to the string. -/
def closing (mark : Char) (behind : List Char) : List Char × List Char :=
  let extra := ((behind.take 2).takeWhile (· == mark)).length
  (List.replicate extra mark, behind.drop extra)

/-- A string between three single quotation marks. -/
def multilineLiteral? : List Char → Option (List Char × List Char)
  | [] => none
  | '\x27' :: '\x27' :: '\x27' :: rest => some (closing '\x27' rest)
  | '\r' :: '\n' :: rest =>
    (multilineLiteral? rest).map fun (text, rest) => ('\r' :: '\n' :: text, rest)
  | c :: rest =>
    if isPlain c || c == '\n' then
      (multilineLiteral? rest).map fun (text, rest) => (c :: text, rest)
    else none

/-- Where the reader of a string between three double quotation marks is. -/
inductive Place where
  | text
  /-- Behind a backslash and blanks, with a line end still to come. -/
  | lineEnd
  /-- Behind such a line end: blanks and line ends are dropped. -/
  | skipping
deriving DecidableEq, Repr

/-- A string between three double quotation marks. A backslash at the end of a line joins it with
the next line that has more than blanks. -/
def multilineBasic? (place : Place) (cs : List Char) : Option (List Char × List Char) :=
  match place, cs with
  | .skipping, ' ' :: rest | .skipping, '\t' :: rest | .skipping, '\n' :: rest =>
    multilineBasic? .skipping rest
  | .skipping, '\r' :: '\n' :: rest => multilineBasic? .skipping rest
  | .skipping, cs => multilineBasic? .text cs
  | .lineEnd, ' ' :: rest | .lineEnd, '\t' :: rest => multilineBasic? .lineEnd rest
  | .lineEnd, '\n' :: rest | .lineEnd, '\r' :: '\n' :: rest => multilineBasic? .skipping rest
  | .lineEnd, _ => none
  | .text, [] => none
  | .text, '"' :: '"' :: '"' :: rest => some (closing '"' rest)
  | .text, '\\' :: ' ' :: rest | .text, '\\' :: '\t' :: rest => multilineBasic? .lineEnd rest
  | .text, '\\' :: '\n' :: rest | .text, '\\' :: '\r' :: '\n' :: rest =>
    multilineBasic? .skipping rest
  | .text, '\\' :: rest =>
    match h : escape? rest with
    | none => none
    | some (c, after) =>
      have : after.length < rest.length := length_of_escape? h
      (multilineBasic? .text after).map fun (text, after) => (c :: text, after)
  | .text, '\r' :: '\n' :: rest =>
    (multilineBasic? .text rest).map fun (text, rest) => ('\r' :: '\n' :: text, rest)
  | .text, c :: rest =>
    if isPlain c || c == '\n' then
      (multilineBasic? .text rest).map fun (text, rest) => (c :: text, rest)
    else none
termination_by 2 * cs.length + (if place = .skipping then 1 else 0)
decreasing_by all_goals (simp_wf <;> omega)

/-- The text without a line end at its start. -/
def dropLineEnd : List Char → List Char
  | '\n' :: rest => rest
  | '\r' :: '\n' :: rest => rest
  | cs => cs

/-- A string of any kind that a value may be. -/
def string? : List Char → Option (List Char × List Char)
  | '"' :: '"' :: '"' :: rest => multilineBasic? .text (dropLineEnd rest)
  | '\x27' :: '\x27' :: '\x27' :: rest => multilineLiteral? (dropLineEnd rest)
  | '"' :: rest => basic? rest
  | '\x27' :: rest => literal? rest
  | _ => none

end DualStack.Toml
