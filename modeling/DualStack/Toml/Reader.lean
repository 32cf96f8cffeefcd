import DualStack.Toml.Text
import DualStack.Toml.Scalar
import DualStack.Toml.Document

/-!
# Reading TOML documents

A document is a sequence of lines with a key and its value, a header, or nothing, each with an
optional comment. Arrays and inline tables may run over several lines and may end with a comma;
they are nested at most eighty deep, and no key has more than eighty parts. Each reader takes what
is left of the text; since every step uses up a character, the length of the text bounds the number
of steps.
-/

set_option autoImplicit false

namespace DualStack.Toml

/-- The greatest depth to which arrays and inline tables may be nested. -/
def maxNesting : Nat := 80

/-- The greatest number of parts that a key may have. -/
def maxKeyParts : Nat := 80

/-- Whether a character is a blank within a line. -/
def isSpace (c : Char) : Bool :=
  c == ' ' || c == '\t'

/-- The text behind spaces and tabs. -/
def skipSpace (cs : List Char) : List Char :=
  cs.dropWhile isSpace

/-- The text from the end of a comment on; the comment starts the text if there is one. -/
def skipComment? : List Char → Option (List Char)
  | '#' :: rest =>
    match rest.dropWhile isPlain with
    | [] => some []
    | '\n' :: rest => some ('\n' :: rest)
    | '\r' :: '\n' :: rest => some ('\r' :: '\n' :: rest)
    | _ => none
  | cs => some cs

/-- The text from the next line on, behind blanks and a comment. -/
def endLine? (cs : List Char) : Option (List Char) := do
  match ← skipComment? (skipSpace cs) with
  | [] => some []
  | '\n' :: rest => some rest
  | '\r' :: '\n' :: rest => some rest
  | _ => none

/-- The text behind blanks, comments and line ends, in at most `fuel` lines. -/
def skipLines? : (fuel : Nat) → List Char → Option (List Char)
  | 0, _ => none
  | fuel + 1, cs =>
    match skipSpace cs with
    | '\n' :: rest => skipLines? fuel rest
    | '\r' :: '\n' :: rest => skipLines? fuel rest
    | '#' :: rest =>
      match skipComment? ('#' :: rest) with
      | some rest => skipLines? fuel rest
      | none => none
    | rest => some rest

/-- Whether a character may stand in a bare key. -/
def isBareKey (c : Char) : Bool :=
  c.isAlphanum || c == '_' || c == '-'

/-- One part of a key. -/
def keyPart? : List Char → Option (String × List Char)
  | '"' :: rest => (basic? rest).map fun (text, rest) => (String.ofList text, rest)
  | '\x27' :: rest => (literal? rest).map fun (text, rest) => (String.ofList text, rest)
  | cs =>
    let bare := cs.takeWhile isBareKey
    if bare.isEmpty then none else some (String.ofList bare, cs.drop bare.length)

/-- A key of at most `most` parts with dots between them: the path, the last part, and the text
behind them. -/
def parts? : (most : Nat) → List Char → Option (List String × String × List Char)
  | 0, _ => none
  | most + 1, cs =>
    match keyPart? (skipSpace cs) with
    | none => none
    | some (part, rest) =>
      match skipSpace rest with
      | '.' :: rest => (parts? most rest).map fun (path, last, rest) => (part :: path, last, rest)
      | rest => some ([], part, rest)

/-- A key: the path, the last part, and the text behind it. -/
def key? (cs : List Char) : Option (List String × String × List Char) :=
  parts? maxKeyParts cs

/-- Whether a character may stand in a bare value: it is no blank, starts no comment and has no
part in the structure of a document. -/
def isBareValue (c : Char) : Bool :=
  !(isSpace c || ['\n', '\r', '#', ',', '=', '[', ']', '\x7b', '\x7d'].contains c)

/-- Whether a bare value that has been interrupted by blanks goes on with a text. -/
def goesOn : List Char → Bool
  | c :: _ => isBareValue c && !(['.', '"', '\x27'].contains c)
  | [] => false

/-- The word of a bare value, and the text behind it. Blanks between two parts of the word belong
to it, as between a date and a time. -/
def word : List Char → List Char × List Char
  | [] => ([], [])
  | c :: rest =>
    if isBareValue c || (isSpace c && goesOn (skipSpace rest)) then
      let (front, rest) := word rest
      (c :: front, rest)
    else ([], c :: rest)

/-- A key of an inline table, and the text of its value. Blanks, comments and line ends may stand
on both sides of the equals sign. -/
def inlineKey? (fuel : Nat) (cs : List Char) : Option (List String × String × List Char) := do
  let (path, key, rest) ← key? cs
  match ← skipLines? fuel rest with
  | '=' :: rest => (skipLines? fuel rest).map fun rest => (path, key, rest)
  | _ => none

mutual

/-- A value that may nest `depth` times. -/
def value? : (fuel depth : Nat) → List Char → Option (Value × List Char)
  | 0, _, _ => none
  | fuel + 1, depth, cs =>
    match cs with
    | '[' :: rest =>
      if depth = 0 then none
      else (items? fuel (depth - 1) rest).map fun (items, rest) => (.array items, rest)
    | '\x7b' :: rest =>
      if depth = 0 then none
      else (inlineTable? fuel (depth - 1) [] rest).map fun (entries, rest) =>
        (.table .inline entries, rest)
    | c :: rest =>
      if c = '"' || c = '\x27' then
        (string? (c :: rest)).map fun (text, rest) => (.string (String.ofList text), rest)
      else
        let (front, rest) := word (c :: rest)
        (scalar? front).map fun value => (value, rest)
    | [] => none

/-- The items of an array from the next one on, up to the closing bracket. -/
def items? : (fuel depth : Nat) → List Char → Option (List Value × List Char)
  | 0, _, _ => none
  | fuel + 1, depth, cs =>
    match skipLines? (fuel + 1) cs with
    | none => none
    | some (']' :: rest) => some ([], rest)
    | some rest =>
      match value? fuel depth rest with
      | none => none
      | some (item, rest) =>
        match skipLines? (fuel + 1) rest with
        | some (']' :: rest) => some ([item], rest)
        | some (',' :: rest) =>
          (items? fuel depth rest).map fun (items, rest) => (item :: items, rest)
        | _ => none

/-- The entries of an inline table behind those already read, up to the closing brace. -/
def inlineTable? : (fuel depth : Nat) → Entries → List Char → Option (Entries × List Char)
  | 0, _, _, _ => none
  | fuel + 1, depth, entries, cs =>
    match skipLines? (fuel + 1) cs with
    | none => none
    | some ('\x7d' :: rest) => some (entries, rest)
    | some rest =>
      match inlineKey? (fuel + 1) rest with
      | none => none
      | some (path, key, rest) =>
        match value? fuel depth rest with
        | none => none
        | some (value, rest) =>
          match assign .inline entries path key value, skipLines? (fuel + 1) rest with
          | some entries, some ('\x7d' :: rest) => some (entries, rest)
          | some entries, some (',' :: rest) => inlineTable? fuel depth entries rest
          | _, _ => none

end

/-- The header whose opening brackets have been read, and the text behind its closing ones. -/
def header? (isList : Bool) (cs : List Char) : Option (Header × List Char) :=
  match key? cs with
  | some (path, key, ']' :: rest) =>
    if isList then (match rest with
      | ']' :: rest => some (⟨true, path, key⟩, rest)
      | _ => none)
    else some (⟨false, path, key⟩, rest)
  | _ => none

/-- The document whose first lines are a draft and whose other lines are the text. -/
def lines? : (fuel : Nat) → Draft → List Char → Option Entries
  | 0, _, _ => none
  | fuel + 1, draft, cs =>
    match skipSpace cs with
    | [] => draft.finish
    | '#' :: _ | '\n' :: _ | '\r' :: _ => do
      let rest ← endLine? cs
      lines? fuel draft rest
    | '[' :: '[' :: rest => do
      let (header, rest) ← header? true rest
      let draft ← draft.begin header
      let rest ← endLine? rest
      lines? fuel draft rest
    | '[' :: rest => do
      let (header, rest) ← header? false rest
      let draft ← draft.begin header
      let rest ← endLine? rest
      lines? fuel draft rest
    | rest =>
      match key? rest with
      | some (path, key, '=' :: rest) => do
        let (value, rest) ← value? (fuel + 1) maxNesting (skipSpace rest)
        let draft ← draft.assign path key value
        let rest ← endLine? rest
        lines? fuel draft rest
      | _ => none

/-- The entries of a document. A byte order mark in front of it is skipped. -/
def parse? (s : String) : Option Entries :=
  let cs := match s.toList with
    | '\ufeff' :: rest => rest
    | cs => cs
  lines? (cs.length + 1) Draft.start cs

end DualStack.Toml
