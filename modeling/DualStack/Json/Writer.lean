import DualStack.Json.Value

/-!
# Writing JSON

Two written forms of a value: the compact one without any blank, and the indented one with
two spaces for each level, one member or item to a line, and a blank after each colon.
-/

set_option autoImplicit false

namespace DualStack.Json

/-- A literal between quotation marks. -/
def inQuotes (body : List Char) : List Char :=
  '"' :: body ++ ['"']

mutual

/-- The compact form of a value. -/
def compact : Json → List Char
  | null => "null".toList
  | bool true => "true".toList
  | bool false => "false".toList
  | number digits => digits
  | string body => inQuotes body
  | array items => '[' :: compactItems items ++ [']']
  | object members => '\x7b' :: compactMembers members ++ ['\x7d']

/-- The compact form of items, commas between them. -/
def compactItems : List Json → List Char
  | [] => []
  | [item] => compact item
  | item :: items => compact item ++ ',' :: compactItems items

/-- The compact form of members, commas between them. -/
def compactMembers : List (List Char × Json) → List Char
  | [] => []
  | [(name, value)] => inQuotes name ++ ':' :: compact value
  | (name, value) :: members =>
    inQuotes name ++ ':' :: compact value ++ ',' :: compactMembers members

end

/-- The start of a line at an indentation level. -/
def newLine (level : Nat) : List Char :=
  '\n' :: List.replicate (2 * level) ' '

mutual

/-- The indented form of a value that starts at a level. -/
def indented (level : Nat) : Json → List Char
  | array [] => ['[', ']']
  | array (item :: items) =>
    '[' :: indentedItems (level + 1) (item :: items) ++ newLine level ++ [']']
  | object [] => ['\x7b', '\x7d']
  | object (member :: members) =>
    '\x7b' :: indentedMembers (level + 1) (member :: members) ++ newLine level ++ ['\x7d']
  | null => "null".toList
  | bool true => "true".toList
  | bool false => "false".toList
  | number digits => digits
  | string body => inQuotes body

/-- The indented form of items, each on a line of its own. -/
def indentedItems (level : Nat) : List Json → List Char
  | [] => []
  | [item] => newLine level ++ indented level item
  | item :: items => newLine level ++ indented level item ++ ',' :: indentedItems level items

/-- The indented form of members, each on a line of its own. -/
def indentedMembers (level : Nat) : List (List Char × Json) → List Char
  | [] => []
  | [(name, value)] => newLine level ++ inQuotes name ++ [':', ' '] ++ indented level value
  | (name, value) :: members =>
    newLine level ++ inQuotes name ++ [':', ' '] ++ indented level value ++
      ',' :: indentedMembers level members

end

/-- The compact text of a value. -/
def render (value : Json) : String :=
  String.ofList (compact value)

/-- The indented text of a value. -/
def renderIndented (value : Json) : String :=
  String.ofList (indented 0 value)

end DualStack.Json
