import DualStack.Text.Unprintable
import DualStack.Text.Extending

/-!
# Texts shown in quotes

The form in which messages show a text that an operator typed: between double quotes, with
a backslash before quotes and backslashes, short names for NUL, tab and line ends, and every
character that has no glyph of its own named by its number. Single quotes stand as they are.
-/

set_option autoImplicit false

namespace DualStack.Text

/-- Whether a code point lies in one of the runs. -/
def inRanges (n : Nat) (ranges : List (Nat × Nat)) : Bool :=
  ranges.any fun (first, last) => first ≤ n && n ≤ last

/-- Whether a character can be shown as it is: it has a glyph and does not attach to the
character before it. -/
def isPlain (c : Char) : Bool :=
  let n := c.toNat
  (0x20 ≤ n && n < 0x7F) ||
    !(n < 0x7F || inRanges n unprintableRanges || inRanges n extendingRanges)

/-- The written form of one character between double quotes. -/
def quotedChar (c : Char) : List Char :=
  match c with
  | '\x00' => ['\\', '0']
  | '\t' => ['\\', 't']
  | '\r' => ['\\', 'r']
  | '\n' => ['\\', 'n']
  | '"' => ['\\', '"']
  | '\\' => ['\\', '\\']
  | c => if isPlain c then [c] else "\\u\x7b".toList ++ Nat.toDigits 16 c.toNat ++ ['\x7d']

/-- The text between double quotes. -/
def quoted (s : String) : String :=
  String.ofList ('"' :: s.toList.flatMap quotedChar ++ ['"'])

end DualStack.Text
