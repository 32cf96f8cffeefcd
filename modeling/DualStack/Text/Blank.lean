/-!
# Blank characters and trimming

The white space of Unicode (property White_Space), and a text without the white space at
its two ends. The zero-width characters U+200B and U+FEFF and the vowel separator U+180E
are not white space. The statements say that a trimmed text has no blank at either end.
-/

set_option autoImplicit false

namespace DualStack.Text

/-- The characters with the Unicode property White_Space. -/
def isBlank (c : Char) : Bool :=
  let n := c.toNat
  (9 ≤ n && n ≤ 13) || n == 0x20 || n == 0x85 || n == 0xA0 || n == 0x1680 ||
    (0x2000 ≤ n && n ≤ 0x200A) || n == 0x2028 || n == 0x2029 || n == 0x202F || n == 0x205F ||
    n == 0x3000

/-- The characters from the first one that is not blank on. -/
def dropBlank (cs : List Char) : List Char :=
  cs.dropWhile isBlank

/-- The characters between the first and the last one that is not blank. -/
def trimChars (cs : List Char) : List Char :=
  (dropBlank (dropBlank cs).reverse).reverse

/-- The text without the blanks at its two ends. -/
def trim (s : String) : String :=
  String.ofList (trimChars s.toList)

/-- What remains after dropping blanks does not start with one. -/
theorem head?_dropBlank (cs : List Char) : (dropBlank cs).head?.all (isBlank · = false) := by
  induction cs with
  | nil => rfl
  | cons c cs ih =>
    by_cases h : isBlank c = true
    · simpa [dropBlank, h] using ih
    · simp [dropBlank, h]

/-- A text that does not start with a blank loses nothing at its start. -/
theorem dropBlank_eq_self {cs : List Char} (h : cs.head?.all (isBlank · = false)) :
    dropBlank cs = cs := by
  cases cs with
  | nil => rfl
  | cons c cs => simp_all [dropBlank]

/-- A trimmed text does not start with a blank. -/
theorem head?_trimChars (cs : List Char) : (trimChars cs).head?.all (isBlank · = false) := by
  have hstart : trimChars cs <+: dropBlank cs := by
    rw [trimChars, ← List.reverse_suffix, List.reverse_reverse]
    exact List.dropWhile_suffix _
  obtain ⟨rest, hrest⟩ := hstart
  have hhead := head?_dropBlank cs
  rw [← hrest] at hhead
  cases htrim : trimChars cs with
  | nil => rfl
  | cons c trimmed => simpa [htrim] using hhead

/-- A trimmed text does not end with a blank. -/
theorem getLast?_trimChars (cs : List Char) :
    (trimChars cs).getLast?.all (isBlank · = false) := by
  rw [trimChars, List.getLast?_reverse]
  exact head?_dropBlank _

end DualStack.Text
