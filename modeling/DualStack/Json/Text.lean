import DualStack.Text.Hexadecimal

/-!
# Texts in JSON

The body of a JSON string literal and the text it stands for. Writing escapes the quotation
mark, the backslash and the control characters below U+0020 and nothing else. Reading knows
every escape of the format, joins surrogate pairs and refuses a half of one. The main
statement is that a written body stands for the text it was written from.
-/

set_option autoImplicit false

namespace DualStack.Json

/-- The written form of one character in a string literal. -/
def escapeChar (c : Char) : List Char :=
  match c with
  | '"' => ['\\', '"']
  | '\\' => ['\\', '\\']
  | '\x08' => ['\\', 'b']
  | '\x0c' => ['\\', 'f']
  | '\n' => ['\\', 'n']
  | '\r' => ['\\', 'r']
  | '\t' => ['\\', 't']
  | c =>
    if c.toNat < 0x20 then
      ['\\', 'u', '0', '0', Nat.digitChar (c.toNat / 16), Nat.digitChar (c.toNat % 16)]
    else [c]

/-- The body of the string literal for a text. -/
def escape (cs : List Char) : List Char :=
  cs.flatMap escapeChar

/-- The value of four hexadecimal digits. -/
def unit? (a b c d : Char) : Option Nat :=
  Text.hexDigitsFrom? 0 [a, b, c, d]

/-- The character named by the letter after a backslash. -/
def shortEscape? : Char → Option Char
  | '"' => some '"'
  | '\\' => some '\\'
  | '/' => some '/'
  | 'b' => some '\x08'
  | 'f' => some '\x0c'
  | 'n' => some '\n'
  | 'r' => some '\r'
  | 't' => some '\t'
  | _ => none

/-- Whether a 16-bit unit is the first half of a surrogate pair. -/
def isHighHalf (n : Nat) : Bool := 0xD800 ≤ n && n < 0xDC00

/-- Whether a 16-bit unit is the second half of a surrogate pair. -/
def isLowHalf (n : Nat) : Bool := 0xDC00 ≤ n && n < 0xE000

/-- The character of a surrogate pair. -/
def joinHalves (high low : Nat) : Char :=
  Char.ofNat (0x10000 + (high - 0xD800) * 0x400 + (low - 0xDC00))

/-- The text that a body stands for, if its escapes are well formed. -/
def unescape? : List Char → Option (List Char)
  | [] => some []
  | '\\' :: 'u' :: a :: b :: c :: d :: rest =>
    match unit? a b c d with
    | none => none
    | some n =>
      if isHighHalf n then
        match rest with
        | '\\' :: 'u' :: a' :: b' :: c' :: d' :: rest' =>
          match unit? a' b' c' d' with
          | none => none
          | some m =>
            if isLowHalf m then (unescape? rest').map (joinHalves n m :: ·) else none
        | _ => none
      else if isLowHalf n then none
      else (unescape? rest).map (Char.ofNat n :: ·)
  | '\\' :: e :: rest =>
    match shortEscape? e with
    | some c => (unescape? rest).map (c :: ·)
    | none => none
  | c :: rest =>
    if c = '\\' ∨ c = '"' ∨ c.toNat < 0x20 then none else (unescape? rest).map (c :: ·)

/-- A control character is read back from its two hexadecimal digits. -/
theorem unit?_of_lt {n : Nat} (h : n < 0x20) :
    unit? '0' '0' (Nat.digitChar (n / 16)) (Nat.digitChar (n % 16)) = some n := by
  have all : ∀ n < 0x20,
      unit? '0' '0' (Nat.digitChar (n / 16)) (Nat.digitChar (n % 16)) = some n := by decide
  exact all n h

/-- The written form of a character stands for it, whatever follows. -/
theorem unescape?_escapeChar_append (c : Char) (rest : List Char) :
    unescape? (escapeChar c ++ rest) = (unescape? rest).map (c :: ·) := by
  unfold escapeChar
  split
  case h_8 hquote hbackslash _ _ _ _ _ =>
    by_cases hcontrol : c.toNat < 0x20
    · have hhigh : isHighHalf c.toNat = false := by
        simp only [isHighHalf, Bool.and_eq_false_iff, decide_eq_false_iff_not]
        omega
      have hlow : isLowHalf c.toNat = false := by
        simp only [isLowHalf, Bool.and_eq_false_iff, decide_eq_false_iff_not]
        omega
      simp [hcontrol, unescape?, unit?_of_lt hcontrol, hhigh, hlow, Char.ofNat_toNat]
    · simp only [hcontrol, ↓reduceIte, List.cons_append, List.nil_append]
      rw [unescape?]
      · have hq : c ≠ '"' := hquote
        have hb : c ≠ '\\' := hbackslash
        simp [hq, hb, hcontrol]
      · exact fun _ _ _ _ _ h => absurd h hbackslash
      · exact fun _ _ h => absurd h hbackslash
  all_goals simp [unescape?, shortEscape?]

/-- A written body stands for the text it was written from. -/
theorem unescape?_escape (cs : List Char) : unescape? (escape cs) = some cs := by
  induction cs with
  | nil => rfl
  | cons c cs ih =>
    rw [escape, List.flatMap_cons, unescape?_escapeChar_append, ← escape, ih]
    rfl

end DualStack.Json
