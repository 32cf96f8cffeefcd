import DualStack.Proofs.Tokens
import DualStack.Text.Blank
import DualStack.Text.Decimal
import DualStack.Text.Hexadecimal
import Mathlib.Data.List.Basic

/-!
# Written numbers are read back

A number is written in a base of at most sixteen with its most significant digit first and no
leading zero. A reader that multiplies what it has by the base and adds the next digit therefore
ends with the number, and this holds of the decimal and the hexadecimal reader alike. The digits
are hexadecimal digits, so no separator of an address or a list is among them and no blank is
trimmed off them.
-/

set_option autoImplicit false

namespace DualStack

/-- What is written one by one and read one by one is read back. -/
theorem mapM_map_eq_some {α β : Type} {write : α → β} {read : β → Option α} {as : List α}
    (h : ∀ a ∈ as, read (write a) = some a) : (as.map write).mapM read = some as := by
  induction as with
  | nil => rfl
  | cons a as ih =>
    have hlater := ih fun b hb => h b (List.mem_cons_of_mem a hb)
    rw [List.map_cons, List.mapM_cons, h a List.mem_cons_self, hlater]
    rfl

namespace Text

/-! ## Digits, from the most significant one on -/

section

variable {base : Nat} (hbase : 1 < base)
include hbase

/-- What holds of every digit, and still holds with a digit behind it, holds of every number and
the way it is written. -/
theorem toDigits_induction {motive : Nat → List Char → Prop}
    (digit : ∀ d < base, motive d [Nat.digitChar d])
    (append : ∀ n cs d, 0 < n → cs ≠ [] → d < base → motive n cs →
      motive (base * n + d) (cs ++ [Nat.digitChar d]))
    (n : Nat) : motive n (Nat.toDigits base n) := by
  induction n using Nat.strongRecOn with
  | ind n ih =>
    by_cases hn : n < base
    · rw [Nat.toDigits_of_lt_base hn]
      exact digit n hn
    · have hless : n / base < n := Nat.div_lt_self (by omega) hbase
      have hpos : 0 < n / base := Nat.div_pos (by omega) (by omega)
      have hdigit : n % base < base := Nat.mod_lt n (by omega)
      have hstep := append _ _ _ hpos Nat.toDigits_ne_nil hdigit (ih (n / base) hless)
      rwa [Nat.div_add_mod, ← Nat.toDigits_of_base_le hbase (by omega)] at hstep

/-- A reader that takes a digit as base times what it has plus the digit. -/
structure ReadsDigits (base : Nat) (read : Nat → List Char → Option Nat) : Prop where
  append : ∀ n cs ds, read n (cs ++ ds) = (read n cs).bind fun m => read m ds
  digit : ∀ n d, d < base → read n [Nat.digitChar d] = some (base * n + d)

omit hbase in
/-- The decimal reader reads digits in base ten. -/
theorem readsDigits_decimal : ReadsDigits 10 digitsFrom? where
  append n cs ds := by
    induction cs generalizing n with
    | nil => simp [digitsFrom?]
    | cons c cs ih => cases hc : digit? c <;> simp [digitsFrom?, hc, ih]
  digit n d hd := by
    have hall : ∀ d < 10, digit? (Nat.digitChar d) = some d := by decide
    simp [digitsFrom?, hall d hd]

omit hbase in
/-- The hexadecimal reader reads digits in base sixteen. -/
theorem readsDigits_hexadecimal : ReadsDigits 16 hexDigitsFrom? where
  append n cs ds := by
    induction cs generalizing n with
    | nil => simp [hexDigitsFrom?]
    | cons c cs ih => cases hc : hexDigit? c <;> simp [hexDigitsFrom?, hc, ih]
  digit n d hd := by simp [hexDigitsFrom?, hexDigit?_digitChar hd]

/-- A reader of digits ends with the number that was written, by induction on its digits. -/
theorem ReadsDigits.read_toDigits {read : Nat → List Char → Option Nat}
    (h : ReadsDigits base read) (n : Nat) : read 0 (Nat.toDigits base n) = some n := by
  refine toDigits_induction hbase (motive := fun n cs => read 0 cs = some n) ?_ ?_ n
  · intro d hd
    rw [h.digit 0 d hd, Nat.mul_zero, Nat.zero_add]
  · intro n cs d _ _ hd hcs
    rw [h.append, hcs, Option.bind_some, h.digit n d hd]

/-- Only zero is written with a zero in front. -/
theorem head?_toDigits_eq_zero_iff (n : Nat) : (Nat.toDigits base n).head? = some '0' ↔ n = 0 := by
  refine toDigits_induction hbase (motive := fun n cs => cs.head? = some '0' ↔ n = 0) ?_ ?_ n
  · intro d _
    simp
  · intro n cs d hn hne _ hcs
    have hpos : 0 < base * n := Nat.mul_pos (by omega) hn
    rw [List.head?_append_of_ne_nil _ hne, hcs]
    omega

omit hbase in
/-- A digit of a base of at most sixteen is a hexadecimal digit. -/
theorem isHexDigit_digitChar {d : Nat} (hd : d < 16) : isHexDigit (Nat.digitChar d) = true := by
  rw [isHexDigit, hexDigit?_digitChar hd]
  rfl

/-- A number in a base of at most sixteen is written in hexadecimal digits. -/
theorem isHexDigit_of_mem_toDigits (hle : base ≤ 16) {n : Nat} {c : Char}
    (h : c ∈ Nat.toDigits base n) : isHexDigit c = true := by
  have hdigit : ∀ d < base, isHexDigit (Nat.digitChar d) = true :=
    fun d hd => isHexDigit_digitChar (by omega)
  have hall : ∀ c ∈ Nat.toDigits base n, isHexDigit c = true := by
    refine toDigits_induction hbase (motive := fun _ cs => ∀ c ∈ cs, isHexDigit c = true) ?_ ?_ n
    · intro d hd
      simpa using hdigit d hd
    · intro n cs d _ _ hd hcs
      simpa [or_imp, forall_and] using ⟨hcs, hdigit d hd⟩
  exact hall c h

/-- What is no hexadecimal digit, such as a separator, is not among the digits of a number. -/
theorem notMem_toDigits (hle : base ≤ 16) {c : Char} (hc : isHexDigit c = false) (n : Nat) :
    c ∉ Nat.toDigits base n := by
  intro hmem
  rw [isHexDigit_of_mem_toDigits hbase hle hmem] at hc
  cases hc

end

/-! ## Decimal numbers -/

/-- The decimal digits of a number are read as this number. -/
theorem digits?_toDigits (n : Nat) : digits? (Nat.toDigits 10 n) = some n := by
  have hempty : (Nat.toDigits 10 n).isEmpty = false := by simp [Nat.toDigits_ne_nil]
  rw [digits?, hempty]
  exact readsDigits_decimal.read_toDigits (by omega) n

/-- A number is written by its decimal digits. -/
theorem toList_toString (n : Nat) : (toString n).toList = Nat.toDigits 10 n := by
  rw [Nat.toString_eq_ofList_toDigits, String.toList_ofList]

/-- A text without a blank is its own trimmed form. -/
theorem trimChars_eq_self {cs : List Char} (h : ∀ c ∈ cs, isBlank c = false) :
    trimChars cs = cs :=
  trimChars_of_isBare ⟨fun c hc => h c (List.mem_of_head? hc),
    fun c hc => h c (List.mem_of_getLast? hc)⟩

/-- No digit is blank. -/
theorem isBlank_of_isDigit {c : Char} (h : c.isDigit = true) : isBlank c = false := by
  have hrange : 48 ≤ c.toNat ∧ c.toNat ≤ 57 := by
    simpa [Char.isDigit, UInt32.le_iff_toNat_le] using h
  simp only [isBlank, Bool.or_eq_false_iff, Bool.and_eq_false_iff, decide_eq_false_iff_not,
    beq_eq_false_iff_ne, ne_eq]
  omega

/-- Nothing is trimmed off a written number. -/
theorem trim_toString (n : Nat) : trim (toString n) = toString n := by
  have hblank : ∀ c ∈ Nat.toDigits 10 n, isBlank c = false := fun c hc =>
    isBlank_of_isDigit (Nat.isDigit_of_mem_toDigits (by omega) (by omega) hc)
  rw [trim, toList_toString, trimChars_eq_self hblank, Nat.toString_eq_ofList_toDigits]

/-- A written number of 32 bits is read as this number. -/
theorem uint32?_toString (n : UInt32) : uint32? (toString n.toNat) = some n := by
  have hplus : '+' ∉ Nat.toDigits 10 n.toNat :=
    notMem_toDigits (by omega) (by omega) (by decide) n.toNat
  have hbody : unsigned? UInt32.size (Nat.toDigits 10 n.toNat) =
      (digits? (Nat.toDigits 10 n.toNat)).filter (· < UInt32.size) := by
    unfold unsigned?
    split
    · next rest heq => exact absurd (by rw [heq]; exact List.mem_cons_self) hplus
    · rfl
  rw [uint32?, toList_toString, hbody, digits?_toDigits, Option.filter_some,
    if_pos (decide_eq_true n.toNat_lt_size), Option.map_some, UInt32.ofNat_toNat]

end Text

end DualStack
