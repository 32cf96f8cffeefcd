import DualStack.Net.V4
import DualStack.Text.Hexadecimal

/-!
# The text of IPv6 addresses

An IPv6 address is a number of 128 bits, seen as eight groups of 16 bits. Groups are read as
one to four hexadecimal digits of either case between colons; one double colon may stand for
one or more zero groups, and the last two groups may be given as an IPv4 address. The written
form has lower-case digits without leading zeros and a double colon for the longest run of two
or more zero groups, the first of several; an IPv4-mapped address keeps its dotted tail.
-/

set_option autoImplicit false

namespace DualStack.V6

/-- The value of a group: one to four hexadecimal digits. -/
def group? (cs : List Char) : Option Nat :=
  if 1 ≤ cs.length ∧ cs.length ≤ 4 then Text.hexDigitsFrom? 0 cs else none

/-- The two groups of an IPv4 address. -/
def mappedGroups (bits : BitVec 32) : List Nat :=
  [bits.toNat / 65536, bits.toNat % 65536]

/-- The groups of pieces that stood between colons, of which the last may be an IPv4 address. -/
def groupsWithTail? : List (List Char) → Option (List Nat)
  | [] => some []
  | [piece] =>
    match V4.parse? piece with
    | some bits => some (mappedGroups bits)
    | none => (group? piece).map ([·])
  | piece :: pieces => do
    let group ← group? piece
    let groups ← groupsWithTail? pieces
    some (group :: groups)

/-- The pieces between colons; the empty text has none. -/
def piecesOf (cs : List Char) : List (List Char) :=
  if cs.isEmpty then [] else Text.splitOn ':' cs

/-- The eight groups of a text. -/
def groups? (cs : List Char) : Option (List Nat) :=
  match Text.cutAt [':', ':'] cs with
  | none => (groupsWithTail? (piecesOf cs)).filter (·.length = 8)
  | some (left, right) => do
    let head ← (piecesOf left).mapM group?
    let tail ← groupsWithTail? (piecesOf right)
    if head.length + tail.length < 8 then
      some (head ++ List.replicate (8 - (head.length + tail.length)) 0 ++ tail)
    else none

/-- The number whose groups are given, most significant first. -/
def ofGroups (groups : List Nat) : BitVec 128 :=
  BitVec.ofNat 128 (groups.foldl (fun n group => n * 65536 + group) 0)

/-- The address of a text. -/
def parse? (cs : List Char) : Option (BitVec 128) :=
  (groups? cs).map ofGroups

/-- The eight groups, most significant first. -/
def groups (bits : BitVec 128) : List Nat :=
  [112, 96, 80, 64, 48, 32, 16, 0].map fun shift => (bits.toNat >>> shift) % 65536

/-- The number of zeros at the start. -/
def leadingZeros (groups : List Nat) : Nat :=
  (groups.takeWhile (· == 0)).length

/-- Start and length of the longest run of zeros, the first of several. -/
def longestZeros : List Nat → Nat × Nat
  | [] => (0, 0)
  | group :: groups =>
    let here := leadingZeros (group :: groups)
    let (start, length) := longestZeros groups
    if length ≤ here then (0, here) else (start + 1, length)

/-- Groups in hexadecimal between colons. -/
def renderGroups (groups : List Nat) : List Char :=
  [':'].intercalate (groups.map (Nat.toDigits 16))

/-- The low 32 bits of an address that maps an IPv4 address. -/
def mapped? (bits : BitVec 128) : Option (BitVec 32) :=
  if bits.toNat >>> 32 = 0xFFFF then some (bits.setWidth 32) else none

/-- The written form of an address. -/
def render (bits : BitVec 128) : List Char :=
  match mapped? bits with
  | some low => "::ffff:".toList ++ V4.render low
  | none =>
    let gs := groups bits
    let (start, length) := longestZeros gs
    if 2 ≤ length then
      renderGroups (gs.take start) ++ [':', ':'] ++ renderGroups (gs.drop (start + length))
    else renderGroups gs

end DualStack.V6
