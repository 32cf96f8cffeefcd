import DualStack.Net.ParseError
import DualStack.Text.Split

/-!
# Sets of address families

The set of IP versions that a record enables, written as version numbers between commas. Every
token of a text must be a version number, with blanks around it allowed; repetitions and order
do not matter. A text that is read never gives the empty set.
-/

set_option autoImplicit false

namespace DualStack

/-- A set of address families: for each family, whether it is in the set. -/
abbrev FamilySet := PerFamily Bool

namespace FamilySet

/-- The set without a family. -/
def empty : FamilySet := ⟨false, false⟩

/-- The set of both families. -/
def full : FamilySet := ⟨true, true⟩

/-- Whether no family is in the set. -/
def isEmpty (families : FamilySet) : Bool :=
  !families.ipv4 && !families.ipv6

/-- The set of the given families. -/
def ofList (families : List Family) : FamilySet :=
  ⟨families.contains .ipv4, families.contains .ipv6⟩

/-- The families that version numbers name, up to the first token that is none. -/
def familiesOf : List String → Except ParseError (List Family)
  | [] => .ok []
  | token :: tokens => do
    let family ← Family.ofVersion token
    let families ← familiesOf tokens
    pure (family :: families)

/-- The set of a text of version numbers between commas. -/
def parse (s : String) : Except ParseError FamilySet := do
  let families ← familiesOf (Text.pieces ',' s)
  pure (ofList families)

/-- The families in the set, IPv4 first. -/
def toFamilies (families : FamilySet) : List Family :=
  Family.all.filter families.get

/-- The written form: version numbers between commas. -/
def render (families : FamilySet) : String :=
  ",".intercalate (families.toFamilies.map fun family => toString family.version)

/-- The set of a list has a family exactly if the family is in the list. -/
@[simp]
theorem get_ofList (families : List Family) (family : Family) :
    (ofList families).get family = families.contains family := by
  cases family <;> rfl

end FamilySet

end DualStack
