/-!
# Address families

IPv4 and IPv6, with the two spellings that tables use for them: the name in record keys and
the version number in lists such as "4,6". `PerFamily` is a pair of values, one for each
family; it is read and changed by family, and a list of it has IPv4 first.
-/

set_option autoImplicit false

namespace DualStack

/-- An address family. -/
inductive Family where
  | ipv4
  | ipv6
deriving DecidableEq, Repr, Inhabited

namespace Family

/-- Both families, IPv4 first. -/
def all : List Family := [ipv4, ipv6]

/-- The name used in record keys. -/
def name : Family → String
  | ipv4 => "ipv4"
  | ipv6 => "ipv6"

/-- The IP version number. -/
def version : Family → Nat
  | ipv4 => 4
  | ipv6 => 6

/-- The number of bits of an address, which is also the greatest prefix length. -/
def width : Family → Nat
  | ipv4 => 32
  | ipv6 => 128

/-- The family of a name, compared exactly. -/
def ofName? (s : String) : Option Family :=
  if s = "ipv4" then some ipv4
  else if s = "ipv6" then some ipv6
  else none

/-- The family of a version number, compared exactly. -/
def ofVersion? (s : String) : Option Family :=
  if s = "4" then some ipv4
  else if s = "6" then some ipv6
  else none

/-- There is no family besides the two that are listed. -/
theorem mem_all (family : Family) : family ∈ all := by
  cases family <;> decide

/-- The name of a family is read as this family. -/
theorem ofName?_name (family : Family) : ofName? family.name = some family := by
  cases family <;> decide

/-- A text names a family exactly when it is that family's name. -/
theorem ofName?_eq_some_iff {s : String} {family : Family} :
    ofName? s = some family ↔ s = family.name := by
  constructor
  · intro h
    unfold ofName? at h
    split at h
    · cases h; assumption
    · split at h
      · cases h; assumption
      · cases h
  · rintro rfl
    exact ofName?_name family

end Family

/-- One value for each family. -/
structure PerFamily (α : Type) where
  ipv4 : α
  ipv6 : α
deriving DecidableEq, Repr, Inhabited

namespace PerFamily

variable {α β : Type}

/-- The same value for both families. -/
def both (a : α) : PerFamily α := ⟨a, a⟩

/-- The value for a family. -/
def get (p : PerFamily α) : Family → α
  | .ipv4 => p.ipv4
  | .ipv6 => p.ipv6

/-- The pair with the value for one family changed. -/
def modify (p : PerFamily α) (family : Family) (f : α → α) : PerFamily α :=
  match family with
  | .ipv4 => { p with ipv4 := f p.ipv4 }
  | .ipv6 => { p with ipv6 := f p.ipv6 }

/-- The pair with the value for one family replaced. -/
def set (p : PerFamily α) (family : Family) (a : α) : PerFamily α :=
  p.modify family fun _ => a

/-- Both values under a function. -/
def map (f : α → β) (p : PerFamily α) : PerFamily β :=
  ⟨f p.ipv4, f p.ipv6⟩

/-- Both values with their families, IPv4 first. -/
def toList (p : PerFamily α) : List (Family × α) :=
  Family.all.map fun family => (family, p.get family)

/-- A pair is determined by its values for the two families. -/
@[ext]
theorem ext_get {p q : PerFamily α} (h : ∀ family, p.get family = q.get family) : p = q := by
  cases p
  cases q
  have h4 := h .ipv4
  have h6 := h .ipv6
  simp_all [get]

/-- The value of a mapped pair for a family is the function applied to its value. -/
@[simp]
theorem get_map (f : α → β) (p : PerFamily α) (family : Family) :
    (p.map f).get family = f (p.get family) := by
  cases family <;> rfl

/-- A change for one family leaves the value for the other as it was. -/
theorem get_modify (p : PerFamily α) (changed family : Family) (f : α → α) :
    (p.modify changed f).get family =
      if family = changed then f (p.get family) else p.get family := by
  cases changed <;> cases family <;> rfl

end PerFamily

end DualStack
