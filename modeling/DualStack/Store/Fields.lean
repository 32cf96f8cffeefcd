import DualStack.Store.NameMap

/-!
# Fields of a record

The fields of one record are pairs of a name and a value, in an order and possibly with a
name repeated; the last value of a name counts. A stored hash keeps one value for each name.
The main statement is that looking a name up in a list of fields and in its hash agree.
-/

set_option autoImplicit false

namespace DualStack

/-- The fields of one record, in order. -/
abbrev Fields := List (String × String)

/-- The fields of one stored record, each name once. -/
abbrev Hash := NameMap String

namespace Fields

/-- The last value of a name. -/
def value? : Fields → String → Option String
  | [], _ => none
  | (key, value) :: rest, name =>
    (value? rest name).or (if key = name then some value else none)

/-- The last value of a name, or `default` if there is none. -/
def valueOr (fields : Fields) (name default : String) : String :=
  (fields.value? name).getD default

/-- Whether a name has a value. -/
def has (fields : Fields) (name : String) : Bool :=
  (fields.value? name).isSome

/-- The hash of a list of fields. -/
def toHash (fields : Fields) : Hash :=
  NameMap.ofPairs fields

/-- The value of a field is the first one that is found from the end of the list on. -/
theorem value?_eq_find? (fields : Fields) (name : String) :
    fields.value? name = (fields.reverse.find? (·.1 == name)).map (·.2) := by
  induction fields with
  | nil => rfl
  | cons pair rest ih =>
    obtain ⟨key, value⟩ := pair
    rw [value?, ih, List.reverse_cons, List.find?_append]
    cases rest.reverse.find? (·.1 == name) with
    | some found => simp
    | none => by_cases h : key = name <;> simp [h]

/-- A list of fields and its hash give the same value for every name. -/
theorem getElem?_toHash (fields : Fields) (name : String) :
    fields.toHash[name]? = fields.value? name := by
  rw [toHash, NameMap.getElem?_ofPairs, value?_eq_find?]

end Fields

end DualStack
