import Std.Data.ExtTreeMap
import Std.Data.ExtTreeSet

/-!
# Maps and sets of names

Finite maps and sets of texts in code-point order. Two maps with the same values are equal,
however they were built. The statements are the two rules used everywhere: what a map that
was built from a list of pairs holds, and in which order a map lists its names.
-/

set_option autoImplicit false

namespace DualStack

/-- A finite map from names, listed in code-point order. -/
abbrev NameMap (α : Type) := Std.ExtTreeMap String α

/-- A finite set of names, listed in code-point order. -/
abbrev NameSet := Std.ExtTreeSet String

namespace NameMap

variable {α β : Type}

/-- The map with the pairs of a list put into it one after another. -/
def insertAll (m : NameMap α) (pairs : List (String × α)) : NameMap α :=
  pairs.foldl (fun m (name, a) => m.insert name a) m

/-- The map of a list of pairs, in which the last pair of a name counts. -/
def ofPairs (pairs : List (String × α)) : NameMap α :=
  insertAll ∅ pairs

/-- After pairs are inserted one after another, a name has its last value among them, or the one
that it had before if it is not among them. -/
theorem getElem?_insertAll (m : NameMap α) (pairs : List (String × α)) (name : String) :
    (insertAll m pairs)[name]? =
      ((pairs.reverse.find? (·.1 == name)).map (·.2)).or m[name]? := by
  induction pairs generalizing m with
  | nil => simp [insertAll]
  | cons pair pairs ih =>
    obtain ⟨key, a⟩ := pair
    have step : insertAll m ((key, a) :: pairs) = insertAll (m.insert key a) pairs := rfl
    rw [step, ih, List.reverse_cons, List.find?_append]
    cases pairs.reverse.find? (·.1 == name) with
    | some found => simp
    | none =>
      simp only [Option.map_none, Option.none_or, Std.ExtTreeMap.getElem?_insert,
        Std.LawfulEqCmp.compare_eq_iff_eq, List.find?_singleton, beq_iff_eq]
      by_cases h : key = name <;> simp [h]

/-- The value of a name in the map of a list is that of its last pair. -/
theorem getElem?_ofPairs (pairs : List (String × α)) (name : String) :
    (ofPairs pairs)[name]? = (pairs.reverse.find? (·.1 == name)).map (·.2) := by
  simp [ofPairs, getElem?_insertAll]

/-- A map lists its names in strictly ascending order. -/
theorem pairwise_toList (m : NameMap α) :
    m.toList.Pairwise fun a b => compare a.1 b.1 = .lt :=
  Std.ExtTreeMap.ordered_keys_toList

end NameMap

end DualStack
