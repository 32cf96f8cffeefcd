/-!
# Splitting texts

A text cut at every occurrence of a separator, at its first or last occurrence, at a mark
of several characters, or after a given start. The statements say that the parts put back
together with the separator are the text again.
-/

set_option autoImplicit false

namespace DualStack.Text

/-- The pieces of a text between the occurrences of `sep`. There is always at least one. -/
def splitOn (sep : Char) : List Char → List (List Char)
  | [] => [[]]
  | c :: cs =>
    if c = sep then [] :: splitOn sep cs
    else match splitOn sep cs with
      | [] => [[c]]
      | piece :: pieces => (c :: piece) :: pieces

/-- The parts before and after the first occurrence of `sep`. -/
def cutFirst (sep : Char) : List Char → Option (List Char × List Char)
  | [] => none
  | c :: cs =>
    if c = sep then some ([], cs)
    else (cutFirst sep cs).map fun (left, right) => (c :: left, right)

/-- The parts before and after the last occurrence of `sep`. -/
def cutLast (sep : Char) : List Char → Option (List Char × List Char)
  | [] => none
  | c :: cs =>
    match cutLast sep cs with
    | some (left, right) => some (c :: left, right)
    | none => if c = sep then some ([], cs) else none

/-- What follows `lead` in a text that starts with it. -/
def after? : (lead cs : List Char) → Option (List Char)
  | [], cs => some cs
  | _ :: _, [] => none
  | l :: lead, c :: cs => if l = c then after? lead cs else none

/-- The parts before and after the first occurrence of the several characters of `mark`. -/
def cutAt (mark : List Char) : List Char → Option (List Char × List Char)
  | [] => (after? mark []).map fun right => ([], right)
  | c :: cs =>
    match after? mark (c :: cs) with
    | some right => some ([], right)
    | none => (cutAt mark cs).map fun (left, right) => (c :: left, right)

/-- The pieces of a text between the occurrences of `sep`, as texts. -/
def pieces (sep : Char) (s : String) : List String :=
  (splitOn sep s.toList).map String.ofList

/-- The texts before and after the first occurrence of `sep`. -/
def cutFirst? (sep : Char) (s : String) : Option (String × String) :=
  (cutFirst sep s.toList).map fun (left, right) => (String.ofList left, String.ofList right)

/-- The texts before and after the last occurrence of `sep`. -/
def cutLast? (sep : Char) (s : String) : Option (String × String) :=
  (cutLast sep s.toList).map fun (left, right) => (String.ofList left, String.ofList right)

/-- Whether a text starts with another. -/
def startsWith (lead s : String) : Bool :=
  (after? lead.toList s.toList).isSome

/-- The text that follows `lead` in a text that starts with it. -/
def rest? (lead s : String) : Option String :=
  (after? lead.toList s.toList).map String.ofList

/-- Splitting gives at least one piece, of an empty text the empty one. -/
theorem splitOn_ne_nil (sep : Char) (cs : List Char) : splitOn sep cs ≠ [] := by
  cases cs with
  | nil => simp [splitOn]
  | cons c cs =>
    rw [splitOn]
    split
    · simp
    · split <;> simp

/-- The pieces with the separator between them are the text. -/
theorem intercalate_splitOn (sep : Char) (cs : List Char) :
    [sep].intercalate (splitOn sep cs) = cs := by
  induction cs with
  | nil => simp [splitOn]
  | cons c cs ih =>
    rw [splitOn]
    split
    · next h =>
      subst h
      rw [List.intercalate_cons_of_ne_nil (splitOn_ne_nil c cs), ih]
      simp
    · cases hs : splitOn sep cs with
      | nil => exact absurd hs (splitOn_ne_nil sep cs)
      | cons piece pieces =>
        rw [hs] at ih
        cases pieces with
        | nil => simpa using ih
        | cons next pieces =>
          rw [List.intercalate_cons_of_ne_nil (by simp)] at ih ⊢
          rw [← ih]
          rfl

/-- No piece has the separator in it. -/
theorem not_mem_of_mem_splitOn {sep : Char} {cs piece : List Char}
    (h : piece ∈ splitOn sep cs) : sep ∉ piece := by
  induction cs generalizing piece with
  | nil => simp_all [splitOn]
  | cons c cs ih =>
    rw [splitOn] at h
    split at h
    · grind
    · cases hs : splitOn sep cs with
      | nil => exact absurd hs (splitOn_ne_nil sep cs)
      | cons first pieces => grind

/-- The pieces are those of the list operation of the same name. -/
theorem splitOn_eq (sep : Char) (cs : List Char) : splitOn sep cs = cs.splitOn sep := by
  induction cs with
  | nil => rfl
  | cons c cs ih =>
    have hstep : (c :: cs).splitOn sep = if c = sep then [] :: cs.splitOn sep
        else (cs.splitOn sep).modifyHead (c :: ·) := by
      simp [List.splitOn_eq_splitOnP, List.splitOnP_cons_eq_if_modifyHead]
    rw [hstep, splitOn, ih]
    cases hs : cs.splitOn sep with
    | nil => exact absurd (ih.trans hs) (splitOn_ne_nil sep cs)
    | cons piece pieces => rfl

/-- Pieces put together with a separator that none of them has in it are the pieces again. -/
theorem splitOn_intercalate {sep : Char} {pieces : List (List Char)} (hne : pieces ≠ [])
    (h : ∀ piece ∈ pieces, sep ∉ piece) : splitOn sep ([sep].intercalate pieces) = pieces := by
  rw [splitOn_eq, List.splitOn_intercalate sep h hne]

/-- What `after?` returns, put behind the start, is the text. -/
theorem after?_eq_some_iff {lead cs rest : List Char} :
    after? lead cs = some rest ↔ cs = lead ++ rest := by
  induction lead generalizing cs with
  | nil => simp [after?]
  | cons l lead ih =>
    cases cs with
    | nil => simp [after?]
    | cons c cs =>
      by_cases h : l = c
      · simp [after?, h, ih]
      · simp [after?, h]
        intro hc
        exact absurd hc.symm h

/-- A text cannot be cut at its first separator exactly if it has none. -/
theorem cutFirst_eq_none_iff {sep : Char} {cs : List Char} :
    cutFirst sep cs = none ↔ sep ∉ cs := by
  induction cs with
  | nil => simp [cutFirst]
  | cons c cs ih =>
    by_cases h : c = sep
    · simp [cutFirst, h]
    · have hne : sep ≠ c := Ne.symm h
      simp [cutFirst, h, hne, ih]

/-- The parts around the first separator, put together with it, are the text, and the first
part has none. -/
theorem cutFirst_eq_some_iff {sep : Char} {cs left right : List Char} :
    cutFirst sep cs = some (left, right) ↔ cs = left ++ sep :: right ∧ sep ∉ left := by
  induction cs generalizing left with
  | nil => simp [cutFirst]
  | cons c cs ih =>
    by_cases h : c = sep
    · subst h
      cases left with
      | nil => simp [cutFirst, eq_comm]
      | cons l left => grind [cutFirst]
    · cases left with
      | nil => simp [cutFirst, h]
      | cons l left =>
        simp only [cutFirst, h, ↓reduceIte, Option.map_eq_some_iff, Prod.exists, Prod.mk.injEq,
          List.cons.injEq, List.cons_append, List.mem_cons, not_or]
        constructor
        · rintro ⟨a, b, hab, ⟨rfl, rfl⟩, rfl⟩
          have := ih.1 hab
          exact ⟨⟨rfl, this.1⟩, fun e => h e.symm, this.2⟩
        · rintro ⟨⟨rfl, rfl⟩, _, hn⟩
          exact ⟨left, right, ih.2 ⟨rfl, hn⟩, ⟨rfl, rfl⟩, rfl⟩

/-- A text cannot be cut at its last separator exactly if it has none. -/
theorem cutLast_eq_none_iff {sep : Char} {cs : List Char} :
    cutLast sep cs = none ↔ sep ∉ cs := by
  induction cs with
  | nil => simp [cutLast]
  | cons c cs ih =>
    cases hcut : cutLast sep cs with
    | some parts => simp [cutLast, hcut, ← ih]
    | none =>
      have hmem := ih.1 hcut
      simp [cutLast, hcut, hmem, eq_comm]

/-- The parts around the last separator, put together with it, are the text, and the second
part has none. -/
theorem cutLast_eq_some_iff {sep : Char} {cs left right : List Char} :
    cutLast sep cs = some (left, right) ↔ cs = left ++ sep :: right ∧ sep ∉ right := by
  induction cs generalizing left with
  | nil => simp [cutLast]
  | cons c cs ih =>
    cases hcut : cutLast sep cs with
    | some parts =>
      have hmem : sep ∈ cs := Decidable.byContradiction fun h => by
        simp [cutLast_eq_none_iff.2 h] at hcut
      cases left with
      | nil => grind [cutLast]
      | cons first left => grind [cutLast]
    | none =>
      have hmem := cutLast_eq_none_iff.1 hcut
      cases left with
      | nil => grind [cutLast]
      | cons first left => grind [cutLast]

/-- The parts around the first mark, put together with it, are the text. -/
theorem eq_of_cutAt {mark cs left right : List Char} (h : cutAt mark cs = some (left, right)) :
    cs = left ++ mark ++ right := by
  induction cs generalizing left with
  | nil =>
    obtain ⟨rest, hrest, heq⟩ := Option.map_eq_some_iff.1 h
    cases heq
    exact after?_eq_some_iff.1 hrest
  | cons c cs ih =>
    unfold cutAt at h
    split at h
    · next rest hrest =>
      cases h
      exact after?_eq_some_iff.1 hrest
    · obtain ⟨⟨before, rest⟩, hlater, heq⟩ := Option.map_eq_some_iff.1 h
      cases heq
      rw [ih hlater, List.cons_append, List.cons_append]

/-- Characters that cannot start the mark are passed over. -/
theorem cutAt_append_of_notMem {m : Char} {mark left cs : List Char} (h : m ∉ left) :
    cutAt (m :: mark) (left ++ cs) =
      (cutAt (m :: mark) cs).map fun (before, right) => (left ++ before, right) := by
  induction left with
  | nil => simp
  | cons c left ih =>
    have hc : m ≠ c := fun heq => h (by rw [heq]; exact List.mem_cons_self)
    have hstep : cutAt (m :: mark) (c :: (left ++ cs)) =
        (cutAt (m :: mark) (left ++ cs)).map fun (before, right) => (c :: before, right) := by
      rw [cutAt, after?, if_neg hc]
    rw [List.cons_append, hstep, ih fun hmem => h (List.mem_cons_of_mem c hmem), Option.map_map]
    rfl

/-- A text that starts with the mark is cut right at its start. -/
theorem cutAt_append_self {m : Char} {mark : List Char} (right : List Char) :
    cutAt (m :: mark) (m :: mark ++ right) = some ([], right) := by
  have hafter : after? (m :: mark) (m :: mark ++ right) = some right := after?_eq_some_iff.2 rfl
  rw [List.cons_append] at hafter ⊢
  rw [cutAt, hafter]

end DualStack.Text
