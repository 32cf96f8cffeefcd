import DualStack.Proofs.Derivation
import DualStack.Proofs.FieldTexts
import DualStack.Proofs.Tokens

/-!
# Which texts are lists of versions

A list of versions is read exactly if every token of it is one of the two version numbers. What is
read is the set of the versions that stand there, so it does not matter in which order they stand
and how often, and since a text has at least one token the set is never empty. Otherwise the list is
refused for the first token that is no version number, whatever comes after it. A set that is not
empty is written as a list that is read as this set again.
-/

set_option autoImplicit false

namespace DualStack

namespace Family

/-- A token names a family exactly if its core is the version number of the family. -/
theorem names_iff_isCore {family : Family} {token : String} :
    family.Names token ↔ Text.IsCore token (toString family.version) := by
  rw [Text.isCore_iff, Names, eq_comm]

end Family

namespace FamilySet

/-- A token is a version number with blanks around it. -/
def IsVersion (token : String) : Prop :=
  Text.IsCore token "4" ∨ Text.IsCore token "6"

/-- A token names a family exactly if it is a version number. -/
theorem exists_names_iff {token : String} :
    (∃ family : Family, family.Names token) ↔ IsVersion token := by
  simp only [Family.names_iff_isCore]
  constructor
  · rintro ⟨family, hcore⟩
    cases family with
    | ipv4 => exact .inl hcore
    | ipv6 => exact .inr hcore
  · rintro (h4 | h6)
    · exact ⟨.ipv4, h4⟩
    · exact ⟨.ipv6, h6⟩

/-- A token names no family exactly if it is no version number. -/
theorem not_names_iff {token : String} :
    (∀ family : Family, ¬ family.Names token) ↔ ¬ IsVersion token := by
  rw [← exists_names_iff, not_exists]

/-! ## Texts that are read -/

variable {s : String}

/-- A list is read exactly if each of its tokens is a version number. -/
theorem exists_parse_iff :
    (∃ families, parse s = .ok families) ↔ ∀ token ∈ Text.pieces ',' s, IsVersion token := by
  simp only [← exists_names_iff]
  constructor
  · rintro ⟨families, h⟩
    exact (of_parse_eq_ok h).1
  · intro htokens
    cases hparse : parse s with
    | ok families => exact ⟨families, rfl⟩
    | error error =>
      obtain ⟨before, bad, after, hpieces, -, hbad, -⟩ := of_parse_eq_error hparse
      obtain ⟨family, hfamily⟩ := htokens bad (by simp [hpieces])
      exact absurd hfamily (hbad family)

/-- The set of a list that is read is never empty, because a list has a token. -/
theorem isEmpty_of_parse {families : FamilySet} (h : parse s = .ok families) :
    families.isEmpty = false := by
  obtain ⟨family, hfamily⟩ := exists_get_of_parse h
  unfold isEmpty
  cases family with
  | ipv4 =>
    have h4 : families.ipv4 = true := hfamily
    simp [h4]
  | ipv6 =>
    have h6 : families.ipv6 = true := hfamily
    simp [h6]

/-- Only which tokens there are matters for what is read. -/
theorem parse_congr {s' : String} {families : FamilySet}
    (h : ∀ token, token ∈ Text.pieces ',' s' ↔ token ∈ Text.pieces ',' s)
    (hparse : parse s = .ok families) : parse s' = .ok families := by
  have htokens := exists_parse_iff.1 ⟨families, hparse⟩
  obtain ⟨families', hparse'⟩ := (exists_parse_iff (s := s')).2 fun token htoken =>
    htokens token ((h token).1 htoken)
  rw [hparse', Except.ok.injEq]
  apply PerFamily.ext_get
  intro family
  rw [Bool.eq_iff_iff, (of_parse_eq_ok hparse').2, (of_parse_eq_ok hparse).2]
  simp only [h]

/-! ## Texts that are refused -/

/-- The first token that is no version number decides, whatever follows it. -/
theorem familiesOf_append_cons {before after : List String} {bad : String}
    (hbefore : ∀ token ∈ before, IsVersion token) (hbad : ¬ IsVersion bad) :
    familiesOf (before ++ bad :: after) = .error (.invalidVersion (Text.trim bad)) := by
  induction before with
  | nil =>
    rw [List.nil_append, familiesOf,
      Family.ofVersion_eq_error_iff.2 ⟨not_names_iff.2 hbad, rfl⟩]
    rfl
  | cons token before ih =>
    obtain ⟨hfirst, hlater⟩ := List.forall_mem_cons.1 hbefore
    obtain ⟨family, hfamily⟩ := exists_names_iff.2 hfirst
    rw [List.cons_append, familiesOf, Family.ofVersion_eq_ok_iff.2 hfamily, ih hlater]
    rfl

/-- A list is refused exactly for its first token that is no version number. -/
theorem parse_eq_error_iff {error : ParseError} : parse s = .error error ↔
    ∃ before bad after, Text.pieces ',' s = before ++ bad :: after ∧
      (∀ token ∈ before, IsVersion token) ∧ ¬ IsVersion bad ∧
      error = .invalidVersion (Text.trim bad) := by
  constructor
  · intro h
    obtain ⟨before, bad, after, hpieces, hbefore, hbad, herror⟩ := of_parse_eq_error h
    exact ⟨before, bad, after, hpieces,
      fun token htoken => exists_names_iff.1 (hbefore token htoken), not_names_iff.1 hbad, herror⟩
  · rintro ⟨before, bad, after, hpieces, hbefore, hbad, rfl⟩
    rw [parse, hpieces, familiesOf_append_cons hbefore hbad]
    rfl

/-- Which texts are lists of versions. The tokens of a text are determined by it. The text is read
exactly if each of them is a version number with blanks around it. Then a family is in the set
exactly if one of the tokens is its version number, so any text with the same tokens, in whatever
order and however often, is read as the same set; the set is not empty, and its own written form is
read as this set. Otherwise the error has the first token that is no version number, without the
blanks around it. -/
theorem versions_read_exactly (s : String) : ∃ tokens,
    (∀ other, Text.IsTokens s other ↔ other = tokens) ∧
    ((∃ families, parse s = .ok families) ↔ ∀ token ∈ tokens, IsVersion token) ∧
    (∀ families, parse s = .ok families →
      (families.ipv4 = true ↔ ∃ token ∈ tokens, Text.IsCore token "4") ∧
      (families.ipv6 = true ↔ ∃ token ∈ tokens, Text.IsCore token "6") ∧
      families.isEmpty = false ∧ parse families.render = .ok families ∧
      ∀ s' tokens', Text.IsTokens s' tokens' → (∀ token, token ∈ tokens' ↔ token ∈ tokens) →
        parse s' = .ok families) ∧
    ∀ error, parse s = .error error ↔ ∃ before bad after core, tokens = before ++ bad :: after ∧
      (∀ token ∈ before, IsVersion token) ∧ ¬ IsVersion bad ∧
      Text.IsCore bad core ∧ error = .invalidVersion core := by
  refine ⟨Text.pieces ',' s, fun other => Text.isTokens_iff, exists_parse_iff, ?_, fun error => ?_⟩
  · intro families hparse
    have hget : ∀ family : Family, families.get family = true ↔
        ∃ token ∈ Text.pieces ',' s, Text.IsCore token (toString family.version) := by
      simpa only [Family.names_iff_isCore] using (of_parse_eq_ok hparse).2
    have hnonempty := isEmpty_of_parse hparse
    refine ⟨hget .ipv4, hget .ipv6, hnonempty, parse_render hnonempty, ?_⟩
    intro s' tokens' htokens' hsame
    rw [Text.isTokens_iff.1 htokens'] at hsame
    exact parse_congr hsame hparse
  · rw [parse_eq_error_iff]
    simp only [Text.isCore_iff]
    constructor
    · rintro ⟨before, bad, after, hpieces, hbefore, hbad, herror⟩
      exact ⟨before, bad, after, _, hpieces, hbefore, hbad, rfl, herror⟩
    · rintro ⟨before, bad, after, core, hpieces, hbefore, hbad, rfl, herror⟩
      exact ⟨before, bad, after, hpieces, hbefore, hbad, herror⟩

end FamilySet

end DualStack
