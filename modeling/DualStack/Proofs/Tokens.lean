import DualStack.Text.Blank
import DualStack.Text.Split

/-!
# Tokens between commas

Lists in configuration fields are texts with commas between their tokens and blanks around them.
What splitting and trimming give is said here without going through a text from its front: the
tokens are the texts without a comma that give the whole when they are joined, of which there is at
least one, and the core of a token is what remains when blanks are taken off its ends until there
are none. Both are determined by the text.
-/

set_option autoImplicit false

namespace DualStack.Text

/-! ## Tokens -/

/-- The tokens of a text: they have no comma in them and joined with commas they are the text. -/
structure IsTokens (s : String) (tokens : List String) : Prop where
  ne_nil : tokens ≠ []
  comma_notMem : ∀ token ∈ tokens, ',' ∉ token.toList
  joined : ",".intercalate tokens = s

/-- The tokens of a text are its pieces between commas and nothing else. -/
theorem isTokens_iff {s : String} {tokens : List String} :
    IsTokens s tokens ↔ tokens = pieces ',' s := by
  have hcomma : ",".toList = [','] := rfl
  constructor
  · rintro ⟨hne, hnot, rfl⟩
    have hsplit : splitOn ',' ([','].intercalate (tokens.map String.toList)) =
        tokens.map String.toList := by
      refine splitOn_intercalate (by simpa using hne) fun piece hpiece => ?_
      obtain ⟨token, htoken, rfl⟩ := List.mem_map.1 hpiece
      exact hnot token htoken
    rw [pieces, String.toList_intercalate, hcomma, hsplit, List.map_map]
    simp
  · rintro rfl
    refine ⟨by simpa [pieces] using splitOn_ne_nil ',' s.toList, fun token htoken => ?_, ?_⟩
    · obtain ⟨piece, hpiece, rfl⟩ := List.mem_map.1 htoken
      rw [String.toList_ofList]
      exact not_mem_of_mem_splitOn hpiece
    · have hlists : (pieces ',' s).map String.toList = splitOn ',' s.toList := by
        simp [pieces, Function.comp_def]
      rw [← String.toList_inj, String.toList_intercalate, hcomma, hlists, intercalate_splitOn]

/-! ## Blanks around a token -/

/-- A text with no blank at either end. -/
structure IsBare (cs : List Char) : Prop where
  head : ∀ c, cs.head? = some c → isBlank c = false
  last : ∀ c, cs.getLast? = some c → isBlank c = false

/-- A core is what stands in a text between the blanks around it. -/
def IsCore (s core : String) : Prop :=
  IsBare core.toList ∧ ∃ before after, s.toList = before ++ core.toList ++ after ∧
    (∀ c ∈ before, isBlank c = true) ∧ ∀ c ∈ after, isBlank c = true

/-- Blanks in front of a text are dropped before anything of it. -/
theorem dropBlank_append_of_forall {blanks : List Char} (h : ∀ c ∈ blanks, isBlank c = true)
    (cs : List Char) : dropBlank (blanks ++ cs) = dropBlank cs :=
  List.dropWhile_append_of_pos h

/-- Nothing is dropped from a text that does not start with a blank. -/
theorem dropBlank_of_head? {cs : List Char} (h : ∀ c, cs.head? = some c → isBlank c = false) :
    dropBlank cs = cs := by
  apply dropBlank_eq_self
  cases cs with
  | nil => rfl
  | cons c cs => simpa using h c rfl

/-- Trimming takes the blanks off both ends of a bare core and leaves the core. -/
theorem trimChars_append {before core after : List Char} (hcore : IsBare core)
    (hbefore : ∀ c ∈ before, isBlank c = true) (hafter : ∀ c ∈ after, isBlank c = true) :
    trimChars (before ++ core ++ after) = core := by
  have hlast : dropBlank core.reverse = core.reverse :=
    dropBlank_of_head? fun c hc => hcore.last c (by rwa [List.head?_reverse] at hc)
  have hback : dropBlank (core ++ after).reverse = core.reverse := by
    rw [List.reverse_append, dropBlank_append_of_forall (by simpa using hafter), hlast]
  have hfront : dropBlank (before ++ core ++ after) = dropBlank (core ++ after) := by
    rw [List.append_assoc, dropBlank_append_of_forall hbefore]
  rw [trimChars, hfront]
  cases core with
  | nil =>
    -- what is blank throughout leaves nothing for the second pass
    have hnothing : dropBlank after = [] := by
      simpa [dropBlank] using dropBlank_append_of_forall hafter []
    rw [List.nil_append, hnothing]
    rfl
  | cons c core =>
    have hkept : dropBlank (c :: core ++ after) = c :: core ++ after :=
      dropBlank_of_head? fun d hd => hcore.head d hd
    rw [hkept, hback, List.reverse_reverse]

/-- Trimming a bare text changes nothing. -/
theorem trimChars_of_isBare {cs : List Char} (h : IsBare cs) : trimChars cs = cs := by
  have hnone : ∀ c ∈ ([] : List Char), isBlank c = true := by simp
  simpa using trimChars_append h hnone hnone

/-- A trimmed text is bare. -/
theorem isBare_trimChars (cs : List Char) : IsBare (trimChars cs) := by
  refine ⟨fun c hc => ?_, fun c hc => ?_⟩
  · have hhead := head?_trimChars cs
    rw [hc] at hhead
    simpa using hhead
  · have hlast := getLast?_trimChars cs
    rw [hc] at hlast
    simpa using hlast

/-- What is taken off at the two ends is blank. -/
theorem exists_trimChars_append (cs : List Char) :
    ∃ before after, cs = before ++ trimChars cs ++ after ∧
      (∀ c ∈ before, isBlank c = true) ∧ ∀ c ∈ after, isBlank c = true := by
  let inner := (dropBlank cs).reverse
  have hfront : cs = cs.takeWhile isBlank ++ dropBlank cs :=
    List.takeWhile_append_dropWhile.symm
  have hback : dropBlank cs = trimChars cs ++ (inner.takeWhile isBlank).reverse := by
    have hinner : inner = inner.takeWhile isBlank ++ dropBlank inner :=
      List.takeWhile_append_dropWhile.symm
    have hreversed := congrArg List.reverse hinner
    rwa [List.reverse_append, List.reverse_reverse] at hreversed
  refine ⟨cs.takeWhile isBlank, (inner.takeWhile isBlank).reverse, ?_, fun c hc => ?_,
    fun c hc => ?_⟩
  · rw [List.append_assoc, ← hback]
    exact hfront
  · exact List.all_eq_true.1 List.all_takeWhile c hc
  · exact List.all_eq_true.1 List.all_takeWhile c (List.mem_reverse.1 hc)

/-- The core of a text is what trimming leaves of it. -/
theorem isCore_iff {s core : String} : IsCore s core ↔ core = trim s := by
  constructor
  · rintro ⟨hcore, before, after, hs, hbefore, hafter⟩
    rw [trim, hs, trimChars_append hcore hbefore hafter, String.ofList_toList]
  · rintro rfl
    rw [IsCore, trim, String.toList_ofList]
    exact ⟨isBare_trimChars s.toList, exists_trimChars_append s.toList⟩

/-- A bare text is its own core. -/
theorem isCore_self {s : String} (h : IsBare s.toList) : IsCore s s :=
  ⟨h, [], [], by simp, by simp, by simp⟩

end DualStack.Text
