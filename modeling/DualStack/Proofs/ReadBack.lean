import DualStack.Proofs.Numerals
import DualStack.Proofs.Store
import DualStack.State.Notification

/-!
# What is written is read back

A compact JSON text is read as the value it was written from. A text in it ends at the first
quotation mark without a backslash, and the reader finds that mark because the writer leaves none
inside. Arrays and objects are read back if their parts are: what is left of the text bounds the
depth, and each part is shorter than the whole. A change notification is read back from its message
with every text as it was.
-/

set_option autoImplicit false

namespace DualStack

/-- A map is built again from its own list. -/
theorem NameMap.ofPairs_toList {α : Type} (m : NameMap α) : ofPairs m.toList = m := by
  apply Std.ExtTreeMap.ext_getElem?
  intro name
  have hdistinct : m.toList.Pairwise fun a b => a.1 ≠ b.1 := by
    refine (pairwise_toList m).imp fun {a b} hlt heq => ?_
    rw [heq] at hlt
    simp at hlt
  cases hname : m[name]? with
  | some a =>
    exact getElem?_insertAll_of_mem hdistinct
      (Std.ExtTreeMap.mem_toList_iff_getElem?_eq_some.2 hname)
  | none =>
    refine getElem?_insertAll_of_forall_ne ?_
    rintro ⟨other, a⟩ hmem rfl
    rw [Std.ExtTreeMap.mem_toList_iff_getElem?_eq_some, hname] at hmem
    cases hmem

/-- A hash that is listed as fields gives the value of every name. -/
theorem Fields.value?_toList (hash : Hash) (name : String) :
    value? hash.toList name = hash[name]? := by
  rw [← getElem?_toHash, toHash, NameMap.ofPairs_toList]

namespace Json

/-! ## Texts -/

/-- The written form of a character is taken into the body of a literal as a whole. -/
theorem literal?_escapeChar_append (c : Char) (rest : List Char) :
    literal? (escapeChar c ++ rest) =
      (literal? rest).map fun (body, rest) => (escapeChar c ++ body, rest) := by
  unfold escapeChar
  split
  case h_8 hquote hbackslash _ _ _ _ _ =>
    by_cases hcontrol : c.toNat < 0x20
    · have hzero : Text.isHexDigit '0' = true := by decide
      have hhigh : Text.isHexDigit (Nat.digitChar (c.toNat / 16)) = true :=
        Text.isHexDigit_digitChar (by omega)
      have hlow : Text.isHexDigit (Nat.digitChar (c.toNat % 16)) = true :=
        Text.isHexDigit_digitChar (by omega)
      simp [hcontrol, literal?, hhigh, hlow, hzero]
    · simp only [hcontrol, ↓reduceIte, List.cons_append, List.nil_append]
      rw [literal?]
      · have hb : c ≠ '\\' := hbackslash
        simp [hb, hcontrol]
      · exact fun h => hquote h
      · exact fun _ _ _ _ _ h => absurd h hbackslash
      · exact fun _ _ h => absurd h hbackslash
  all_goals simp [literal?, shortEscape?]

/-- A body that the reader takes for one up to the mark that closes it. -/
def Closed (body : List Char) : Prop :=
  ∀ rest, literal? (body ++ '"' :: rest) = some (body, rest)

/-- The body that is written for a text ends where its closing mark stands. -/
theorem closed_escape (cs : List Char) : Closed (escape cs) := by
  intro rest
  induction cs with
  | nil => rfl
  | cons c cs ih =>
    have hsplit : escape (c :: cs) = escapeChar c ++ escape cs := List.flatMap_cons
    rw [hsplit, List.append_assoc, literal?_escapeChar_append, ih]
    rfl

/-! ## Values -/

/-- A value whose compact form the reader takes for that value, whatever follows. What comes first
in it is no blank and does not close an array. -/
structure ReadsBack (value : Json) : Prop where
  start : ∃ c cs, compact value = c :: cs ∧ isSpace c = false ∧ c ≠ ']'
  read : ∀ depth rest, (compact value).length < depth →
    value? depth (compact value ++ rest) = some (value, rest)

/-- Nothing is skipped in front of a character that is no blank. -/
theorem skipSpace_cons {c : Char} (h : isSpace c = false) (cs : List Char) :
    skipSpace (c :: cs) = c :: cs := by
  unfold skipSpace
  rw [List.dropWhile_cons, h]
  rfl

/-- A truth value is read back. -/
theorem readsBack_bool (value : Bool) : (bool value).ReadsBack := by
  cases value with
  | true =>
    refine ⟨⟨_, _, rfl, by decide, by decide⟩, fun depth rest hdepth => ?_⟩
    cases depth with
    | zero => cases hdepth
    | succ depth => rfl
  | false =>
    refine ⟨⟨_, _, rfl, by decide, by decide⟩, fun depth rest hdepth => ?_⟩
    cases depth with
    | zero => cases hdepth
    | succ depth => rfl

/-- A string is read back if its body ends at its closing mark. -/
theorem readsBack_string {body : List Char} (h : Closed body) : (string body).ReadsBack := by
  refine ⟨⟨_, _, rfl, by decide, by decide⟩, fun depth rest hdepth => ?_⟩
  cases depth with
  | zero => cases hdepth
  | succ depth =>
    have htext : compact (string body) ++ rest = '"' :: (body ++ '"' :: rest) := by
      simp [compact, inQuotes]
    have hvalue : value? (depth + 1) ('"' :: (body ++ '"' :: rest)) =
        (literal? (body ++ '"' :: rest)).map fun found => (string found.1, found.2) := rfl
    rw [htext, hvalue, h rest]
    rfl

/-- The items of an array are read back up to the bracket that closes it, by induction on the
items. -/
theorem items?_compactItems {items : List Json} (h : ∀ item ∈ items, item.ReadsBack)
    (hitems : items ≠ []) (depth : Nat) (hdepth : (compactItems items).length + 1 < depth)
    (rest : List Char) :
    items? depth (compactItems items ++ ']' :: rest) = some (items, rest) := by
  induction items generalizing depth with
  | nil => exact absurd rfl hitems
  | cons item items ih =>
    obtain ⟨depth, rfl⟩ : ∃ d, depth = d + 1 := ⟨depth - 1, by omega⟩
    have hitem := h item List.mem_cons_self
    cases items with
    | nil =>
      rw [compactItems] at hdepth ⊢
      have hread := hitem.read depth (']' :: rest) (by omega)
      have hspace : isSpace ']' = false := by decide
      simp only [items?, hread, skipSpace_cons hspace]
    | cons next items =>
      have htext : compactItems (item :: next :: items) =
          compact item ++ ',' :: compactItems (next :: items) := by
        simp [compactItems]
      rw [htext, List.length_append, List.length_cons] at hdepth
      have hread := hitem.read depth (',' :: (compactItems (next :: items) ++ ']' :: rest))
        (by omega)
      have hlater := ih (fun i hi => h i (List.mem_cons_of_mem _ hi)) (by simp) depth (by omega)
      have hspace : isSpace ',' = false := by decide
      rw [htext, List.append_assoc, List.cons_append]
      simp only [items?, hread, skipSpace_cons hspace, hlater, Option.map_some]

/-- The part of a text that is one member: name, colon, value. -/
theorem compactMember_append (name : List Char) (value : Json) (rest : List Char) :
    inQuotes name ++ ':' :: compact value ++ rest =
      '"' :: (name ++ '"' :: ':' :: (compact value ++ rest)) := by
  simp [inQuotes]

/-- The members of an object are read back up to the brace that closes it, by induction on the
members. -/
theorem members?_compactMembers {members : List (List Char × Json)}
    (h : ∀ member ∈ members, Closed member.1 ∧ member.2.ReadsBack) (hmembers : members ≠ [])
    (depth : Nat) (hdepth : (compactMembers members).length + 1 < depth) (rest : List Char) :
    members? depth (compactMembers members ++ '\x7d' :: rest) = some (members, rest) := by
  have hquote : isSpace '"' = false := by decide
  have hcolon : isSpace ':' = false := by decide
  induction members generalizing depth with
  | nil => exact absurd rfl hmembers
  | cons member members ih =>
    -- a member takes one step of the depth and at least one character of the text
    obtain ⟨depth, rfl⟩ : ∃ d, depth = d + 1 := ⟨depth - 1, by omega⟩
    obtain ⟨name, value⟩ := member
    have hname : Closed name := (h _ List.mem_cons_self).1
    have hvalue : value.ReadsBack := (h _ List.mem_cons_self).2
    have hone : (compact value).length ≤ (inQuotes name ++ ':' :: compact value).length := by
      rw [List.length_append, List.length_cons]
      omega
    cases members with
    | nil =>
      rw [compactMembers] at hdepth ⊢
      have hread := hvalue.read depth ('\x7d' :: rest) (by omega)
      have hspace : isSpace '\x7d' = false := by decide
      rw [compactMember_append]
      simp only [members?, skipSpace_cons hquote, hname _, skipSpace_cons hcolon, hread,
        skipSpace_cons hspace]
    | cons next members =>
      have htext : compactMembers ((name, value) :: next :: members) =
          inQuotes name ++ ':' :: compact value ++ ',' :: compactMembers (next :: members) := by
        simp [compactMembers]
      rw [htext, List.length_append, List.length_cons] at hdepth
      have hread := hvalue.read depth (',' :: (compactMembers (next :: members) ++ '\x7d' :: rest))
        (by omega)
      have hlater := ih (fun m hm => h m (List.mem_cons_of_mem _ hm)) (by simp) depth (by omega)
      have hspace : isSpace ',' = false := by decide
      rw [htext, List.append_assoc, List.cons_append, compactMember_append]
      simp only [members?, skipSpace_cons hquote, hname _, skipSpace_cons hcolon, hread,
        skipSpace_cons hspace, hlater, Option.map_some]

/-- An array that does not close at once is read item by item. -/
theorem value?_array_cons {c : Char} (hspace : isSpace c = false) (hbracket : c ≠ ']')
    (depth : Nat) (cs : List Char) : value? (depth + 1) ('[' :: c :: cs) =
      (items? depth (c :: cs)).map fun found => (array found.1, found.2) := by
  have hopen : isSpace '[' = false := by decide
  rw [value?, skipSpace_cons hopen]
  simp only [skipSpace_cons hspace]
  split
  · next heq => exact absurd (List.cons.inj heq).1 hbracket
  · rfl

/-- An array is read back if its items are. -/
theorem readsBack_array {items : List Json} (h : ∀ item ∈ items, item.ReadsBack) :
    (array items).ReadsBack := by
  refine ⟨⟨_, _, rfl, by decide, by decide⟩, fun depth rest hdepth => ?_⟩
  obtain ⟨depth, rfl⟩ : ∃ d, depth = d + 1 := ⟨depth - 1, by omega⟩
  have htext : compact (array items) ++ rest = '[' :: (compactItems items ++ ']' :: rest) := by
    simp [compact]
  rw [htext]
  cases items with
  | nil => rfl
  | cons item items =>
    have hread := items?_compactItems h (by simp) depth (by simp [compact] at hdepth; omega) rest
    have hstart : ∃ c cs, compactItems (item :: items) = c :: cs ∧ isSpace c = false ∧
        c ≠ ']' := by
      obtain ⟨c, cs, hcompact, hspace, hbracket⟩ := (h item List.mem_cons_self).start
      cases items with
      | nil => exact ⟨c, cs, hcompact, hspace, hbracket⟩
      | cons next items =>
        refine ⟨c, cs ++ ',' :: compactItems (next :: items), ?_, hspace, hbracket⟩
        simp [compactItems, hcompact]
    obtain ⟨c, cs, hcompact, hspace, hbracket⟩ := hstart
    rw [hcompact] at hread ⊢
    rw [List.cons_append, value?_array_cons hspace hbracket, ← List.cons_append, hread]
    rfl

/-- An object is read back if its members are. -/
theorem readsBack_object {members : List (List Char × Json)}
    (h : ∀ member ∈ members, Closed member.1 ∧ member.2.ReadsBack) :
    (object members).ReadsBack := by
  refine ⟨⟨_, _, rfl, by decide, by decide⟩, fun depth rest hdepth => ?_⟩
  obtain ⟨depth, rfl⟩ : ∃ d, depth = d + 1 := ⟨depth - 1, by omega⟩
  have htext : compact (object members) ++ rest =
      '\x7b' :: (compactMembers members ++ '\x7d' :: rest) := by
    simp [compact]
  rw [htext]
  cases members with
  | nil => rfl
  | cons member members =>
    have hread := members?_compactMembers h (by simp) depth
      (by simp [compact] at hdepth; omega) rest
    -- The first member starts with a mark, so the object is not taken for an empty one.
    have hstart : ∃ cs, compactMembers (member :: members) = '"' :: cs := by
      obtain ⟨name, value⟩ := member
      cases members with
      | nil => exact ⟨_, rfl⟩
      | cons next members => exact ⟨_, rfl⟩
    obtain ⟨cs, hcompact⟩ := hstart
    rw [hcompact] at hread ⊢
    have hopen : value? (depth + 1) ('\x7b' :: ('"' :: cs ++ '\x7d' :: rest)) =
        (members? depth ('"' :: cs ++ '\x7d' :: rest)).map fun found =>
          (object found.1, found.2) := rfl
    rw [hopen, hread]
    rfl

/-- The compact form of such a value is read as this value. -/
theorem parse?_render {value : Json} (h : value.ReadsBack) : parse? value.render = some value := by
  have hread := h.read ((compact value).length + 1) [] (Nat.lt_succ_self _)
  rw [List.append_nil] at hread
  unfold parse? render
  rw [String.toList_ofList, hread]
  rfl

/-- The value of a text is read back. -/
theorem readsBack_ofString (s : String) : (ofString s).ReadsBack :=
  readsBack_string (closed_escape s.toList)

/-- An object of named values is read back if these values are. -/
theorem readsBack_ofMembers {members : List (String × Json)}
    (h : ∀ member ∈ members, member.2.ReadsBack) : (ofMembers members).ReadsBack := by
  apply readsBack_object
  intro written hwritten
  obtain ⟨⟨name, value⟩, hmember, rfl⟩ := List.mem_map.1 hwritten
  exact ⟨closed_escape name.toList, h _ hmember⟩

/-- The value of a text stands for this text. -/
theorem text?_ofString (s : String) : (ofString s).text? = some s := by
  show (unescape? (escape s.toList)).map String.ofList = some s
  rw [unescape?_escape, Option.map_some, String.ofList_toList]

/-- The written name of a member stands for this name. -/
theorem name?_escape (s : String) : name? (escape s.toList) = some s := text?_ofString s

end Json

/-! ## Notifications -/

namespace Notification

/-- The members of an object get their names back, in the same order. -/
theorem namedMembers?_ofMembers (members : List (String × Json)) :
    namedMembers? (members.map fun (name, value) => (Json.escape name.toList, value)) =
      some members := by
  refine mapM_map_eq_some fun member _ => ?_
  obtain ⟨name, value⟩ := member
  simp only [Json.name?_escape, Option.map_some]

/-- The values of an object are looked up among its named members. -/
theorem values?_ofMembers (names : List String) (members : List (String × Json)) :
    values? names (Json.ofMembers members) = names.mapM fun name => only? name members := by
  show (namedMembers? _).bind _ = _
  rw [namedMembers?_ofMembers, Option.bind_some]

/-- The object of a hash stands for this hash. -/
theorem hashOfJson?_jsonOfHash (hash : Hash) : hashOfJson? (jsonOfHash hash) = some hash := by
  unfold jsonOfHash Json.ofMembers
  rw [List.map_map, hashOfJson?, mapM_map_eq_some fun pair _ => ?_]
  · show some (Fields.toHash hash.toList) = some hash
    rw [Fields.toHash, NameMap.ofPairs_toList]
  · obtain ⟨name, value⟩ := pair
    simp only [Function.comp_apply, Json.name?_escape, Json.text?_ofString]
    rfl

/-- The object of a set of families stands for this set. -/
theorem familiesOfJson?_jsonOfFamilies (families : FamilySet) :
    familiesOfJson? (jsonOfFamilies families) = some families := by
  obtain ⟨ipv4, ipv6⟩ := families
  have hmembers : values? (Family.all.map Family.name) (jsonOfFamilies ⟨ipv4, ipv6⟩) =
      some [.bool ipv4, .bool ipv6] :=
    values?_ofMembers _ _
  unfold familiesOfJson?
  rw [hmembers]
  rfl

/-- The value of a notification stands for this notification. -/
theorem ofJson?_toJson (n : Notification) : ofJson? n.toJson = some n := by
  have hmembers : values? ["interface", "operation", "config", "capabilities"] n.toJson =
      some [Json.ofString n.interface, Json.ofString n.operation, jsonOfHash n.config,
        jsonOfFamilies n.capabilities] :=
    values?_ofMembers _ _
  unfold ofJson?
  rw [hmembers]
  simp only [Json.text?_ofString, hashOfJson?_jsonOfHash, familiesOfJson?_jsonOfFamilies]
  rfl

/-- The value of a notification is read back. -/
theorem readsBack_toJson (n : Notification) : n.toJson.ReadsBack := by
  have hconfig : (jsonOfHash n.config).ReadsBack := by
    apply Json.readsBack_ofMembers
    intro member hmember
    obtain ⟨pair, -, rfl⟩ := List.mem_map.1 hmember
    exact Json.readsBack_ofString pair.2
  have hcapabilities : (jsonOfFamilies n.capabilities).ReadsBack := by
    apply Json.readsBack_ofMembers
    intro member hmember
    obtain ⟨pair, -, rfl⟩ := List.mem_map.1 hmember
    exact Json.readsBack_bool pair.2
  apply Json.readsBack_ofMembers
  intro member hmember
  simp only [List.mem_cons, List.not_mem_nil, or_false] at hmember
  rcases hmember with rfl | rfl | rfl | rfl
  · exact Json.readsBack_ofString n.interface
  · exact Json.readsBack_ofString n.operation
  · exact hconfig
  · exact hcapabilities

/-- A notification is read back from its message. -/
theorem parse?_render (n : Notification) : parse? n.render = some n := by
  unfold parse? render
  rw [Json.parse?_render n.readsBack_toJson]
  exact ofJson?_toJson n

end Notification

end DualStack
