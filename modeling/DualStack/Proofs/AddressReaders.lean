import DualStack.Proofs.Detection

/-!
# Two readers of addresses agree

The family of an entry of the address table is that of the text in front of its first slash, read by
either of two readers. A network is cut at its last slash, and a colon chooses the reader. No text
of an address has a slash in it, so in the text of a network the first slash is the last; and
without a slash the address alone is a network, because all of its bits leave none below. So both
ways give every address the same family.
-/

set_option autoImplicit false

namespace DualStack

/-! ## The characters of an address -/

/-- Every character that was read as part of a hexadecimal number is a hexadecimal digit. -/
theorem Text.isHexDigit_of_hexDigitsFrom? {acc n : Nat} {cs : List Char}
    (h : hexDigitsFrom? acc cs = some n) {c : Char} (hc : c ∈ cs) : isHexDigit c = true := by
  induction cs generalizing acc with
  | nil => cases hc
  | cons d cs ih =>
    obtain ⟨value, hvalue, hlater⟩ := Option.bind_eq_some_iff.1 h
    rcases List.mem_cons.1 hc with rfl | hc
    · exact Option.isSome_iff_exists.2 ⟨value, hvalue⟩
    · exact ih hlater hc

/-- There is no slash in the text of an IPv4 address. -/
theorem V4.slash_notMem_of_parse? {cs : List Char} {bits : BitVec 32}
    (h : V4.parse? cs = some bits) : '/' ∉ cs := by
  intro hslash
  rcases V4.mem_of_parse? h hslash with hdot | hdigit
  · cases hdot
  · exact absurd hdigit (by decide)

namespace V6

/-- Every character of a group is a hexadecimal digit. -/
theorem isHexDigit_of_group? {piece : List Char} {group : Nat} (h : group? piece = some group)
    {c : Char} (hc : c ∈ piece) : Text.isHexDigit c = true := by
  unfold group? at h
  split at h
  · exact Text.isHexDigit_of_hexDigitsFrom? h hc
  · cases h

/-- A piece between colons is a group or an IPv4 address. -/
theorem piece_of_groupsWithTail? {pieces : List (List Char)} {groups : List Nat}
    (h : groupsWithTail? pieces = some groups) :
    ∀ piece ∈ pieces, (∃ group, group? piece = some group) ∨
      ∃ bits, V4.parse? piece = some bits := by
  fun_induction groupsWithTail? pieces generalizing groups with
  | case1 => simp
  | case2 piece bits hbits => exact List.forall_mem_singleton.2 (.inr ⟨bits, hbits⟩)
  | case3 piece hnone =>
    obtain ⟨group, hgroup, -⟩ := Option.map_eq_some_iff.1 h
    exact List.forall_mem_singleton.2 (.inl ⟨group, hgroup⟩)
  | case4 piece pieces hlong ih =>
    obtain ⟨group, hgroup, h⟩ := Option.bind_eq_some_iff.1 h
    obtain ⟨others, hothers, -⟩ := Option.bind_eq_some_iff.1 h
    exact List.forall_mem_cons.2 ⟨.inl ⟨group, hgroup⟩, ih hothers⟩

/-- There is no slash in a group or in the dotted end of an address. -/
theorem slash_notMem_piece {piece : List Char} (h : (∃ group, group? piece = some group) ∨
    ∃ bits, V4.parse? piece = some bits) : '/' ∉ piece := by
  rcases h with ⟨group, hgroup⟩ | ⟨bits, hbits⟩
  · intro hslash
    exact absurd (isHexDigit_of_group? hgroup hslash) (by decide)
  · exact V4.slash_notMem_of_parse? hbits

/-- If the pieces between colons are groups or dotted addresses, there is no slash in the text,
since it is none of the colons either. -/
theorem slash_notMem_of_pieces {cs : List Char}
    (h : ∀ piece ∈ piecesOf cs, (∃ group, group? piece = some group) ∨
      ∃ bits, V4.parse? piece = some bits) : '/' ∉ cs := by
  intro hslash
  have hpieces : piecesOf cs = Text.splitOn ':' cs := by
    cases cs with
    | nil => cases hslash
    | cons c cs => rfl
  rw [hpieces] at h
  rcases Text.mem_splitOn ':' hslash with hcolon | ⟨piece, hpiece, hmem⟩
  · cases hcolon
  · exact slash_notMem_piece (h piece hpiece) hmem

/-- There is no slash in the text of an IPv6 address, on neither side of the shortening. -/
theorem slash_notMem_of_parse? {cs : List Char} {bits : BitVec 128}
    (h : parse? cs = some bits) : '/' ∉ cs := by
  obtain ⟨groups, hgroups, -⟩ := Option.map_eq_some_iff.1 h
  unfold groups? at hgroups
  split at hgroups
  · obtain ⟨hread, -⟩ := Option.filter_eq_some_iff.1 hgroups
    exact slash_notMem_of_pieces (piece_of_groupsWithTail? hread)
  · next left right hcut =>
    obtain ⟨head, hhead, hgroups⟩ := Option.bind_eq_some_iff.1 hgroups
    obtain ⟨tail, htail, -⟩ := Option.bind_eq_some_iff.1 hgroups
    have hleft : '/' ∉ left := slash_notMem_of_pieces fun piece hpiece =>
      .inl (exists_of_mapM_eq_some hhead piece hpiece)
    have hright : '/' ∉ right := slash_notMem_of_pieces (piece_of_groupsWithTail? htail)
    rw [Text.eq_of_cutAt hcut]
    simp [hleft, hright]

end V6

/-- There is no slash in the text of an address of either family. -/
theorem Address.slash_notMem_of_isText {address : Address} {text : String}
    (h : address.IsText text) : '/' ∉ text.toList := by
  cases address with
  | v4 bits => exact V4.slash_notMem_of_parse? h
  | v6 bits => exact V6.slash_notMem_of_parse? h

/-! ## The two readers -/

namespace Network

/-- A text without a slash is a network exactly if it is the text of an address. -/
theorem exists_parseFor_iff_of_notMem {text : String} (h : '/' ∉ text.toList) {family : Family} :
    (∃ network, parseFor family text = .ok network) ↔
      ∃ address : Address, address.IsText text ∧ address.family = family := by
  simp only [parseFor_eq_ok_iff]
  constructor
  · rintro ⟨network, hparse, hfamily⟩
    obtain ⟨⟨front, back, hcut, haddress, -⟩, -⟩ := parse_eq_ok_iff.1 hparse
    cases hcut with
    | whole => exact ⟨network.address, haddress, hfamily⟩
    | atSlash htext => exact absurd (by simp [htext]) h
  · rintro ⟨address, haddress, rfl⟩
    -- all bits of an address leave none below
    have hnone : address.toNat % 2 ^ (address.family.width - address.family.width) = 0 := by
      rw [Nat.sub_self, Nat.pow_zero, Nat.mod_one]
    have hspells : Spells text address address.family.width :=
      ⟨⟨text, none, .whole h, haddress, rfl⟩, le_rfl, hnone⟩
    obtain ⟨network, hparse, rfl, -⟩ := exists_parse_iff.2 hspells
    exact ⟨network, hparse, rfl⟩

end Network

namespace Detection

variable {entry front : String}

/-- The front of an entry has no slash, because it ends at the first one. -/
theorem Front.slash_notMem (h : Front entry front) : '/' ∉ front.toList := by
  cases h with
  | whole h => exact h
  | beforeSlash _ hfirst => exact hfirst

/-- An entry has one front only. -/
theorem Front.unique {other : String} (h : Front entry front) (hother : Front entry other) :
    other = front :=
  (front_iff.1 hother).symm.trans (front_iff.1 h)

/-- Whether an entry is of a family is decided by its front alone. -/
theorem isEntryOf_iff (h : Front entry front) {family : Family} :
    IsEntryOf family entry ↔
      ∃ address : Address, address.IsText front ∧ address.family = family := by
  constructor
  · rintro ⟨other, hother, haddress⟩
    obtain rfl := h.unique hother
    exact haddress
  · exact fun haddress => ⟨front, h, haddress⟩

/-- A network is cut where its text, taken for an entry, is cut. -/
theorem front_of_cut {back : Option String} {address : Address}
    (hcut : Network.Cut entry front back) (haddress : address.IsText front) :
    Front entry front := by
  cases hcut with
  | whole h => exact .whole h
  | atSlash htext hlast =>
    exact .beforeSlash htext (Address.slash_notMem_of_isText haddress)

/-- An address has the same family for the detection of capabilities and for the reader of networks.
The part of an entry in front of its first slash is determined by it. The entry is of a family
exactly if this part alone is a network of the family. And if the whole entry is a network, it is of
the family of that network, whose address is this part of it. -/
theorem classified_as_read (entry : String) :
    ∃ front, (∀ other, Front entry other ↔ other = front) ∧
      (∀ family, familyOf? entry = some family ↔
        ∃ network, Network.parseFor family front = .ok network) ∧
      ∀ network, Network.parse entry = .ok network →
        familyOf? entry = some network.family ∧ network.address.IsText front := by
  obtain ⟨front, hfront⟩ : ∃ front, Front entry front := ⟨_, front_iff.2 rfl⟩
  refine ⟨front, fun other => ⟨hfront.unique, ?_⟩, fun family => ?_, fun network hnetwork => ?_⟩
  · rintro rfl
    exact hfront
  · rw [familyOf?_eq_some_iff, isEntryOf_iff hfront,
      Network.exists_parseFor_iff_of_notMem hfront.slash_notMem]
  · obtain ⟨⟨cut, back, hcut, haddress, -⟩, -⟩ := Network.parse_eq_ok_iff.1 hnetwork
    obtain rfl := hfront.unique (front_of_cut hcut haddress)
    exact ⟨familyOf?_eq_some_iff.2 ⟨cut, hfront, network.address, haddress, rfl⟩, haddress⟩

end Detection

end DualStack
