import DualStack.Net.Address
import DualStack.Proofs.Numerals
import Mathlib.Data.List.TakeWhile
import Mathlib.Tactic.Ring

/-!
# Written addresses are read back

The octets and the groups of an address determine it, and each of them is read back from its
digits, so what remains is where a text is cut. No octet has a dot and no group a colon in it. In
the text of an IPv6 address two colons stand next to each other only where a run of zero groups was
left out, or in front of a mapped address; the reader finds that place because every group has a
digit, and fills it with the zeros that were there.
-/

set_option autoImplicit false

namespace DualStack

/-! ## Numbers in chunks of bits -/

/-- The chunks of a number, most significant first, put together behind another number. -/
theorem foldl_chunks (width count n acc : Nat) :
    ((List.range count).reverse.map fun i => (n >>> (width * i)) % 2 ^ width).foldl
        (fun m chunk => m * 2 ^ width + chunk) acc =
      acc * 2 ^ (width * count) + n % 2 ^ (width * count) := by
  induction count generalizing acc with
  | zero => simp [Nat.mod_one]
  | succ count ih =>
    have hlow : n % 2 ^ (width * (count + 1)) =
        n % 2 ^ (width * count) + 2 ^ (width * count) * ((n >>> (width * count)) % 2 ^ width) := by
      rw [Nat.mul_succ, Nat.pow_add, Nat.mod_mul, Nat.shiftRight_eq_div_pow]
    rw [List.range_succ, List.reverse_append, List.reverse_singleton, List.singleton_append,
      List.map_cons, List.foldl_cons, ih, hlow, Nat.mul_succ, Nat.pow_add]
    ring

/-! ## IPv4 -/

namespace V4

/-- An address of 32 bits is put together again from its octets. -/
theorem ofOctets_octets (bits : BitVec 32) : ofOctets (octets bits) = bits := by
  have hchunks : (octets bits).foldl (fun n octet => n * 256 + octet) 0 =
      0 * 2 ^ (8 * 4) + bits.toNat % 2 ^ (8 * 4) := foldl_chunks 8 4 bits.toNat 0
  apply BitVec.eq_of_toNat_eq
  rw [ofOctets, hchunks, BitVec.toNat_ofNat]
  omega

/-- An octet is below 256. -/
theorem lt_of_mem_octets {bits : BitVec 32} {octet : Nat} (h : octet ∈ octets bits) :
    octet < 256 := by
  obtain ⟨shift, -, rfl⟩ := List.mem_map.1 h
  exact Nat.mod_lt _ (by omega)

/-- The decimal digits of a number below 256 are read as this octet. -/
theorem octet?_toDigits {n : Nat} (h : n < 256) : octet? (Nat.toDigits 10 n) = some n := by
  have hone : ¬((Nat.toDigits 10 n).head? = some '0' ∧ (Nat.toDigits 10 n).length ≠ 1) := by
    rintro ⟨hzero, hlength⟩
    rw [(Text.head?_toDigits_eq_zero_iff (by omega) n).1 hzero] at hlength
    exact hlength rfl
  rw [octet?, if_neg hone, Text.digits?_toDigits, Option.filter_some, if_pos (decide_eq_true h)]

/-- The characters of an address are the digits of its octets and the dots between them. -/
theorem notMem_render {c : Char} (hdigit : Text.isHexDigit c = false) (hdot : c ≠ '.')
    (bits : BitVec 32) : c ∉ render bits := by
  have hoctet : ∀ n, c ∉ Nat.toDigits 10 n := Text.notMem_toDigits (by omega) (by omega) hdigit
  simp [render, octets, List.intercalate_cons_cons, hoctet, hdot]

/-- The text of an IPv4 address is read as this address. -/
theorem parse?_render (bits : BitVec 32) : parse? (render bits) = some bits := by
  have hsplit : Text.splitOn '.' (render bits) = (octets bits).map (Nat.toDigits 10) := by
    refine Text.splitOn_intercalate (by simp [octets]) fun piece hpiece => ?_
    obtain ⟨octet, -, rfl⟩ := List.mem_map.1 hpiece
    exact Text.notMem_toDigits (by omega) (by omega) (by decide) octet
  have hread : (Text.splitOn '.' (render bits)).mapM octet? = some (octets bits) := by
    rw [hsplit]
    exact mapM_map_eq_some fun octet hmem => octet?_toDigits (lt_of_mem_octets hmem)
  rw [parse?, hread]
  exact congrArg some (ofOctets_octets bits)

/-- A text without a dot is no IPv4 address. -/
theorem parse?_eq_none {cs : List Char} (h : '.' ∉ cs) : parse? cs = none := by
  have hsplit : Text.splitOn '.' cs = [cs] := by
    have hone : Text.splitOn '.' (['.'].intercalate [cs]) = [cs] :=
      Text.splitOn_intercalate (by simp) (by simpa using h)
    rwa [List.intercalate_singleton] at hone
  rw [parse?, hsplit]
  cases hread : octet? cs <;> simp [hread]

end V4

/-! ## IPv6 -/

namespace V6

/-- An address of 128 bits is put together again from its groups. -/
theorem ofGroups_groups (bits : BitVec 128) : ofGroups (groups bits) = bits := by
  have hchunks : (groups bits).foldl (fun n group => n * 65536 + group) 0 =
      0 * 2 ^ (16 * 8) + bits.toNat % 2 ^ (16 * 8) := foldl_chunks 16 8 bits.toNat 0
  apply BitVec.eq_of_toNat_eq
  rw [ofGroups, hchunks, BitVec.toNat_ofNat]
  omega

/-- An address of 128 bits has eight groups. -/
theorem length_groups (bits : BitVec 128) : (groups bits).length = 8 := rfl

/-- A group is below 65536. -/
theorem lt_of_mem_groups {bits : BitVec 128} {group : Nat} (h : group ∈ groups bits) :
    group < 65536 := by
  obtain ⟨shift, -, rfl⟩ := List.mem_map.1 h
  exact Nat.mod_lt _ (by omega)

/-! ### Groups between colons -/

/-- The hexadecimal digits of a number below 65536 are read as this group. -/
theorem group?_toDigits {n : Nat} (h : n < 65536) : group? (Nat.toDigits 16 n) = some n := by
  have hpos : 1 ≤ (Nat.toDigits 16 n).length := Nat.length_toDigits_pos
  have hle : (Nat.toDigits 16 n).length ≤ 4 :=
    (Nat.length_toDigits_le_iff (by omega) (by omega)).2 (by omega)
  rw [group?, if_pos ⟨hpos, hle⟩]
  exact Text.readsDigits_hexadecimal.read_toDigits (by omega) n

/-- There is no colon among the digits of a group. -/
theorem colon_notMem_toDigits (n : Nat) : ':' ∉ Nat.toDigits 16 n :=
  Text.notMem_toDigits (by omega) (by omega) (by decide) n

/-- Groups are written with a colon behind each but the last. -/
theorem renderGroups_cons_cons (a b : Nat) (gs : List Nat) :
    renderGroups (a :: b :: gs) = Nat.toDigits 16 a ++ ':' :: renderGroups (b :: gs) := by
  simp [renderGroups, List.intercalate_cons_cons]

/-- Groups that are written start with a digit. -/
theorem exists_renderGroups_cons (g : Nat) (gs : List Nat) :
    ∃ c cs, renderGroups (g :: gs) = c :: cs ∧ c ≠ ':' := by
  obtain ⟨c, cs, hdigits⟩ := List.exists_cons_of_ne_nil (Nat.toDigits_ne_nil (b := 16) (n := g))
  have hcolon : c ≠ ':' := by
    rintro rfl
    exact colon_notMem_toDigits g (by simp [hdigits])
  cases gs with
  | nil => exact ⟨c, cs, by simpa [renderGroups] using hdigits, hcolon⟩
  | cons b gs =>
    refine ⟨c, cs ++ ':' :: renderGroups (b :: gs), ?_, hcolon⟩
    rw [renderGroups_cons_cons, hdigits, List.cons_append]

/-- No two colons stand next to each other in written groups, nor at their end and in front of
what follows. -/
theorem cutAt_renderGroups_append (gs : List Nat) (cs : List Char) :
    Text.cutAt [':', ':'] (renderGroups gs ++ cs) =
      (Text.cutAt [':', ':'] cs).map fun (left, right) => (renderGroups gs ++ left, right) := by
  induction gs with
  | nil => simp [renderGroups]
  | cons a gs ih =>
    cases gs with
    | nil =>
      rw [renderGroups, List.map_singleton, List.intercalate_singleton,
        Text.cutAt_append_of_notMem (colon_notMem_toDigits a)]
    | cons b gs =>
      obtain ⟨c, rest, hstart, hcolon⟩ := exists_renderGroups_cons b gs
      have hone : Text.cutAt [':', ':'] (':' :: (renderGroups (b :: gs) ++ cs)) =
          (Text.cutAt [':', ':'] (renderGroups (b :: gs) ++ cs)).map
            fun (left, right) => (':' :: left, right) := by
        rw [hstart, List.cons_append, Text.cutAt]
        simp [Text.after?, hcolon.symm]
      rw [renderGroups_cons_cons, List.append_assoc, List.cons_append,
        Text.cutAt_append_of_notMem (colon_notMem_toDigits a), hone, ih, Option.map_map,
        Option.map_map]
      simp [Function.comp_def]

/-- Pieces without a colon that are joined with colons are got back, because none of them is
empty. -/
theorem piecesOf_intercalate {pieces : List (List Char)}
    (h : ∀ piece ∈ pieces, piece ≠ [] ∧ ':' ∉ piece) :
    piecesOf ([':'].intercalate pieces) = pieces := by
  cases pieces with
  | nil => rfl
  | cons piece pieces =>
    have hfirst : piece ≠ [] := (h piece List.mem_cons_self).1
    have hfull : [':'].intercalate (piece :: pieces) ≠ [] := by
      cases pieces <;> simp [List.intercalate_cons_cons, hfirst]
    rw [piecesOf, List.isEmpty_eq_false_iff.2 hfull]
    exact Text.splitOn_intercalate (by simp) fun p hp => (h p hp).2

/-- The pieces of written groups are the digits of each of them. -/
theorem piecesOf_renderGroups (gs : List Nat) :
    piecesOf (renderGroups gs) = gs.map (Nat.toDigits 16) := by
  apply piecesOf_intercalate
  intro piece hpiece
  obtain ⟨g, -, rfl⟩ := List.mem_map.1 hpiece
  exact ⟨Nat.toDigits_ne_nil, colon_notMem_toDigits g⟩

/-- The digits of groups are read as these groups, up to the last one. -/
theorem groupsWithTail?_map_toDigits {gs : List Nat} (h : ∀ g ∈ gs, g < 65536) :
    groupsWithTail? (gs.map (Nat.toDigits 16)) = some gs := by
  induction gs with
  | nil => rfl
  | cons a gs ih =>
    have ha : group? (Nat.toDigits 16 a) = some a := group?_toDigits (h a List.mem_cons_self)
    have hlater := ih fun g hg => h g (List.mem_cons_of_mem a hg)
    cases gs with
    | nil =>
      have hdot : '.' ∉ Nat.toDigits 16 a :=
        Text.notMem_toDigits (by omega) (by omega) (by decide) a
      simp [groupsWithTail?, V4.parse?_eq_none hdot, ha]
    | cons b gs =>
      rw [List.map_cons] at hlater
      simp [groupsWithTail?, ha, hlater]

/-! ### The run of zeros that is left out -/

/-- Groups are their leading zeros and what comes behind them. -/
theorem eq_replicate_append_drop (gs : List Nat) :
    gs = List.replicate (leadingZeros gs) 0 ++ gs.drop (leadingZeros gs) := by
  have hzeros : gs.takeWhile (· == 0) = List.replicate (leadingZeros gs) 0 := by
    refine List.eq_replicate_iff.2 ⟨rfl, fun g hg => ?_⟩
    simpa using List.mem_takeWhile_imp hg
  have hfront : gs.take (leadingZeros gs) = gs.takeWhile (· == 0) :=
    (List.prefix_iff_eq_take.1 (List.takeWhile_prefix _)).symm
  rw [← hzeros, ← hfront, List.take_append_drop]

/-- What is left out of a written address is zeros. -/
theorem eq_take_append_replicate_append_drop (gs : List Nat) :
    gs = gs.take (longestZeros gs).1 ++ List.replicate (longestZeros gs).2 0 ++
      gs.drop ((longestZeros gs).1 + (longestZeros gs).2) := by
  induction gs with
  | nil => rfl
  | cons a gs ih =>
    by_cases hhere : (longestZeros gs).2 ≤ leadingZeros (a :: gs)
    · have hrun : longestZeros (a :: gs) = (0, leadingZeros (a :: gs)) := by
        simp [longestZeros, hhere]
      rw [hrun]
      simpa using eq_replicate_append_drop (a :: gs)
    · have hrun : longestZeros (a :: gs) = ((longestZeros gs).1 + 1, (longestZeros gs).2) := by
        simp [longestZeros, hhere]
      have hdrop : (longestZeros gs).1 + 1 + (longestZeros gs).2 =
          (longestZeros gs).1 + (longestZeros gs).2 + 1 := by omega
      rw [hrun, hdrop]
      simpa using ih

/-- Eight groups written in full are read as these groups. -/
theorem groups?_renderGroups {gs : List Nat} (hlength : gs.length = 8) (h : ∀ g ∈ gs, g < 65536) :
    groups? (renderGroups gs) = some gs := by
  have hcut : Text.cutAt [':', ':'] (renderGroups gs) = none := by
    simpa [Text.cutAt, Text.after?] using cutAt_renderGroups_append gs []
  rw [groups?, hcut, piecesOf_renderGroups, groupsWithTail?_map_toDigits h]
  simp [hlength]

/-- Groups written with two colons in the place of some zeros are read with these zeros. -/
theorem groups?_shortened {head tail : List Nat} {count : Nat} (hcount : 1 ≤ count)
    (hlength : head.length + count + tail.length = 8) (hhead : ∀ g ∈ head, g < 65536)
    (htail : ∀ g ∈ tail, g < 65536) :
    groups? (renderGroups head ++ [':', ':'] ++ renderGroups tail) =
      some (head ++ List.replicate count 0 ++ tail) := by
  have hcut : Text.cutAt [':', ':'] (renderGroups head ++ [':', ':'] ++ renderGroups tail) =
      some (renderGroups head, renderGroups tail) := by
    rw [List.append_assoc, cutAt_renderGroups_append, Text.cutAt_append_self]
    simp
  have hread : (piecesOf (renderGroups head)).mapM group? = some head := by
    rw [piecesOf_renderGroups]
    exact mapM_map_eq_some fun g hg => group?_toDigits (hhead g hg)
  have hzeros : 8 - (head.length + tail.length) = count := by omega
  rw [groups?, hcut]
  simp only [hread, piecesOf_renderGroups tail, groupsWithTail?_map_toDigits htail]
  simp [hzeros]
  omega

/-! ### Addresses -/

/-- The value of a mapped address is that of the IPv4 address in it behind sixteen ones. -/
theorem toNat_eq_of_mapped {bits : BitVec 128} {low : BitVec 32} (h : mapped? bits = some low) :
    bits.toNat = 65535 * 2 ^ 32 + low.toNat := by
  unfold mapped? at h
  split at h
  · next hhigh =>
    cases h
    rw [Nat.shiftRight_eq_div_pow] at hhigh
    rw [BitVec.toNat_setWidth]
    omega
  · cases h

/-- The dotted form of a mapped address is read as its groups. -/
theorem groups?_mapped (low : BitVec 32) : groups? ("::ffff:".toList ++ V4.render low) =
    some ([0, 0, 0, 0, 0, 65535] ++ mappedGroups low) := by
  have hcolon : ':' ∉ V4.render low := V4.notMem_render (by decide) (by decide) low
  have hne : V4.render low ≠ [] := by
    intro hempty
    have hread := V4.parse?_render low
    rw [hempty] at hread
    cases hread
  have hcut : Text.cutAt [':', ':'] ("::ffff:".toList ++ V4.render low) =
      some ([], "ffff:".toList ++ V4.render low) :=
    Text.cutAt_append_self ("ffff:".toList ++ V4.render low)
  have hpieces : piecesOf ("ffff:".toList ++ V4.render low) = ["ffff".toList, V4.render low] := by
    have htwo : piecesOf ([':'].intercalate ["ffff".toList, V4.render low]) =
        ["ffff".toList, V4.render low] := piecesOf_intercalate (by simp [hcolon, hne])
    rwa [List.intercalate_cons_cons, List.intercalate_singleton] at htwo
  have hgroup : group? "ffff".toList = some 65535 := by decide
  have htail : groupsWithTail? ["ffff".toList, V4.render low] =
      some (65535 :: mappedGroups low) := by
    simp only [groupsWithTail?, hgroup, V4.parse?_render]
    rfl
  rw [groups?, hcut]
  simp only [hpieces, htail]
  rfl

/-- An address that is not mapped is written by its groups, shortened at their longest run of
zeros. -/
theorem render_of_unmapped {bits : BitVec 128} (h : mapped? bits = none) :
    render bits =
      let gs := groups bits
      let run := longestZeros gs
      if 2 ≤ run.2 then
        renderGroups (gs.take run.1) ++ [':', ':'] ++ renderGroups (gs.drop (run.1 + run.2))
      else renderGroups gs := by
  unfold render
  rw [h]

/-- The text of an address that is not mapped is read as its groups, shortened or not. -/
theorem groups?_render_of_unmapped {bits : BitVec 128} (h : mapped? bits = none) :
    groups? (render bits) = some (groups bits) := by
  have hlt : ∀ g ∈ groups bits, g < 65536 := fun g hg => lt_of_mem_groups hg
  have hzeros := eq_take_append_replicate_append_drop (groups bits)
  have hlength := congrArg List.length hzeros
  rw [List.length_append, List.length_append, List.length_replicate, length_groups] at hlength
  rw [render_of_unmapped h]
  simp only
  split
  · next hrun =>
    rw [groups?_shortened (by omega) hlength.symm (fun g hg => hlt g (List.mem_of_mem_take hg))
      (fun g hg => hlt g (List.mem_of_mem_drop hg)), ← hzeros]
  · exact groups?_renderGroups (length_groups bits) hlt

/-- An IPv6 address is read back from its text. -/
theorem parse?_render (bits : BitVec 128) : parse? (render bits) = some bits := by
  unfold parse?
  cases hmapped : mapped? bits with
  | some low =>
    have hbits := toNat_eq_of_mapped hmapped
    have hlow := low.isLt
    have hgroups : ofGroups ([0, 0, 0, 0, 0, 65535] ++ mappedGroups low) = bits := by
      apply BitVec.eq_of_toNat_eq
      simp [ofGroups, mappedGroups]
      omega
    rw [render, hmapped]
    simp only [groups?_mapped, Option.map_some, hgroups]
  | none => rw [groups?_render_of_unmapped hmapped, Option.map_some, ofGroups_groups]

/-- Every IPv6 address is written with a colon. -/
theorem colon_mem_render (bits : BitVec 128) : ':' ∈ render bits := by
  cases hmapped : mapped? bits with
  | some low =>
    rw [render, hmapped]
    exact List.mem_append_left _ (by decide)
  | none =>
    rw [render_of_unmapped hmapped]
    simp only
    split
    · simp
    · have hwritten : ∃ a b gs, groups bits = a :: b :: gs := ⟨_, _, _, rfl⟩
      obtain ⟨a, b, gs, hgroups⟩ := hwritten
      rw [hgroups, renderGroups_cons_cons]
      simp

end V6

end DualStack
