import DualStack.Net.Serialized
import DualStack.Proofs.AddressText
import DualStack.Proofs.Derivation
import DualStack.Proofs.ReadBack
import Mathlib.Logic.Function.Defs

/-!
# Written networks are read back

A network is written as its address, a slash and its length. The length is digits, so the last
slash is the one that was written; the address in front of it has a colon exactly if it is an IPv6
address, so it is read by the reader of its own family. What is read is an address and a length
that a network has, and of these there is one network only. Reading and writing again therefore
gives the one written form of a network, from whatever text it was read first.
-/

set_option autoImplicit false

namespace DualStack.Network

/-- The text of an address is read as this address, of whichever family it is. -/
theorem addressOf_render (address : Address) : addressOf address.render = .ok address := by
  cases address with
  | v4 bits =>
    have hcolon : ':' ∉ V4.render bits := V4.notMem_render (by decide) (by decide) bits
    simp [addressOf, Address.render, hcolon, V4.parse?_render]
  | v6 bits => simp [addressOf, Address.render, V6.colon_mem_render, V6.parse?_render]

/-- The digits of a length below 256 are read as this length. -/
theorem lengthOf_toString (text : String) {length : Nat} (h : length < 256) :
    lengthOf text (toString length) = .ok length := by
  rw [lengthOf, Text.toList_toString, Text.digits?_toDigits, Option.filter_some,
    if_pos (decide_eq_true h)]

variable (network : Network)

/-- The length of a network is below 256, because it fits the family. -/
theorem length_lt : network.length < 256 := by
  have hle := network.length_le
  have hwidth : network.address.family.width ≤ 128 := by
    cases network.address.family <;> decide
  omega

/-- The text of a network is that of its address, a slash and the digits of its length. -/
theorem toList_render : network.render.toList =
    network.address.render.toList ++ '/' :: (toString network.length).toList := by
  show ((network.address.render ++ "/") ++ toString network.length).toList = _
  simp

/-- The last slash in the text of a network is the one behind its address, since there is none among
digits. -/
theorem cutLast?_render :
    Text.cutLast? '/' network.render = some (network.address.render, toString network.length) := by
  have hslash : '/' ∉ (toString network.length).toList := by
    rw [Text.toList_toString]
    exact Text.notMem_toDigits (by omega) (by omega) (by decide) network.length
  rw [Text.cutLast?, Text.cutLast_eq_some_iff.2 ⟨network.toList_render, hslash⟩]
  simp only [Option.map_some, String.ofList_toList]

/-- The text of a network is read as this network. -/
theorem parse_render : parse network.render = .ok network := by
  have hlength := lengthOf_toString network.render network.length_lt
  unfold parse
  rw [network.cutLast?_render]
  simp only [addressOf_render, hlength]
  exact network.of_self

/-- The network that is made of an address and a length has these two. -/
theorem eq_of_of_eq_ok {address : Address} {length : Nat} {network : Network}
    (h : of address length = .ok network) :
    network.address = address ∧ network.length = length := by
  unfold of at h
  split at h
  · split at h
    · cases h
      exact ⟨rfl, rfl⟩
    · cases h
  · cases h

/-- The JSON text of a network is read as this network. -/
theorem deserialize_serialize : deserialize network.serialize = .ok network := by
  have hvalue : Json.parse? network.serialize = some network.toJson :=
    Json.parse?_render (Json.readsBack_ofString network.render)
  rw [deserialize, hvalue]
  simp only [ofJson, toJson, Json.text?_ofString, parse_render]
  rfl

/-- A network is read back from its text: with its address, length and family, by the reader of
networks, by that of its own family, and from JSON. A text that is read as a network leads to the
written form, which stays as it is; and networks are told apart by their texts. -/
theorem read_back_from_text :
    (∀ address length network, of address length = .ok network →
      network.address = address ∧ network.length = length ∧ network.family = address.family ∧
      parse network.render = .ok network ∧
      parseFor address.family network.render = .ok network ∧
      deserialize network.serialize = .ok network) ∧
    (∀ text network, parse text = .ok network →
      (parse network.render).map render = .ok network.render) ∧
    Function.Injective render := by
  refine ⟨?_, ?_, ?_⟩
  · intro address length network h
    obtain ⟨rfl, rfl⟩ := eq_of_of_eq_ok h
    exact ⟨rfl, rfl, rfl, network.parse_render,
      parseFor_eq_ok_iff.2 ⟨network.parse_render, rfl⟩, network.deserialize_serialize⟩
  · intro text network _
    rw [network.parse_render]
    rfl
  · intro a b h
    have hread : parse a.render = .ok b := by
      rw [h]
      exact b.parse_render
    exact Except.ok.inj (a.parse_render.symm.trans hread)

/-- The written form of a network is often not the text it was read from. -/
example : ((parse "2001:0DB8:0:0:1::/080").map render).toOption = some "2001:db8:0:0:1::/80" := by
  decide +kernel

end DualStack.Network
