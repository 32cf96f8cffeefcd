import DualStack.Manager.Subscription
import DualStack.Proofs.Numerals
import DualStack.Proofs.Records

/-!
# Which table a channel names

The channel of a key carries the number of the database and then the key, behind the mark "__:".
The number has no underscore in it, so the mark is found where it was put and what is read is the
table of the key itself, whatever the key looks like. For a managed table this is the same as
what a load goes by: the keys that are announced under its name are those that start with its
lead.
-/

set_option autoImplicit false

namespace DualStack

namespace Text

/-- The text before the first separator, of a text that starts with a piece and the separator. -/
theorem cutFirst?_eq_some_iff {sep : Char} {s piece : String} (hpiece : sep ∉ piece.toList) :
    (cutFirst? sep s).map Prod.fst = some piece ↔
      startsWith (piece ++ String.singleton sep) s = true := by
  rw [startsWith_iff, cutFirst?, Option.map_map, Option.map_eq_some_iff]
  constructor
  · rintro ⟨⟨left, right⟩, hcut, rfl⟩
    obtain ⟨hs, -⟩ := cutFirst_eq_some_iff.1 hcut
    exact ⟨right, by simp [hs]⟩
  · rintro ⟨rest, hrest⟩
    refine ⟨(piece.toList, rest), cutFirst_eq_some_iff.2 ⟨?_, hpiece⟩, by simp⟩
    simpa using hrest.symm

end Text

namespace Subscription

/-- There is no underscore among the digits of a number. -/
theorem underscore_notMem_toString (n : Nat) : '_' ∉ (toString n).toList := by
  rw [Text.toList_toString]
  exact Text.notMem_toDigits (by omega) (by omega) (by decide) n

/-- The channel of a key, character by character: the mark, the number of the database, the mark
again and the key. -/
theorem toList_channel (databaseNumber : Nat) (key : String) :
    (channel databaseNumber key).toList =
      "__".toList ++ (("keyspace@".toList ++ (toString databaseNumber).toList) ++
        ("__:".toList ++ key.toList)) := by
  show ((("__keyspace@" ++ toString databaseNumber) ++ "__:") ++ key).toList = _
  simp

/-- The mark is not found before the number of the database, and not within it. -/
theorem cutAt_channel (databaseNumber : Nat) (key : String) :
    Text.cutAt "__:".toList (channel databaseNumber key).toList =
      some ("__keyspace@".toList ++ (toString databaseNumber).toList, key.toList) := by
  have hdigits : '_' ∉ "keyspace@".toList ++ (toString databaseNumber).toList := by
    intro hmem
    rcases List.mem_append.1 hmem with hmem | hmem
    · exact absurd hmem (by decide)
    · exact underscore_notMem_toString databaseNumber hmem
  have hstart : ∀ cs, Text.cutAt ['_', '_', ':'] ('_' :: '_' :: 'k' :: cs) =
      (Text.cutAt ['_', '_', ':'] ('k' :: cs)).map
        fun found => ('_' :: '_' :: found.1, found.2) := by
    intro cs
    rw [Text.cutAt, Text.cutAt]
    simp [Text.after?]
    rfl
  calc Text.cutAt "__:".toList (channel databaseNumber key).toList
      = (Text.cutAt ['_', '_', ':'] (("keyspace@".toList ++ (toString databaseNumber).toList) ++
          (['_', '_', ':'] ++ key.toList))).map
            fun found => ('_' :: '_' :: found.1, found.2) := by
        rw [toList_channel]
        exact hstart _
    _ = some ("__keyspace@".toList ++ (toString databaseNumber).toList, key.toList) := by
        rw [Text.cutAt_append_of_notMem hdigits, Text.cutAt_append_self]
        simp

/-- A channel names the table of its key: what stands before the first bar, if there is one. -/
theorem tableOf?_channel (databaseNumber : Nat) (key : String) :
    tableOf? (channel databaseNumber key) = (Text.cutFirst? '|' key).map Prod.fst := by
  unfold tableOf? Text.cutFirst?
  rw [cutAt_channel, Option.map_map]
  cases hcut : Text.cutFirst '|' key.toList <;> simp [hcut]

/-- The keys announced under the name of a managed table are those that a load reads for it. -/
theorem tableOf?_channel_eq_some_iff (databaseNumber : Nat) {key name : String}
    (hname : name ∈ Schema.managedTables) :
    tableOf? (channel databaseNumber key) = some name ↔
      Text.startsWith (Database.config.recordKey name "") key = true := by
  have hbar : '|' ∉ name.toList := by
    have hall : ∀ table ∈ Schema.managedTables, '|' ∉ table.toList := by decide
    exact hall name hname
  rw [tableOf?_channel, Text.cutFirst?_eq_some_iff hbar, Text.startsWith_iff, Text.startsWith_iff,
    Database.toList_recordKey]
  simp [Database.separator]

end Subscription

end DualStack
