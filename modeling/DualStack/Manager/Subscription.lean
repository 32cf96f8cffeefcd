import DualStack.Text.Split

/-!
# Subscription to changes

The server announces every write to a record on a channel that names the database and the key.
This module writes the pattern that matches all records of a table and reads the table off the
name of a channel.
-/

set_option autoImplicit false

namespace DualStack.Subscription

/-- The pattern of the channels of all records of a table. -/
def pattern (databaseNumber : Nat) (table : String) : String :=
  s!"__keyspace@{databaseNumber}__:{table}|*"

/-- The channel on which writes to a key are announced. -/
def channel (databaseNumber : Nat) (key : String) : String :=
  s!"__keyspace@{databaseNumber}__:{key}"

/-- The table that a channel names: what stands between the first "__:" and the next bar. -/
def tableOf? (channel : String) : Option String := do
  let (_, key) ← Text.cutAt "__:".toList channel.toList
  let (table, _) ← Text.cutFirst '|' key
  some (String.ofList table)

end DualStack.Subscription
