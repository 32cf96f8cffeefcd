/-!
# Failures of stores and settings

What can go wrong outside the managed tables: a command on an open store, the connection to
it, and the settings of the daemon itself.
-/

set_option autoImplicit false

namespace DualStack

/-- A failed store command, a missing connection, or a rejected setting. -/
inductive Failure where
  | database (operation message : String)
  | connection (endpoint message : String)
  | invalidSetting (field message : String)
deriving DecidableEq, Repr

namespace Failure

/-- The wording of a failure. -/
def message : Failure → String
  | database operation message => s!"{operation} failed: {message}"
  | connection endpoint message => s!"cannot reach {endpoint}: {message}"
  | invalidSetting field message => s!"invalid {field}: {message}"

/-- Whether the store, and not the data, is at fault. -/
def isStoreFailure : Failure → Bool
  | database .. | connection .. => true
  | invalidSetting .. => false

end Failure

end DualStack
