import DualStack.Config.FamilySet
import DualStack.Store.NameMap

/-!
# Capabilities of interfaces

Which address families an interface carries, and a table of them. An interface that is not in
the table carries none.
-/

set_option autoImplicit false

namespace DualStack

/-- The capabilities of interfaces, by name. -/
abbrev CapabilityTable := NameMap FamilySet

/-- The capabilities of an interface, none if it is unknown. -/
def CapabilityTable.lookup (capabilities : CapabilityTable) (interface : String) : FamilySet :=
  capabilities[interface]?.getD FamilySet.empty

end DualStack
