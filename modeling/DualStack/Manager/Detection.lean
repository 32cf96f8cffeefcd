import DualStack.Manager.LogEvent
import DualStack.State.PipelineError
import DualStack.Store.Memory

/-!
# Detection of capabilities

The addresses of an interface stand in the keys of the address table, behind the name of the
interface. An interface has the capability of a family if one of these addresses is of it;
entries that are no address count for neither.
-/

set_option autoImplicit false

namespace DualStack.Detection

/-- The family of an entry: of the address in front of its first slash. -/
def familyOf? (entry : String) : Option Family :=
  let address := ((Text.cutFirst? '/' entry).map (·.1)).getD entry
  (Address.parse? address).map Address.family

/-- The families of the keys behind `lead`. -/
def familiesOf (lead : String) (keys : List String) : FamilySet :=
  FamilySet.ofList (keys.filterMap fun key => (Text.rest? lead key).bind familyOf?)

/-- The start of the keys of the addresses of an interface. -/
def addressLead (s : Store) (interface : String) : String :=
  s.database.recordKey Schema.addressTable s!"{interface}{s.database.separator}"

/-- The capabilities of an interface, unless the table cannot be read. -/
def tryDetect (s : Store) (interface : String) : Except PipelineError FamilySet :=
  let lead := addressLead s interface
  match s.keys (lead ++ "*") with
  | .ok keys => .ok (familiesOf lead keys)
  | .error failure => .error (.unreachable Schema.addressTable failure.message)

/-- The capabilities of an interface, none if the table cannot be read, and what is logged. -/
def detect (s : Store) (interface : String) : FamilySet × List LogEvent :=
  match tryDetect s interface with
  | .ok families => (families, [])
  | .error _ => (FamilySet.empty, [.detectionFailed])

end DualStack.Detection
