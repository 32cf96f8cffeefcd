import DualStack.Json.Writer
import DualStack.Json.Reader
import DualStack.State.Capability
import DualStack.Store.Fields

/-!
# Change notifications

The message about one interface: its name, the operation, the fields as configured, and the
capabilities. It is written as one compact JSON object with its members in this order and the
fields by name. Reading accepts the members in any order and others besides them, or an array of
the four values in order; each member must be there once.
-/

set_option autoImplicit false

namespace DualStack

/-- A message about one interface. -/
structure Notification where
  interface : String
  operation : String
  config : Hash
  capabilities : FamilySet
deriving DecidableEq

namespace Notification

/-- The message that an interface has new dual-stack settings. -/
def setDualStack (interface : String) (config : Hash) (capabilities : FamilySet) :
    Notification where
  interface := interface
  operation := "SET_DUAL_STACK"
  config := config
  capabilities := capabilities

/-- The object of texts by name. -/
def jsonOfHash (hash : Hash) : Json :=
  Json.ofMembers (hash.toList.map fun (name, value) => (name, Json.ofString value))

/-- The object with a truth value for each family. -/
def jsonOfFamilies (families : FamilySet) : Json :=
  Json.ofMembers (families.toList.map fun (family, member) => (family.name, Json.bool member))

/-- The value that a message is written as. -/
def toJson (notification : Notification) : Json :=
  Json.ofMembers
    [("interface", Json.ofString notification.interface),
     ("operation", Json.ofString notification.operation),
     ("config", jsonOfHash notification.config),
     ("capabilities", jsonOfFamilies notification.capabilities)]

/-- The written form of a message. -/
def render (notification : Notification) : String :=
  notification.toJson.render

/-- The members of an object with their names as texts. -/
def namedMembers? (members : List (List Char × Json)) : Option (List (String × Json)) :=
  members.mapM fun (name, value) => (Json.name? name).map fun name => (name, value)

/-- The only member of a name. -/
def only? (name : String) (members : List (String × Json)) : Option Json :=
  match members.filter (·.1 == name) with
  | [(_, value)] => some value
  | _ => none

/-- The values of a record with the given members: an object in which each of them occurs once,
or an array of exactly their values. -/
def values? (names : List String) : Json → Option (List Json)
  | .object members => do
    let named ← namedMembers? members
    names.mapM fun name => only? name named
  | .array items => if items.length = names.length then some items else none
  | _ => none

/-- The hash of an object of texts, in which the last value of a name counts. -/
def hashOfJson? : Json → Option Hash
  | .object members => do
    let pairs ← members.mapM fun (name, value) => do
      let name ← Json.name? name
      let text ← value.text?
      some (name, text)
    some (Fields.toHash pairs)
  | _ => none

/-- The set of families of an object of truth values. -/
def familiesOfJson? (value : Json) : Option FamilySet :=
  match values? (Family.all.map Family.name) value with
  | some [v4, v6] => do
    let ipv4 ← v4.bool?
    let ipv6 ← v6.bool?
    some ⟨ipv4, ipv6⟩
  | _ => none

/-- The message that a value stands for. -/
def ofJson? (value : Json) : Option Notification :=
  match values? ["interface", "operation", "config", "capabilities"] value with
  | some [interface, operation, config, capabilities] => do
    let interface ← interface.text?
    let operation ← operation.text?
    let config ← hashOfJson? config
    let capabilities ← familiesOfJson? capabilities
    some ⟨interface, operation, config, capabilities⟩
  | _ => none

/-- The message of a text. -/
def parse? (s : String) : Option Notification :=
  (Json.parse? s).bind ofJson?

end Notification

end DualStack
