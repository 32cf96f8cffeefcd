import DualStack.Json.Reader
import DualStack.Json.Writer
import DualStack.Net.Network

/-!
# Networks in JSON

A network is written as the JSON string of its text and is read from any string that is the text
of a network, whatever escapes the string is spelled with.
-/

set_option autoImplicit false

namespace DualStack

/-- Why a JSON text is no network. -/
inductive SerializedFault where
  | notJson
  /-- The value is not a string, or the escapes in it spell no text. -/
  | notText
  | badNetwork (error : ParseError)
deriving DecidableEq, Repr

namespace Network

/-- The value that a network is written as. -/
def toJson (network : Network) : Json :=
  Json.ofString network.render

/-- The network of a value. -/
def ofJson (value : Json) : Except SerializedFault Network :=
  match value.text? with
  | some text => (parse text).mapError .badNetwork
  | none => .error .notText

/-- The JSON text of a network. -/
def serialize (network : Network) : String :=
  network.toJson.render

/-- The network of a JSON text. -/
def deserialize (s : String) : Except SerializedFault Network :=
  match Json.parse? s with
  | some value => ofJson value
  | none => .error .notJson

end Network

end DualStack
