import DualStack.Text.Quoted

/-!
# Modes and algorithms

The enumerated values of the configuration. Congestion control and the connection mode are
closed: any other text is an error. The other enumerations are open: a text without a meaning of
its own is kept and passed on as it is, so a value of such an enumeration is its text.
-/

set_option autoImplicit false

namespace DualStack

/-- A text outside a closed enumeration. -/
structure UnknownValue where
  kind : String
  value : String
deriving DecidableEq, Repr

/-- The wording of an unknown value. -/
def UnknownValue.message (unknown : UnknownValue) : String :=
  s!"unknown {unknown.kind} {Text.quoted unknown.value}"

/-- Where congestion control is placed. -/
inductive CongestionControl where
  | sender
  | receiver
  | hybrid
deriving DecidableEq, Repr, Inhabited

namespace CongestionControl

/-- Every placement. -/
def all : List CongestionControl := [sender, receiver, hybrid]

/-- The spelling of a placement. -/
def name : CongestionControl → String
  | sender => "sender"
  | receiver => "receiver"
  | hybrid => "hybrid"

/-- The placement of a spelling. -/
def ofName (s : String) : Except UnknownValue CongestionControl :=
  match all.find? (·.name == s) with
  | some control => .ok control
  | none => .error ⟨"congestion_control", s⟩

/-- The spelling of a placement is read as this placement. -/
theorem ofName_name (control : CongestionControl) : ofName control.name = .ok control := by
  cases control <;> rfl

end CongestionControl

/-- How long RDMA connections live. -/
inductive ConnectionMode where
  | ephemeral
  | persistent
deriving DecidableEq, Repr, Inhabited

namespace ConnectionMode

/-- Every connection mode. -/
def all : List ConnectionMode := [ephemeral, persistent]

/-- The spelling of a connection mode. -/
def name : ConnectionMode → String
  | ephemeral => "ephemeral"
  | persistent => "persistent"

/-- The connection mode of a spelling. -/
def ofName (s : String) : Except UnknownValue ConnectionMode :=
  match all.find? (·.name == s) with
  | some mode => .ok mode
  | none => .error ⟨"connection_mode", s⟩

/-- The spelling of a connection mode is read as this mode. -/
theorem ofName_name (mode : ConnectionMode) : ofName mode.name = .ok mode := by
  cases mode <;> rfl

end ConnectionMode

/-- A value of an open enumeration with the given known spellings. -/
structure OpenMode (known : List String) where
  name : String
deriving DecidableEq, Repr

/-- Whether the value is one of the known spellings. -/
def OpenMode.isKnown {known : List String} (mode : OpenMode known) : Bool :=
  known.contains mode.name

/-- The transport protocol. -/
abbrev TransportMode := OpenMode ["uet"]

/-- How IPv4 and IPv6 traffic share the transport. -/
abbrev DualStackMode := OpenMode ["concurrent"]

/-- How an interface balances its load. -/
abbrev LoadBalanceMode := OpenMode ["ecmp", "entropy_spray"]

/-- How an ECMP group hashes flows. -/
abbrev HashAlgorithm := OpenMode ["crc32"]

end DualStack
