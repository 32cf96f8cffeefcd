/-!
# Log events

The warnings and errors that the manager logs, with the wording of each.
-/

set_option autoImplicit false

namespace DualStack

/-- A warning or an error in the log. -/
inductive LogEvent where
  /-- The global record asks for the feature but has a fault. -/
  | globalRefused
  | invalidRecord (message : String)
  | groupDropped (message : String)
  | loadFailed
  | writeFailed
  | publishFailed
  | detectionFailed
  | badCounter
deriving DecidableEq, Repr

/-- The line of an event: level and message. -/
def LogEvent.line : LogEvent → String
  | globalRefused => "WARN Invalid global record, Ultra Ethernet stays disabled"
  | invalidRecord message => s!"WARN Invalid UE config: {message}"
  | groupDropped message => s!"ERROR Skipping ECMP group: {message}"
  | loadFailed => "ERROR UE dual-stack config load failed"
  | writeFailed => "ERROR Failed to write UE state"
  | publishFailed => "WARN Failed to publish dual-stack notification"
  | detectionFailed => "WARN Failed to detect IP capabilities"
  | badCounter => "WARN Unparseable counter, reading as 0"

end DualStack
