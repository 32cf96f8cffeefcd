import DualStack.Command.Grammar
import DualStack.Net.Family

/-!
# The commands of the operator tool

The commands with their arguments, and how a command line is read as one of them. Options that
are left out have defaults; only the interface of a command that is about one is required. The tool
has lists of its own for the texts that an option takes and passes them on as they are; that the
configuration knows the texts of these lists is proved where its records are read.
-/

set_option autoImplicit false

namespace DualStack

/-- Arguments of the command that writes the global record. -/
structure GlobalArguments where
  enable : Bool
  ipv4 : Bool
  ipv6 : Bool
  mode : String
  /-- The placement of congestion control, as given. -/
  congestion : String
deriving DecidableEq, Repr

/-- Arguments of the command that writes the record of an interface. -/
structure InterfaceArguments where
  interface : String
  enable : Bool
  ipv4 : Bool
  ipv6 : Bool
  maxPaths : PerFamily UInt32
  /-- The number of the preferred version, as given. -/
  preferred : String
deriving DecidableEq, Repr

/-- Arguments of the command that writes the record of congestion control. -/
structure CongestionArguments where
  /-- The placement of congestion control, as given. -/
  mode : String
  noEcn : Bool
  noSelectiveAck : Bool
deriving DecidableEq, Repr

/-- A command of the operator tool. -/
inductive Command where
  | global (args : GlobalArguments)
  | interface (args : InterfaceArguments)
  | congestion (args : CongestionArguments)
  | stats (interface : String)
  | capabilities (interface : String)
  | validate
deriving DecidableEq, Repr

/-- A command line that was understood. -/
structure Invocation where
  configPath : String
  logLevel : String
  command : Command
deriving DecidableEq, Repr

namespace Invocation

open Grammar

/-- The settings file that is read by default. -/
def defaultConfigPath : String := "/etc/sonic/uemgrd.conf"

/-- The options in front of the command. -/
def toolOptions : List OptionSpec :=
  [valued "config" .someText, valued "log-level" .anyText, helpOption, versionOption]

/-- The placements of congestion control that the tool offers. -/
def congestionModes : List String := ["sender", "receiver", "hybrid"]

/-- The numbers of the versions that the tool lets an interface prefer. -/
def preferredVersions : List String := ["4", "6"]

/-- The options of the global command. -/
def globalOptions : List OptionSpec :=
  [switch "enable", switch "ipv4", switch "ipv6", valued "mode" .anyText,
   valued "congestion-control" (.oneOf congestionModes), helpOption]

/-- The options of the interface command. -/
def interfaceOptions : List OptionSpec :=
  [valued "interface" .anyText, switch "enable", switch "ipv4", switch "ipv6",
   valued "max-paths-v4" .number, valued "max-paths-v6" .number,
   valued "prefer-version" (.oneOf preferredVersions), helpOption]

/-- The options of the congestion command. -/
def congestionOptions : List OptionSpec :=
  [valued "mode" (.oneOf congestionModes), switch "no-ecn", switch "no-selective-ack", helpOption]

/-- The options of a command that shows something of an interface. -/
def showOptions : List OptionSpec :=
  [valued "interface" .anyText, helpOption]

/-- The names of the commands. -/
def commandNames : List String :=
  ["global", "interface", "congestion", "stats", "capabilities", "validate"]

/-- The number that an option gives. -/
def pathsOf (given : Given) (name : String) : UInt32 :=
  ((given.value? name).bind number?).getD 4

/-- The interface that must be given. -/
def interfaceOf (given : Given) : Except Usage String :=
  match given.value? "interface" with
  | some interface => .ok interface
  | none => .error .missingOption

/-- The command of a name with the words behind it. -/
def commandOf (name : String) (words : List String) : Except Usage Command :=
  match name with
  | "global" => do
    let given ← readOptions globalOptions .start words
    pure (.global
      { enable := given.has "enable"
        ipv4 := given.has "ipv4"
        ipv6 := given.has "ipv6"
        mode := (given.value? "mode").getD "uet"
        congestion := (given.value? "congestion-control").getD "hybrid" })
  | "interface" => do
    let given ← readOptions interfaceOptions .start words
    let interface ← interfaceOf given
    pure (.interface
      { interface := interface
        enable := given.has "enable"
        ipv4 := given.has "ipv4"
        ipv6 := given.has "ipv6"
        maxPaths := ⟨pathsOf given "max-paths-v4", pathsOf given "max-paths-v6"⟩
        preferred := (given.value? "prefer-version").getD "4" })
  | "congestion" => do
    let given ← readOptions congestionOptions .start words
    pure (.congestion
      { mode := (given.value? "mode").getD "hybrid"
        noEcn := given.has "no-ecn"
        noSelectiveAck := given.has "no-selective-ack" })
  | "stats" => do
    let given ← readOptions showOptions .start words
    let interface ← interfaceOf given
    pure (.stats interface)
  | "capabilities" => do
    let given ← readOptions showOptions .start words
    let interface ← interfaceOf given
    pure (.capabilities interface)
  | "validate" => do
    let _ ← readOptions [helpOption] .start words
    pure .validate
  | _ => .error .unknownCommand

/-- Reads the words behind the name of the tool. -/
def parse (words : List String) : Except Usage Invocation := do
  let selection ← readCommand toolOptions commandNames .start words
  let command ← commandOf selection.command selection.rest
  let progress ← selection.progress.settle
  pure
    { configPath := (progress.given.value? "config").getD defaultConfigPath
      logLevel := (progress.given.value? "log-level").getD "warn"
      command := command }

end Invocation

end DualStack
