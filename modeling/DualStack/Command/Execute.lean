import DualStack.Command.Arguments
import DualStack.Manager.Run
import DualStack.Manager.Detection
import DualStack.Manager.Statistics

/-!
# Carrying out commands

The commands that write touch one record of the configuration database and nothing else; whether
the record is valid is only found by the next run or by `validate`. The other commands change
nothing. A command that fails leaves every database as it was.
-/

set_option autoImplicit false

namespace DualStack

/-- What a command prints, and whether it counts as a success. -/
structure CommandOutput where
  text : String
  success : Bool
deriving DecidableEq, Repr

namespace Command

/-- The families of two flags: both if neither is set. -/
def familiesOfFlags (ipv4 ipv6 : Bool) : FamilySet :=
  if !ipv4 && !ipv6 then FamilySet.full else ⟨ipv4, ipv6⟩

/-- The record that the global command writes. -/
def globalRecord (args : GlobalArguments) : Fields :=
  [("enable", boolText args.enable),
   ("transport_mode", args.mode),
   ("congestion_control", args.congestion),
   ("packet_spraying", boolText args.enable),
   ("ip_versions", (familiesOfFlags args.ipv4 args.ipv6).render),
   ("dual_stack_mode", "concurrent")]

/-- The record that the interface command writes, with a path limit for each family. -/
def interfaceRecord (args : InterfaceArguments) : Fields :=
  let families := familiesOfFlags args.ipv4 args.ipv6
  [("ue_enable", boolText args.enable),
   ("ip_versions", families.render),
   ("load_balance_mode", "entropy_spray"),
   ("prefer_version", args.preferred)] ++
  families.toFamilies.map fun family =>
    (maxPathsField family, toString (args.maxPaths.get family).toNat)

/-- The record that the congestion command writes. -/
def congestionRecord (args : CongestionArguments) : Fields :=
  [("mode", args.mode),
   ("algorithm", "ue_cubic"),
   ("ecn_enable", boolText !args.noEcn),
   ("selective_ack", boolText !args.noSelectiveAck)]

/-- The JSON text of a record, fields by name. -/
def recordText (record : Fields) : String :=
  (Notification.jsonOfHash record.toHash).render

/-- Replaces a record of the configuration database. -/
def writeRecord (dbs : Databases) (table key : String) (record : Fields) :
    Except PipelineError Databases :=
  match dbs.config.setEntry table key record with
  | .ok s => .ok { dbs with config := s }
  | .error failure => .error (.storeUnavailable failure)

/-- Carries out a command. -/
def execute (command : Command) (dbs : Databases) :
    Except PipelineError (CommandOutput × Databases) :=
  match command with
  | .global args => do
    let record := globalRecord args
    let dbs ← writeRecord dbs Scope.global.table Schema.globalKey record
    pure (⟨s!"Ultra Ethernet dual-stack global config updated: {recordText record}", true⟩, dbs)
  | .interface args => do
    let record := interfaceRecord args
    let dbs ← writeRecord dbs Scope.interface.table args.interface record
    let text := s!"Ultra Ethernet dual-stack config for {args.interface}: {recordText record}"
    pure (⟨text, true⟩, dbs)
  | .congestion args => do
    let record := congestionRecord args
    let dbs ← writeRecord dbs Schema.congestionTable Schema.congestionKey record
    pure (⟨s!"Ultra Ethernet congestion control updated: {recordText record}", true⟩, dbs)
  | .stats name => do
    let (counters, _) ← Statistics.read dbs.state name
    pure (⟨(Statistics.toJson counters).renderIndented, true⟩, dbs)
  | .capabilities name =>
    let (families, _) := Detection.detect dbs.config name
    pure (⟨(Notification.jsonOfFamilies families).renderIndented, true⟩, dbs)
  | .validate => do
    let errors ← Manager.check dbs
    if errors.isEmpty then pure (⟨"Configuration is valid", true⟩, dbs)
    else pure (⟨"\n".intercalate (errors.map ValidationError.text), false⟩, dbs)

end Command

end DualStack
