import DualStack.Settings.Section
import DualStack.Schema
import DualStack.Store.Database
import DualStack.Store.Failure

/-!
# Settings of the daemon

Where the databases are served, on which channel notifications are published, changes to which
tables start a run, and for how long changes are collected first. All of it comes from one file
with two sections; without the file, everything has its default. The file is either read as a
whole or rejected, and settings that are read are then checked, so no settings with an empty
host, channel or list of tables or with port zero are ever used.
-/

set_option autoImplicit false

namespace DualStack

/-- The server of the databases, and the numbers of the databases on it. -/
structure DatabaseSettings where
  host : String
  port : UInt16
  configNumber : UInt32
  applNumber : UInt32
  stateNumber : UInt32
deriving DecidableEq, Repr

/-- How the daemon publishes and listens. -/
structure DaemonSettings where
  channel : String
  /-- The tables whose changes start a run. -/
  tables : List String
  /-- How long changes are collected, in milliseconds. -/
  debounce : UInt64
deriving DecidableEq, Repr

/-- All settings of the daemon. -/
structure Settings where
  database : DatabaseSettings
  daemon : DaemonSettings
deriving DecidableEq, Repr

namespace DatabaseSettings

/-- A stock server on the same host. -/
def default : DatabaseSettings where
  host := "127.0.0.1"
  port := 6379
  configNumber := UInt32.ofNat Database.config.number
  applNumber := UInt32.ofNat Database.appl.number
  stateNumber := UInt32.ofNat Database.state.number

/-- The names of the fields, in order. -/
def names : List String :=
  ["redis_host", "redis_port", "config_db_number", "appl_db_number", "state_db_number"]

/-- The settings that a section gives. -/
def ofSection? (s : Section) : Option DatabaseSettings := do
  let host ← s.field? names 0 Section.text? default.host
  let port ← s.field? names 1 (Section.natBelow? UInt16.size) default.port.toNat
  let config ← s.field? names 2 (Section.natBelow? UInt32.size) default.configNumber.toNat
  let appl ← s.field? names 3 (Section.natBelow? UInt32.size) default.applNumber.toNat
  let state ← s.field? names 4 (Section.natBelow? UInt32.size) default.stateNumber.toNat
  if s.restIsReadable names then
    some
      { host := host
        port := UInt16.ofNat port
        configNumber := UInt32.ofNat config
        applNumber := UInt32.ofNat appl
        stateNumber := UInt32.ofNat state }
  else none

/-- The number of a database on the server. -/
def number (settings : DatabaseSettings) : Database → UInt32
  | .config => settings.configNumber
  | .appl => settings.applNumber
  | .state => settings.stateNumber

/-- Where a database is served. -/
def endpoint (settings : DatabaseSettings) (database : Database) : Endpoint :=
  ⟨settings.host, settings.port, settings.number database⟩

end DatabaseSettings

namespace DaemonSettings

/-- Runs for every managed table, a fifth of a second after a change. -/
def default : DaemonSettings where
  channel := Schema.notificationChannel
  tables := Schema.managedTables
  debounce := 200

/-- The names of the fields, in order. -/
def names : List String :=
  ["notification_channel", "subscribe_tables", "debounce_ms"]

/-- The settings that a section gives. -/
def ofSection? (s : Section) : Option DaemonSettings := do
  let channel ← s.field? names 0 Section.text? default.channel
  let tables ← s.field? names 1 Section.texts? default.tables
  let debounce ← s.field? names 2 (Section.natBelow? UInt64.size) default.debounce.toNat
  if s.restIsReadable names then
    some
      { channel := channel
        tables := tables
        debounce := UInt64.ofNat debounce }
  else none

end DaemonSettings

/-- What stands at the path of the settings file. -/
inductive SettingsFile where
  | missing
  | directory
  | content (bytes : ByteArray)

namespace Settings

/-- The settings without a file. -/
def default : Settings := ⟨DatabaseSettings.default, DaemonSettings.default⟩

/-- The names of the sections. -/
def names : List String := ["database", "daemon"]

/-- The settings of one section of a document. -/
def section? {α : Type} (read : Section → Option α) (name : String) (document : Toml.Entries) :
    Option α :=
  match document.find name with
  | none => read Section.empty
  | some value => (Section.of? value).bind read

/-- The settings of a document. -/
def ofDocument? (document : Toml.Entries) : Option Settings := do
  let database ← section? DatabaseSettings.ofSection? "database" document
  let daemon ← section? DaemonSettings.ofSection? "daemon" document
  if (Section.named document).restIsReadable names then some ⟨database, daemon⟩ else none

/-- The first value that cannot be used. -/
def fault? (settings : Settings) : Option Failure :=
  if settings.database.host = "" then
    some (.invalidSetting "database.redis_host" "must not be empty")
  else if settings.database.port = 0 then
    some (.invalidSetting "database.redis_port" "must be > 0")
  else if settings.daemon.channel = "" then
    some (.invalidSetting "daemon.notification_channel" "must not be empty")
  else if settings.daemon.tables = [] then
    some (.invalidSetting "daemon.subscribe_tables" "at least one table is required")
  else none

/-- Reads the file at a path, without checking the values. -/
def read (path : String) : SettingsFile → Except Failure Settings
  | .missing => .ok default
  | .directory => .error (.invalidSetting path "Is a directory (os error 21)")
  | .content bytes =>
    match String.fromUTF8? bytes with
    | none => .error (.invalidSetting path "stream did not contain valid UTF-8")
    | some text =>
      match (Toml.parse? text).bind ofDocument? with
      | some settings => .ok settings
      | none => .error (.invalidSetting path "Failed to parse config file:")

/-- The checked settings of the file at a path. -/
def load (path : String) (file : SettingsFile) : Except Failure Settings := do
  let settings ← read path file
  match settings.fault? with
  | some failure => throw failure
  | none => pure settings

end Settings

end DualStack
