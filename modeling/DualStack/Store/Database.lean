/-!
# The three databases

Operators write to the configuration database, the derived state goes to the application
database, and counters are read from the state database. Each has a number on the server and
a character between table name and record key.
-/

set_option autoImplicit false

namespace DualStack

/-- A logical database. -/
inductive Database where
  /-- Operator configuration. -/
  | config
  /-- Derived state, consumed by the data-plane agent. -/
  | appl
  /-- Operational state and counters. -/
  | state
deriving DecidableEq, Repr, Inhabited

namespace Database

/-- The name of a database. -/
def name : Database → String
  | config => "CONFIG_DB"
  | appl => "APPL_DB"
  | state => "STATE_DB"

/-- The number of a database on a stock server. -/
def number : Database → Nat
  | config => 4
  | appl => 0
  | state => 6

/-- The character between table name and record key. -/
def separator : Database → Char
  | appl => ':'
  | config | state => '|'

/-- The store key of a record of a table. -/
def recordKey (database : Database) (table key : String) : String :=
  s!"{table}{database.separator}{key}"

end Database

/-- Where a database is served. -/
structure Endpoint where
  host : String
  port : UInt16
  number : UInt32
deriving DecidableEq, Repr

/-- The address of an endpoint. -/
def Endpoint.uri (endpoint : Endpoint) : String :=
  s!"redis://{endpoint.host}:{endpoint.port}/{endpoint.number}"

end DualStack
