import DualStack.Store.Memory

/-!
# Tables

A table is the set of records whose store keys start with its name and the separator of the
database. It is read as a list of record keys and fields in the order of the store, without
the records that have no fields.
-/

set_option autoImplicit false

namespace DualStack

/-- The records of one table: record key and fields, in order of enumeration. -/
abbrev Table := List (String × Fields)

namespace Store

/-- The start of the store keys of a table. -/
def tableLead (s : Store) (table : String) : String :=
  s.database.recordKey table ""

/-- Reads the records behind the given store keys, leaving out the empty ones. -/
def readRecords (s : Store) (lead : String) : List String → Except Failure Table
  | [] => .ok []
  | key :: keys =>
    match Text.rest? lead key with
    | none => s.readRecords lead keys
    | some recordKey => do
      let fields ← s.hgetall key
      let records ← s.readRecords lead keys
      pure (if fields.isEmpty then records else (recordKey, fields) :: records)

/-- Every record of a table. -/
def table (s : Store) (name : String) : Except Failure Table := do
  let lead := s.tableLead name
  let keys ← s.keys (lead ++ "*")
  s.readRecords lead keys

/-- Replaces one record of a table. -/
def setEntry (s : Store) (table key : String) (fields : Fields) : Except Failure Store :=
  s.replace (s.database.recordKey table key) fields

end Store

end DualStack
