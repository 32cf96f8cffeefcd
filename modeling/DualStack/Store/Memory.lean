import DualStack.Store.Fields
import DualStack.Store.Database
import DualStack.Store.Failure
import DualStack.Text.Split

/-!
# The store

A store holds hashes under keys and the messages published so far. It can be made
unavailable, and single keys can be made to fail. Every operation first looks at these two
faults, unavailability before the key, and a failed operation changes nothing: it returns no
store. Keys are listed in code-point order.
-/

set_option autoImplicit false

namespace DualStack

/-- A database in memory, with its faults and what was published on it. -/
structure Store where
  database : Database
  hashes : NameMap Hash
  /-- Channel and message of everything published, oldest first. -/
  published : List (String × String)
  unavailable : Bool
  failing : NameSet
deriving DecidableEq

/-- The commands a store answers. -/
inductive Operation where
  | hgetall
  | hget
  | hset
  | del
  | keys
  | publish
deriving DecidableEq, Repr

/-- The name of a command in messages. -/
def Operation.name : Operation → String
  | hgetall => "hgetall"
  | hget => "hget"
  | hset => "hset"
  | del => "del"
  | keys => "keys"
  | publish => "publish"

namespace Store

/-- A store that holds nothing and has no faults. -/
def empty (database : Database) : Store where
  database := database
  hashes := ∅
  published := []
  unavailable := false
  failing := ∅

/-- Makes every operation fail, or succeed again. -/
def setUnavailable (s : Store) (value : Bool) : Store :=
  { s with unavailable := value }

/-- Makes every operation on a key, key pattern or channel fail. -/
def failOn (s : Store) (key : String) : Store :=
  { s with failing := s.failing.insert key }

/-- The failure of an operation on `key`, if a fault of the store is in its way. -/
def fault? (s : Store) (operation : Operation) (key : String) : Option Failure :=
  if s.unavailable then some (.database operation.name "store unavailable")
  else if s.failing.contains key then
    some (.database operation.name s!"injected failure for {key}")
  else none

/-- The result of an operation on `key`, unless a fault is in its way. -/
def guarded {α : Type} (s : Store) (operation : Operation) (key : String) (result : α) :
    Except Failure α :=
  match s.fault? operation key with
  | some failure => .error failure
  | none => .ok result

/-- Every field of a hash by name; none if the key is missing. -/
def hgetall (s : Store) (key : String) : Except Failure Fields :=
  s.guarded .hgetall key (s.hashes[key]?.getD ∅).toList

/-- One field of a hash. -/
def hget (s : Store) (key name : String) : Except Failure (Option String) :=
  s.guarded .hget key (s.hashes[key]?.bind (·[name]?))

/-- Sets fields of a hash and leaves its other fields; without fields, makes an empty hash. -/
def hset (s : Store) (key : String) (fields : Fields) : Except Failure Store :=
  s.guarded .hset key
    { s with hashes := s.hashes.insert key (NameMap.insertAll (s.hashes[key]?.getD ∅) fields) }

/-- Removes a key. -/
def del (s : Store) (key : String) : Except Failure Store :=
  s.guarded .del key { s with hashes := s.hashes.erase key }

/-- Replaces a hash by exactly the given fields; without fields, removes it. -/
def replace (s : Store) (key : String) (fields : Fields) : Except Failure Store := do
  let cleared ← s.del key
  if fields.isEmpty then pure cleared else cleared.hset key fields

/-- Whether a key matches a pattern: the pattern itself, or its start up to a final star. -/
def keyMatches (pattern key : String) : Bool :=
  if pattern.toList.getLast? = some '*' then
    (Text.after? pattern.toList.dropLast key.toList).isSome
  else key == pattern

/-- The keys that match a pattern, in order. -/
def keys (s : Store) (pattern : String) : Except Failure (List String) :=
  s.guarded .keys pattern (s.hashes.keys.filter (keyMatches pattern))

/-- Publishes a message on a channel. -/
def publish (s : Store) (channel message : String) : Except Failure Store :=
  s.guarded .publish channel { s with published := s.published ++ [(channel, message)] }

/-- Forgets what was published. -/
def clearPublished (s : Store) : Store :=
  { s with published := [] }

/-- Fields put into an empty hash one after another are that hash of fields. -/
theorem insertAll_empty (fields : Fields) :
    NameMap.insertAll (∅ : Hash) fields = fields.toHash := rfl

end Store

end DualStack
