import DualStack.Toml.Value

/-!
# Tables of a TOML document

How keys, headers and double-bracketed headers build the tables of a document. A key may be set
once; a table may have one header; keys with dots extend only tables that such keys have made;
what stands between braces or brackets is closed; a double-bracketed header adds a table to the
list of its name. The first violation makes the document invalid.
-/

set_option autoImplicit false

namespace DualStack.Toml

/-- Changes the entries of the table at a path below a table, and makes the tables on the way that
do not exist. The way leads through the latest table of a list. `dotted` says whether the path
comes from a key with dots or from a header. -/
def within {α : Type} (dotted : Bool) (change : Origin → Entries → Option (Entries × α)) :
    List String → Origin → Entries → Option (Entries × α)
  | [], origin, entries => change origin entries
  | key :: path, _, entries =>
    match entries.find key with
    | none => do
      let origin := if dotted then Origin.dotted else Origin.implied
      let (below, a) ← within dotted change path origin []
      some (entries.put key (.table origin below), a)
    | some (.table origin below) =>
      if origin = .inline || (dotted && origin = .header) then none
      else do
        let (below, a) ← within dotted change path origin below
        some (entries.put key (.table origin below), a)
    | some (.tables (.table origin below :: earlier)) => do
      let (below, a) ← within dotted change path origin below
      some (entries.put key (.tables (.table origin below :: earlier)), a)
    | _ => none

/-- The change that sets a new key in a table reached by a key with or without dots. -/
def setNew (hasDots : Bool) (key : String) (value : Value) (origin : Origin) (entries : Entries) :
    Option (Entries × Unit) :=
  if hasDots != (origin == .dotted) || (entries.find key).isSome then none
  else some (entries ++ [(key, value)], ())

/-- Sets a key with its path in a table. -/
def assign (origin : Origin) (entries : Entries) (path : List String) (key : String)
    (value : Value) : Option Entries :=
  (within true (setNew (!path.isEmpty) key value) path origin entries).map (·.1)

/-- A header: whether it is double-bracketed, and the name with its path. -/
structure Header where
  isList : Bool
  path : List String
  key : String
deriving Repr

/-- A document under construction: the tables that are finished, and the one whose keys are being
read, with its header. -/
structure Draft where
  finished : Entries
  header : Option Header
  current : Entries

namespace Draft

/-- Nothing has been read. -/
def start : Draft := ⟨[], none, []⟩

/-- The change that puts a finished table under its name. -/
def putTable (header : Header) (current : Entries) (_ : Origin) (entries : Entries) :
    Option (Entries × Unit) :=
  let table := Value.table .header current
  if header.isList then
    match entries.find header.key with
    | none => some (entries.put header.key (.tables [table]), ())
    | some (.tables earlier) => some (entries.put header.key (.tables (table :: earlier)), ())
    | _ => none
  else if (entries.find header.key).isSome then none
  else some (entries ++ [(header.key, table)], ())

/-- Finishes the table that is being read. -/
def finish (draft : Draft) : Option Entries :=
  match draft.header with
  | none => some draft.current
  | some header =>
    (within false (putTable header draft.current) header.path .header draft.finished).map (·.1)

/-- The change that takes what a table with a header already has from being on the way to others. -/
def takeImplied (header : Header) (_ : Origin) (entries : Entries) : Option (Entries × Entries) :=
  match entries.find header.key with
  | none => some (entries, [])
  | some (.table .implied below) =>
    if header.isList then none else some (entries.filter (·.1 != header.key), below)
  | some (.tables _) => if header.isList then some (entries, []) else none
  | some _ => none

/-- Begins the table of a header. -/
def begin (draft : Draft) (header : Header) : Option Draft := do
  let finished ← draft.finish
  let (finished, current) ← within false (takeImplied header) header.path .header finished
  some ⟨finished, some header, current⟩

/-- Sets a key of the table that is being read. -/
def assign (draft : Draft) (path : List String) (key : String) (value : Value) : Option Draft :=
  (Toml.assign .header draft.current path key value).map fun current => { draft with current }

end Draft

end DualStack.Toml
