import ContentBatch.Datum.Basic
import ContentBatch.Toml.Text

/-!
# Tables of TOML files

A table can be written in pieces, and how its first piece came to be decides which
further pieces are allowed. A table that was only named on the way to another one may
get a header of its own later. A table that was made by a dotted key takes further
dotted keys but no header. A table with a header takes neither. Values are closed, those
within braces and brackets too.

All of that is decided by `updateAt`, which walks to the end of a path.
-/

namespace ContentBatch.Toml

/-- How a table came to be: named on the way of a header, by a header of its own, or by
a dotted key. -/
inductive Origin where
  | implied
  | headed
  | dotted
  deriving DecidableEq, Repr

/-- What a name in a table stands for: a value, a table, or a row of tables. -/
inductive Node where
  | value (datum : Datum)
  | table (origin : Origin) (entries : List (String × Node))
  | rows (tables : List (List (String × Node)))

/-- The entries of a table. -/
abbrev Table := List (String × Node)

namespace Node

mutual

/-- The datum that a node stands for. -/
def toDatum : Node → Datum
  | value datum => datum
  | table _ entries => .table (entriesToData entries)
  | rows tables => .list (rowsToData tables)

/-- The data of entries. -/
def entriesToData : List (String × Node) → List (String × Datum)
  | [] => []
  | (key, node) :: rest => (key, toDatum node) :: entriesToData rest

/-- The data of a row of tables. -/
def rowsToData : List (List (String × Node)) → List Datum
  | [] => []
  | entries :: rest => .table (entriesToData entries) :: rowsToData rest

end

end Node

namespace Table

/-- Changes the table at the end of a path. Tables that are missing on the way are made;
of a row of tables the last one is meant. The way of a dotted key does not lead through
tables with headers. -/
def updateAt (dottedKey : Bool) (update : Origin → Table → Option Table) :
    List String → Origin → Table → Option Table
  | [], origin, entries => update origin entries
  | key :: path, _, entries =>
    match entries.lookup key with
    | none => do
        let origin := if dottedKey then .dotted else .implied
        let inner ← updateAt dottedKey update path origin []
        return Keyed.put key (.table origin inner) entries
    | some (.value _) => none
    | some (.table origin inner) =>
      if dottedKey && origin = .headed then none
      else do
        let inner ← updateAt dottedKey update path origin inner
        return Keyed.put key (.table origin inner) entries
    | some (.rows tables) => do
        let inner ← updateAt dottedKey update path .headed (tables.getLast?.getD [])
        return Keyed.put key (.rows (tables.dropLast ++ [inner])) entries

/-- Adds an entry under a name that is still free. The tables that a dotted key ends in
were made by dotted keys, the others were not. -/
def addValue (key : Key) (datum : Datum) (origin : Origin)
    (entries : Table) : Option Table :=
  if (origin = .dotted) = key.path.isEmpty || (entries.lookup key.name).isSome then none
  else some (Keyed.put key.name (.value datum) entries)

/-- Adds an entry to a table. -/
def add (entries : Table) (key : Key) (datum : Datum) : Option Table :=
  updateAt true (addValue key datum) key.path .headed entries

/-- Gives a table its header. -/
def openTable (name : String) (entries : Table) : Option Table :=
  match entries.lookup name with
  | none => some (Keyed.put name (.table .headed []) entries)
  | some (.table .implied inner) => some (Keyed.put name (.table .headed inner) entries)
  | _ => none

/-- Adds a table to a row of tables. -/
def openRow (name : String) (entries : Table) : Option Table :=
  match entries.lookup name with
  | none => some (Keyed.put name (.rows [[]]) entries)
  | some (.rows tables) => some (Keyed.put name (.rows (tables ++ [[]])) entries)
  | _ => none

end Table

end ContentBatch.Toml
