import ContentBatch.Datum.Basic
import ContentBatch.Json.Reader

/-!
# Settings in JSON files

A JSON file may be nested up to a limit. Integers beyond sixty-four bits with sign are
taken as numbers with a fraction. Of several members with one name the last counts.
-/

namespace ContentBatch.Datum

/-- The greatest depth of a JSON file. -/
def maxJsonDepth : Nat := 127

/-- An integer, or the nearest number with a fraction if it is too great. -/
def ofInteger (value : Int) : Datum :=
  if value ≤ Number.maxSigned64 then integer value
  else float (Number.Binary64.nearest false value.toNat 1)

mutual

/-- The datum that a JSON value stands for; nothing if some part of it is unusable. -/
def ofJson? : Json → Option Datum
  | .null => some null
  | .bool value => some (bool value)
  | .integer value => some (ofInteger value)
  | .decimal value => value.scaled?.map float
  | .string value => some (text value)
  | .array items => (ofItems? items).map list
  | .object members => (ofMembers? members []).map table
  | .unusable => none

/-- The data that the items of an array stand for. -/
def ofItems? : List Json → Option (List Datum)
  | [] => some []
  | item :: rest => do
      let item ← ofJson? item
      let rest ← ofItems? rest
      return item :: rest

/-- The entries of an object, added to those so far. -/
def ofMembers? :
    List (String × Json) → List (String × Datum) → Option (List (String × Datum))
  | [], entries => some entries
  | (name, value) :: rest, entries => do
      let value ← ofJson? value
      ofMembers? rest (Keyed.put name value entries)

end

/-- The datum that the text of a JSON file stands for. -/
def ofJsonText? (source : String) : Option Datum := do
  let json ← Json.ofText? source
  if json.depth ≤ maxJsonDepth then ofJson? json else none

end ContentBatch.Datum
