import ContentBatch.Json.Basic

/-!
# Records in JSON

A record is written as an object with one member for each field, or as an array of its
fields in their order. `Record.slots?` brings both forms to one: a list with a place for
every field, empty where the field was left out.

What may be left out depends on the field. Members that are no field of the record are
passed over; a field that is written twice is refused, and so is an array with more
items than fields.
-/

namespace ContentBatch.Json

/-- When a field may be left out. -/
inductive Absence where
  | refused
  | allowedByName
  | allowed
  deriving DecidableEq, Repr

/-- A field of a record. -/
structure Field where
  name : String
  absence : Absence
  deriving DecidableEq, Repr

namespace Field

/-- A field that has to be written. -/
def required (name : String) : Field := ⟨name, .refused⟩

/-- A field that an object may leave out and an array may not. -/
def optional (name : String) : Field := ⟨name, .allowedByName⟩

/-- A field with a default, which may be left out anywhere. -/
def defaulted (name : String) : Field := ⟨name, .allowed⟩

end Field

namespace Record

/-- The place of a field among the members of an object. -/
def slotOf (members : List (String × Json)) (field : Field) : Option (Option Json) :=
  match valuesOf field.name members with
  | [] => if field.absence = .refused then none else some none
  | [value] => some (some value)
  | _ => none

/-- The places of fields among the items of an array. -/
def slotsOfItems : List Field → List Json → Option (List (Option Json))
  | [], [] => some []
  | [], _ :: _ => none
  | field :: fields, [] =>
    if field.absence = .allowed then (slotsOfItems fields []).map (none :: ·) else none
  | _ :: fields, item :: items => (slotsOfItems fields items).map (some item :: ·)

/-- One place for every field of a record. -/
def slots? (fields : List Field) : Json → Option (List (Option Json))
  | .object members => fields.mapM (slotOf members)
  | .array items => slotsOfItems fields items
  | _ => none

end Record

/-- A word that names one of several alternatives: a string, or an object whose only
member has the word as its name and no value. -/
def word? : Json → Option String
  | .string word => some word
  | .object [(word, .null)] => some word
  | _ => none

/-- The texts of an array of strings. -/
def strings? (value : Json) : Option (List String) := do
  (← value.array?).mapM string?

/-- A string, or nothing for `null`. -/
def optionalString? : Json → Option (Option String)
  | .null => some none
  | .string value => some (some value)
  | _ => none

end ContentBatch.Json
