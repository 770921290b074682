import ContentBatch.Number.Binary64

/-!
# JSON values

A value keeps the members of an object in the order in which they were written, repeated
names included, since the data formats of this library refuse some repetitions.

Whole numbers are integers when they fit into sixty-four bits, with or without sign; all
other numbers are decimals. A string or number that no value can hold — half of a
surrogate pair, or a number beyond the range of sixty-four bits — is kept as `unusable`,
and so is an object with half of a surrogate pair in a name: it is refused where a value
is wanted and passed over where it is ignored.
-/

namespace ContentBatch

/-- JSON values as they are written. -/
inductive Json where
  | null
  | bool (value : Bool)
  | integer (value : Int)
  | decimal (value : Number.Decimal)
  | string (value : String)
  | array (items : List Json)
  | object (members : List (String × Json))
  | unusable
  deriving Repr

namespace Json

/-- The values written under a name, in order. -/
def valuesOf (name : String) (members : List (String × Json)) : List Json :=
  members.filterMap fun member => if member.1 == name then some member.2 else none

/-- The last value written under a name. -/
def member? (name : String) : Json → Option Json
  | .object members => (valuesOf name members).getLast?
  | _ => none

/-- The text of a string. -/
def string? : Json → Option String
  | .string value => some value
  | _ => none

/-- The truth value. -/
def bool? : Json → Option Bool
  | .bool value => some value
  | _ => none

/-- A whole number from zero to `limit`. -/
def unsigned? (limit : Nat) : Json → Option Nat
  | .integer (.ofNat value) => if value ≤ limit then some value else none
  | _ => none

/-- The items of an array. -/
def array? : Json → Option (List Json)
  | .array items => some items
  | _ => none

/-- The members of an object. -/
def object? : Json → Option (List (String × Json))
  | .object members => some members
  | _ => none

mutual

/-- How deep arrays and objects are nested in a value. -/
def depth : Json → Nat
  | .array items => depthItems items + 1
  | .object members => depthMembers members + 1
  | _ => 0

/-- The greatest depth among items. -/
def depthItems : List Json → Nat
  | [] => 0
  | item :: rest => max (depth item) (depthItems rest)

/-- The greatest depth among members. -/
def depthMembers : List (String × Json) → Nat
  | [] => 0
  | (_, value) :: rest => max (depth value) (depthMembers rest)

end

/-- Puts a member into a list sorted by name, in place of one of the same name. -/
def insertMember (name : String) (value : Json) :
    List (String × Json) → List (String × Json)
  | [] => [(name, value)]
  | (key, old) :: rest =>
    if name < key then (name, value) :: (key, old) :: rest
    else if name = key then (name, value) :: rest
    else (key, old) :: insertMember name value rest

mutual

/-- The value with the members of every object sorted by name, of several with one name
the last; nothing if some part is unusable. -/
def canonical? : Json → Option Json
  | .array items => (canonicalItems? items).map .array
  | .object members => (canonicalMembers? members []).map .object
  | .unusable => none
  | value => some value

/-- The canonical forms of items. -/
def canonicalItems? : List Json → Option (List Json)
  | [] => some []
  | item :: rest => do
      let item ← canonical? item
      let rest ← canonicalItems? rest
      return item :: rest

/-- Members added one by one, in canonical form, to the sorted members so far. -/
def canonicalMembers? : List (String × Json) → List (String × Json) →
    Option (List (String × Json))
  | [], sorted => some sorted
  | (name, value) :: rest, sorted => do
      let value ← canonical? value
      canonicalMembers? rest (insertMember name value sorted)

end

end Json

end ContentBatch
