import ContentBatch.Datum.Basic
import ContentBatch.Settings.Basic

/-!
# Layers of settings

Settings come in layers, and later layers win. The layers are merged into one table
whose keys are in small letters, entry by entry. A table is merged into a table; any
other value takes the place of what was there; a table takes the place of another value
as soon as it has an entry.

The key of an entry at the top of a layer may be a *path*: names with points between
them, and places of lists in brackets. Text that is no path is a name as a whole.
-/

namespace ContentBatch

/-- A table as the list of its entries. -/
abbrev Entries := List (String × Datum)

namespace Datum

/-- The entries of a table; other values have none. -/
def entries : Datum → Entries
  | table entries => entries
  | _ => []

/-- The items of a list; other values have none. -/
def items : Datum → List Datum
  | list items => items
  | _ => []

end Datum

/-! ## Paths -/

/-- A step of a path, after its first name. -/
inductive PathStep where
  | name (key : String)
  | place (index : Int)
  deriving DecidableEq, Repr

/-- A way into nested tables and lists. -/
structure KeyPath where
  first : String
  steps : List PathStep := []
  deriving DecidableEq, Repr

namespace KeyPath

/-- Whether a character may be part of a name in a path. -/
def isNameChar (c : Char) : Bool :=
  c.isAlphanum || c == ' ' || c == '_' || c == '-'

/-- The name at the head of a text, and the rest. -/
def readName (text : List Char) : Option (String × List Char) :=
  let name := text.takeWhile isNameChar
  if name.isEmpty then none else some (String.ofList name, text.drop name.length)

/-- The text after leading blanks. -/
def skipBlanks (text : List Char) : List Char :=
  text.dropWhile fun c => c == ' ' || c == '\t'

/-- The number of a place, after its opening bracket. -/
def readPlace (text : List Char) : Option (Int × List Char) := do
  let (negative, rest) := match skipBlanks text with
    | '-' :: rest => (true, rest)
    | rest => (false, rest)
  let (digits, rest) := Number.splitDigits rest
  let value ← Number.signed? Number.maxSigned64
      (if negative then '-' :: digits else digits)
  match skipBlanks rest with
  | ']' :: rest => return (value, rest)
  | _ => none

/-- The steps that a text consists of. Each takes a character at least, so the length of
the text is fuel enough. -/
def readSteps : Nat → List Char → Option (List PathStep)
  | _, [] => some []
  | 0, _ => none
  | fuel + 1, '.' :: rest => do
      let (key, rest) ← readName rest
      return .name key :: (← readSteps fuel rest)
  | fuel + 1, '[' :: rest => do
      let (index, rest) ← readPlace rest
      return .place index :: (← readSteps fuel rest)
  | _, _ => none

/-- The path that a key stands for. -/
def ofKey (key : String) : KeyPath :=
  let path? : Option KeyPath := do
    let (first, rest) ← readName key.toList
    return ⟨first, ← readSteps rest.length rest⟩
  path?.getD ⟨key, []⟩

end KeyPath

/-! ## Merging -/

namespace Datum

mutual

/-- A value merged over another one. -/
def mergeOver : Datum → Option Datum → Datum
  | table entries, old =>
    match old with
    | some (table olds) => table (mergeEntries entries olds)
    | some old => if entries.isEmpty then old else table (mergeEntries entries [])
    | none => table (mergeEntries entries [])
  | value, _ => value

/-- Entries merged into a table, one after another. -/
def mergeEntries : List (String × Datum) → Entries → Entries
  | [], olds => olds
  | (key, value) :: rest, olds =>
    let name := Text.lowercaseText key
    mergeEntries rest (Keyed.put name (mergeOver value (olds.lookup name)) olds)

end

/-- Changes what is at a place of a list. Places before the start count from the end;
places after the end are filled with nothing. -/
def updatePlace (index : Int) (update : Option Datum → Datum)
    (items : List Datum) : List Datum :=
  let place := if index < 0 then ((items.length : Int) + index).toNat else index.toNat
  let padded := items ++ List.replicate (place + 1 - items.length) null
  padded.modify place fun old => update (some old)

/-- Merges a value into what is at the end of a path. On the way tables and lists are
made where there are none. -/
def setAt (value : Datum) : List PathStep → Option Datum → Datum
  | [], old => mergeOver value old
  | .name key :: steps, old =>
    let name := Text.lowercaseText key
    let olds := (old.getD null).entries
    table (Keyed.put name (setAt value steps (olds.lookup name)) olds)
  | .place index :: steps, old =>
    let replace (item : Option Datum) : Datum :=
      if steps.isEmpty then value else setAt value steps item
    list (updatePlace index replace (old.getD null).items)

/-- Merges an entry of a layer into a table. -/
def setKey (olds : Entries) (entry : String × Datum) : Entries :=
  let path := KeyPath.ofKey entry.1
  let name := Text.lowercaseText path.first
  Keyed.put name (setAt entry.2 path.steps (olds.lookup name)) olds

/-- Merges a layer into a table. -/
def overlay (olds : Entries) (layer : Entries) : Entries :=
  layer.foldl setKey olds

end Datum

/-! ## The values of settings -/

namespace RetrySettings

/-- Retry settings as a layer. -/
def toDatum (settings : RetrySettings) : Datum :=
  .table [("max_attempts", .integer settings.maxAttempts.toNat),
    ("delay_ms", .integer settings.delay.toNat)]

/-- A budget of attempts. -/
def maxAttemptsOf? (datum : Datum) : Option UInt32 := do
  let value ← datum.unsigned?
  if value ≤ Number.maxUnsigned32 then some (UInt32.ofNat value) else none

/-- A delay in milliseconds. -/
def delayOf? (datum : Datum) : Option Millis :=
  datum.unsigned?.map UInt64.ofNat

/-- The value of a field that may be missing. -/
def fieldOr {α : Type} (default : α) (read : Datum → Option α) : Option Datum → Option α
  | none => some default
  | some datum => read datum

/-- The retry settings of a table or of a list of values in order. -/
def ofDatum? (datum : Datum) : Option RetrySettings := do
  let standard : RetrySettings := {}
  let (maxAttempts, delay) ← match datum with
    | .table entries => some (entries.lookup "max_attempts", entries.lookup "delay_ms")
    | .list items => some (items[0]?, items[1]?)
    | _ => none
  return ⟨← fieldOr standard.maxAttempts maxAttemptsOf? maxAttempts,
    ← fieldOr standard.delay delayOf? delay⟩

end RetrySettings

namespace Settings

/-- Settings as a layer. -/
def toLayer (settings : Settings) : Entries :=
  [("retry", settings.retry.toDatum)]

/-- The settings of merged layers. -/
def ofEntries? (entries : Entries) : Option Settings := do
  return ⟨← RetrySettings.fieldOr {} RetrySettings.ofDatum? (entries.lookup "retry")⟩

/-- The settings of layers over the standard ones. -/
def ofLayers? (layers : List Entries) : Option Settings :=
  ofEntries? (layers.foldl Datum.overlay (Datum.overlay [] (toLayer {})))

end Settings

end ContentBatch
