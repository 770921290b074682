import ContentBatch.Json.Reader
import ContentBatch.Json.Writer

/-!
# Formats

A format says how the values of a type are written as data and which data stands for
which value.  There may be many texts for one value, of which the format writes one: the
normal text.
-/

namespace ContentBatch.Json

/-- How the values of a type are written as data and read from it. -/
structure Format (α : Type) where
  toJson : α → Json
  ofJson? : Json → Option α

namespace Format

variable {α : Type} (format : Format α)

/-- The text that is written for a value. -/
def toText (value : α) : String :=
  (format.toJson value).toText

/-- The value that a text stands for. -/
def ofText? (text : String) : Option α := do
  format.ofJson? (← Json.ofText? text)

/-- The normal text of the value that a text stands for. -/
def normalized? (text : String) : Option String :=
  (format.ofText? text).map format.toText

end Format

end ContentBatch.Json
