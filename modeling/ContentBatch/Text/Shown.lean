import ContentBatch.Text.Quoted

/-!
# Values in diagnostics

The notation in which diagnostics show values: texts between quotes, lists in brackets,
optional values as `Some(…)` or `None`, records as a name with their fields in braces.
-/

namespace ContentBatch.Text

/-- Texts one after another with something between them. -/
def joined (between : String) : List String → String
  | [] => ""
  | [last] => last
  | first :: rest => first ++ between ++ joined between rest

/-- A list of texts. -/
def shownTexts (texts : List String) : String :=
  "[" ++ joined ", " (texts.map quoted) ++ "]"

/-- A value that may be missing, given as it is shown. -/
def shownOption : Option String → String
  | none => "None"
  | some value => "Some(" ++ value ++ ")"

/-- A record from its name and its fields, whose values are given as they are shown. -/
def shownRecord (name : String) (fields : List (String × String)) : String :=
  name ++ " \x7b " ++ joined ", "
    (fields.map fun field => field.1 ++ ": " ++ field.2) ++ " \x7d"

/-- A truth value. -/
def shownBool (value : Bool) : String :=
  if value then "true" else "false"

end ContentBatch.Text
