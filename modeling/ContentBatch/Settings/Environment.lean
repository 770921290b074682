import ContentBatch.Environment
import ContentBatch.Settings.Layers

/-!
# Settings in the environment

A variable whose name starts with `DEFERRED_ACTIONS_`, in letters of any size, is a
setting. Two underscores in the rest of its name stand for the point of a path, and its
text is read as a truth value or a number if it is one.
-/

namespace ContentBatch

namespace Environment

/-- What the names of settings start with, in small letters. -/
def settingStart : String := "deferred_actions_"

/-- The text with a point for every two underscores, from the left. -/
def pointed : List Char → List Char
  | '_' :: '_' :: rest => '.' :: pointed rest
  | c :: rest => c :: pointed rest
  | [] => []

/-- The key of the setting that a variable is, if it is one. -/
def keyOf? (name : String) : Option String :=
  let start := settingStart.toList
  let chars := (Text.lowercaseText name).toList
  if start.isPrefixOf chars then
    some (String.ofList (pointed (chars.drop start.length))) else none

/-- What the text of a variable means. -/
def valueOf (text : String) : Datum :=
  let word := Text.lowercaseText text
  if word == "true" then .bool true
  else if word == "false" then .bool false
  else
    match Number.signed? Number.maxSigned64 text.toList with
    | some value => .integer value
    | none =>
      match Number.float? text.toList with
      | some value => .float value
      | none => .text text

/-- The settings among the variables. -/
def settings (environment : Environment) : Entries :=
  environment.foldl (fun entries (name, text) =>
    match keyOf? name with
    | some key => Keyed.put key (valueOf text) entries
    | none => entries) []

end Environment

end ContentBatch
