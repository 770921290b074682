import ContentBatch.Error
import ContentBatch.Pattern.Reader

/-!
# Patterns for paths

A path matches a pattern if the pattern describes the path as a whole. To that end the
pattern is put into a group of its own between the assertions for both ends of the text,
and the result is read as one pattern.

Whatever is stored below a folder of subassets matches `subassets`.
-/

namespace ContentBatch

open Pattern

/-- A pattern that whole paths are compared with. -/
structure PathPattern where
  text : String
  regex : Regex

namespace PathPattern

/-- A pattern between the ends of the text. -/
def anchored (text : String) : String :=
  "^(?:" ++ text ++ ")$"

/-- The pattern with this text for an engine; texts that are no pattern are refused. -/
def ofText? (text : String) (engine : Engine := .standard) :
    Except ActionError PathPattern :=
  match Regex.ofPattern? engine (anchored text).toList with
  | .ok regex => .ok ⟨text, regex⟩
  | .error fault => .error (.validation ("Invalid path pattern: " ++ fault.message))

/-- Whether a path matches a pattern. -/
def isMatch (pattern : PathPattern) (path : String) : Bool :=
  pattern.regex.occursIn path.toList

/-- Any characters within a line, as many as there are. -/
def anything : Regex :=
  .repetition (.step (.complement (.single '\n'))) 0 none

/-- The pattern of everything below a folder of subassets. -/
def subassets : PathPattern where
  text := ".*?/subassets/.*"
  regex := .sequences [.test .textStart,
    .sequences ([anything] ++
      "/subassets/".toList.map (fun c => .step (.single c)) ++ [anything]),
    .test .textEnd]

end PathPattern

end ContentBatch
