import ContentBatch.Json.Format
import ContentBatch.Json.Record
import ContentBatch.Workflow

/-!
# Workflow models in JSON

The metadata of a model may be any object that is not nested too deeply. It is kept in
canonical form: names in order, and of several values under one name the last.
-/

namespace ContentBatch.WorkflowModel

/-- The greatest depth of nested arrays and objects in a document. -/
def maxDepth : Nat := 127

/-- The fields of a model. -/
def fields : List Json.Field :=
  [.required "id", .optional "title", .defaulted "metadata"]

/-- A model as data. -/
def toJson (model : WorkflowModel) : Json :=
  .object [("id", .string model.id),
    ("title", (model.title.map Json.string).getD .null),
    ("metadata", .object model.metadata)]

/-- Metadata in canonical form, unless the document around it would be nested too
deeply. -/
def metadata? (json : Json) : Option (List (String × Json)) := do
  let members ← json.object?
  if json.depth + 1 ≤ maxDepth then Json.canonicalMembers? members [] else none

/-- The model that some data stands for. -/
def ofJson? (json : Json) : Option WorkflowModel :=
  match Json.Record.slots? fields json with
  | some [some id, title, metadata] => do
      return ⟨← id.string?, ← (title.getD .null).optionalString?,
        ← metadata? (metadata.getD (.object []))⟩
  | _ => none

/-- The format of models. -/
def format : Json.Format WorkflowModel := ⟨toJson, ofJson?⟩

end ContentBatch.WorkflowModel
