import ContentBatch.Json.Basic

/-!
# Workflow models

A model is known by its identifier; title and metadata are only carried along. Metadata
has its names in order and none twice.
-/

namespace ContentBatch

/-- The model of a workflow. -/
structure WorkflowModel where
  id : String
  title : Option String := none
  metadata : List (String × Json) := []
  deriving Repr

/-- The marker that a session carries while a workflow runs on it. -/
def workflowMarker : String := "changedByWorkflowProcess"

end ContentBatch
