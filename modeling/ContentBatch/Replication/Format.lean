import ContentBatch.Json.Format
import ContentBatch.Json.Record
import ContentBatch.Replication

/-!
# Replication requests in JSON

Kinds are written by name. Options are records without defaults: each field has to be
written.
-/

namespace ContentBatch

namespace ReplicationKind

/-- A kind as data. -/
def toJson (kind : ReplicationKind) : Json := .string kind.name

/-- The kind that some data stands for. -/
def ofJson? (json : Json) : Option ReplicationKind := do
  ofName? (← json.word?)

/-- The format of kinds. -/
def format : Json.Format ReplicationKind := ⟨toJson, ofJson?⟩

theorem ofJson?_toJson (kind : ReplicationKind) : ofJson? kind.toJson = some kind :=
  ofName?_name kind

end ReplicationKind

namespace ReplicationOptions

/-- The fields of options. -/
def fields : List Json.Field :=
  [.required "synchronous", .required "agent_ids", .required "suppress_versions",
    .required "suppress_status_update"]

/-- Options as data. -/
def toJson (options : ReplicationOptions) : Json :=
  .object [("synchronous", .bool options.synchronous),
    ("agent_ids", .array (options.agentIds.map .string)),
    ("suppress_versions", .bool options.suppressVersions),
    ("suppress_status_update", .bool options.suppressStatusUpdate)]

/-- The options that some data stands for. -/
def ofJson? (json : Json) : Option ReplicationOptions :=
  match Json.Record.slots? fields json with
  | some [some synchronous, some agentIds, some suppressVersions,
      some suppressStatusUpdate] => do
      return ⟨← synchronous.bool?, ← agentIds.strings?, ← suppressVersions.bool?,
        ← suppressStatusUpdate.bool?⟩
  | _ => none

/-- The format of options. -/
def format : Json.Format ReplicationOptions := ⟨toJson, ofJson?⟩

end ReplicationOptions

end ContentBatch
