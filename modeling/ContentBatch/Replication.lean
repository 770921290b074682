/-!
# Replication

Replicating an item activates or deactivates it on some agents.
-/

namespace ContentBatch

/-- What replication does with an item. -/
inductive ReplicationKind where
  | activate
  | deactivate
  deriving DecidableEq, Repr

namespace ReplicationKind

/-- The name of a kind, which also labels the operation. -/
def name : ReplicationKind → String
  | activate => "activate"
  | deactivate => "deactivate"

/-- Every kind. -/
def all : List ReplicationKind := [activate, deactivate]

/-- The kind with a name. -/
def ofName? (name : String) : Option ReplicationKind :=
  all.find? fun kind => kind.name == name

theorem ofName?_name (kind : ReplicationKind) : ofName? kind.name = some kind := by
  cases kind <;> decide

end ReplicationKind

/-- How an item is replicated. Without agents the platform's own are used. -/
structure ReplicationOptions where
  synchronous : Bool := false
  agentIds : List String := []
  suppressVersions : Bool := false
  suppressStatusUpdate : Bool := false
  deriving DecidableEq, Repr

namespace ReplicationOptions

/-- Options that replicate to one agent. -/
def forAgent (agent : String) : ReplicationOptions :=
  { agentIds := [agent] }

end ReplicationOptions

end ContentBatch
