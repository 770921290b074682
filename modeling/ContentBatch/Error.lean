/-!
# Errors

What can go wrong with an action. Each cause has a kind, a stable code for programs and
a message for people. An error that came from elsewhere keeps the message of its root;
once it is given a context, only the context is shown.
-/

namespace ContentBatch

/-- The causes of failure. -/
inductive ActionError where
  | session (message : String)
  | asset (message : String)
  | assetNotFound (path : String)
  | replication (path reason : String)
  | workflow (path reason : String)
  | interrupted (attempts : Nat)
  | validation (message : String)
  | configuration (message : String)
  | other (root : String) (context : Option String)
  deriving DecidableEq, Repr

namespace ActionError

/-- The stable code of an error. -/
def code : ActionError → String
  | session _ => "SESSION_ERROR"
  | asset _ => "ASSET_ERROR"
  | assetNotFound _ => "ASSET_NOT_FOUND"
  | replication _ _ => "REPLICATION_ERROR"
  | workflow _ _ => "WORKFLOW_ERROR"
  | interrupted _ => "RETRY_INTERRUPTED"
  | validation _ => "VALIDATION_ERROR"
  | configuration _ => "CONFIGURATION_ERROR"
  | other _ _ => "ACTION_FAILED"

/-- The message of an error. -/
def message : ActionError → String
  | session message => "Session error: " ++ message
  | asset message => "Asset error: " ++ message
  | assetNotFound path => "Asset not found: " ++ path
  | replication path reason => "Replication error for " ++ path ++ ": " ++ reason
  | workflow path reason => "Workflow error for " ++ path ++ ": " ++ reason
  | interrupted attempts =>
    "Retry interrupted after " ++ toString attempts ++ " attempt(s)"
  | validation message => "Validation error: " ++ message
  | configuration message => "Configuration error: " ++ message
  | other root context => context.getD root

/-- Whether trying again cannot help: the asset is missing, the request or the settings
are wrong, or a retry was already given up. -/
def isPermanent : ActionError → Bool
  | assetNotFound _ => true
  | interrupted _ => true
  | validation _ => true
  | configuration _ => true
  | _ => false

end ActionError

end ContentBatch
