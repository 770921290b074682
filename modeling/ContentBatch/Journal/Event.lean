import ContentBatch.Asset.Freshness
import ContentBatch.Replication
import ContentBatch.Retry.Classifier
import ContentBatch.Retry.Policy
import ContentBatch.Text.Shown

/-!
# Events

What actions report about their progress. An event says what happened; its level, its
target, its message and its fields follow from that.

The six events of a retry are called *reports*: every failed attempt makes exactly one
of `rollbackFailed`, `exhausted`, `notRetryable` and `failed`.
-/

namespace ContentBatch

/-- How important an event is. -/
inductive Level where
  | trace
  | debug
  | info
  | warn
  | error
  deriving DecidableEq, Repr

namespace Level

/-- Greater is more important. -/
def rank : Level → Nat
  | trace => 0
  | debug => 1
  | info => 2
  | warn => 3
  | error => 4

/-- The written name of a level. -/
def name : Level → String
  | trace => "TRACE"
  | debug => "DEBUG"
  | info => "INFO"
  | warn => "WARN"
  | error => "ERROR"

end Level

/-- The value of a field of an event. -/
inductive FieldValue where
  | text (value : String)
  | number (value : Nat)
  | truth (value : Bool)
  deriving DecidableEq, Repr

/-- What a retry reports. `attempts` counts the attempts made so far, `remaining` those
that are still allowed. -/
inductive Report where
  | succeeded (attempts : Nat)
  | rollbackFailed (attempts : Nat) (error rollbackError : ActionError)
  | exhausted (attempts : Nat) (error : ActionError)
  | notRetryable (attempts : Nat) (classifier : String) (error : ActionError)
  | failed (remaining : Nat) (error : ActionError)
  | interrupted (attempts : Nat)
  deriving DecidableEq, Repr

/-- What can be reported. -/
inductive Event where
  | retry (subject : String) (report : Report)
  | replicated (path : String) (kind : ReplicationKind) (agents : Option (List String))
  | itemOperation (operation path status : String) (details : Option String)
  | fannedOut (path : String) (renditions invoked : Nat)
  | workflowCompleted (path model : String)
  | assessed (path : String) (freshness : Option Freshness)
  | catalogConfigured (policy : RetryPolicy)
  | settingsFile (path : String)
  | settingsLoaded (policy : RetryPolicy)
  | loggingStarted (environment : String) (json : Bool)
  | loggingKept
  deriving DecidableEq

namespace Report

/-- The level of a report. -/
def level : Report → Level
  | succeeded _ => .debug
  | failed _ _ => .info
  | _ => .warn

/-- The message of a report. -/
def message : Report → String
  | succeeded _ => "Succeeded after retry"
  | rollbackFailed _ _ _ => "Rollback failed after attempt error"
  | exhausted _ _ => "Retry budget exhausted"
  | notRetryable _ _ _ => "Error classified as not retryable"
  | failed remaining _ => "Error during attempt, retry count is " ++ toString remaining
  | interrupted _ => "Retry interrupted during delay"

/-- The fields of a report. -/
def fields : Report → List (String × FieldValue)
  | succeeded attempts => [("attempts", .number attempts)]
  | rollbackFailed attempts error rollbackError =>
    [("attempts", .number attempts), ("error_code", .text error.code),
      ("error", .text error.message), ("rollback_error", .text rollbackError.message)]
  | exhausted attempts error =>
    [("attempts", .number attempts), ("error_code", .text error.code),
      ("error", .text error.message)]
  | notRetryable attempts classifier error =>
    [("attempts", .number attempts), ("classifier", .text classifier),
      ("error", .text error.message)]
  | failed remaining error =>
    [("remaining", .number remaining), ("error_code", .text error.code),
      ("error", .text error.message)]
  | interrupted attempts => [("attempts", .number attempts)]

end Report

namespace Event

/-- The level of an event. -/
def level : Event → Level
  | retry _ report => report.level
  | itemOperation _ _ _ _ => .info
  | loggingStarted _ _ => .info
  | assessed _ _ => .trace
  | _ => .debug

/-- The part of the library that an event comes from. -/
def target : Event → String
  | retry _ _ => "deferred_actions::retry::executor"
  | replicated _ _ _ => "deferred_actions::actions::replication"
  | itemOperation _ _ _ _ => "deferred_actions::logging"
  | fannedOut _ _ _ => "deferred_actions::actions::renditions"
  | workflowCompleted _ _ => "deferred_actions::actions::workflow"
  | assessed _ _ => "deferred_actions::filters::assets"
  | catalogConfigured _ => "deferred_actions::actions::catalog"
  | settingsFile _ => "deferred_actions::config::loader"
  | settingsLoaded _ => "deferred_actions::config::loader"
  | loggingStarted _ _ => "deferred_actions::logging"
  | loggingKept => "deferred_actions::logging"

/-- The message of an event. -/
def message : Event → String
  | retry _ report => report.message
  | replicated _ _ _ => "Replicated item"
  | itemOperation _ _ _ _ => "ITEM_OPERATION"
  | fannedOut _ _ _ => "Applied action across renditions"
  | workflowCompleted _ _ => "Synthetic workflow completed"
  | assessed _ _ => "Assessed rendition freshness"
  | catalogConfigured _ => "Deferred actions catalog configured"
  | settingsFile _ => "Loading configuration file"
  | settingsLoaded _ => "Configuration loaded successfully"
  | loggingStarted _ _ => "Structured logging initialized"
  | loggingKept =>
    "Global tracing subscriber already initialized, keeping the existing one"

/-- The fields of a policy. -/
def policyFields (policy : RetryPolicy) : List (String × FieldValue) :=
  [("max_attempts", .number policy.maxAttempts.toNat),
    ("delay_ms", .number policy.delay.toNat)]

/-- The fields of an event. -/
def fields : Event → List (String × FieldValue)
  | retry subject report => ("subject", .text subject) :: report.fields
  | replicated path kind agents =>
    [("path", .text path), ("action", .text kind.name),
      ("agents", .text (Text.shownOption (agents.map Text.shownTexts)))]
  | itemOperation operation path status details =>
    [("operation", .text operation), ("path", .text path), ("status", .text status)] ++
      (details.toList.map fun details => ("details", .text details))
  | fannedOut path renditions invoked =>
    [("path", .text path), ("renditions", .number renditions),
      ("invoked", .number invoked)]
  | workflowCompleted path model => [("path", .text path), ("model", .text model)]
  | assessed path freshness =>
    [("path", .text path),
      ("freshness", .text (Text.shownOption (freshness.map Freshness.shown)))]
  | catalogConfigured policy => policyFields policy
  | settingsFile path => [("path", .text path)]
  | settingsLoaded policy => policyFields policy
  | loggingStarted environment json =>
    [("environment", .text environment), ("json", .truth json)]
  | loggingKept => []

end Event

end ContentBatch
