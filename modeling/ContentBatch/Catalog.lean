import ContentBatch.Settings.Basic
import ContentBatch.Work

/-!
# The catalog

The catalog is where a host gets filters, actions and work from. It knows the settings,
and thereby the policy of retries that do not bring their own. Everything else in it
needs no settings.

Whatever can be done with every item of a batch can be bound to a single one.
-/

namespace ContentBatch

/-- Settings that have a policy. -/
structure Catalog where
  settings : Settings
  policy : RetryPolicy
  deriving DecidableEq

namespace Catalog

variable {σ : Type}

/-- The catalog with the standard settings. -/
def standard : Catalog := ⟨{}, .standard⟩

/-- The catalog with some settings, unless they are refused. -/
def of? (settings : Settings) : Except ActionError Catalog := do
  settings.validate
  return ⟨settings, ← settings.retry.policy?⟩

/-- Makes a catalog and reports it. -/
def configure (settings : Settings) : Job σ Catalog := do
  let catalog ← Job.ofExcept (of? settings)
  Job.emit none (.catalogConfigured catalog.policy)
  return catalog

/-! ## Actions on every item -/

/-- Activates items on the agents of the platform. -/
def activateAll : Action σ := .replicate .activate .platform

/-- Activates items with the same options. -/
def activateAllWith (options : ReplicationOptions) : Action σ :=
  .replicate .activate (.fixed options)

/-- Activates items with options that take turns. -/
def activateAllInTurn (options : List ReplicationOptions) : Job σ (Action σ) := do
  return .replicate .activate (← Targets.takingTurns options)

/-- Deactivates items on the agents of the platform. -/
def deactivateAll : Action σ := .replicate .deactivate .platform

/-- Deactivates items with the same options. -/
def deactivateAllWith (options : ReplicationOptions) : Action σ :=
  .replicate .deactivate (.fixed options)

/-- Deactivates items with options that take turns. -/
def deactivateAllInTurn (options : List ReplicationOptions) : Job σ (Action σ) := do
  return .replicate .deactivate (← Targets.takingTurns options)

/-- Removes all renditions but the original. -/
def removeAllRenditions : Action σ := .removeRenditions .allButOriginal

/-- Removes the renditions with a name. -/
def removeAllRenditionsNamed (name : String) : Action σ :=
  .removeRenditions (.named name)

/-- Runs a workflow on items. -/
def startWorkflows (model : WorkflowModel) : Action σ := .startWorkflow model

/-- Tries an action again as a policy allows. -/
def retryAll (policy : RetryPolicy) (action : Action σ) : Action σ :=
  .retry { policy } action

/-- Tries an action again as the settings allow. -/
def retryAllByDefault (catalog : Catalog) (action : Action σ) : Action σ :=
  retryAll catalog.policy action

/-! ## Work on a single item -/

/-- Activates one item. -/
def activate (path : String) : Work σ := .bound activateAll path

/-- Activates one item with options. -/
def activateWith (path : String) (options : ReplicationOptions) : Work σ :=
  .bound (activateAllWith options) path

/-- Deactivates one item. -/
def deactivate (path : String) : Work σ := .bound deactivateAll path

/-- Deactivates one item with options. -/
def deactivateWith (path : String) (options : ReplicationOptions) : Work σ :=
  .bound (deactivateAllWith options) path

/-- Removes all renditions but the original of one item. -/
def removeRenditions (path : String) : Work σ := .bound removeAllRenditions path

/-- Removes the renditions with a name of one item. -/
def removeRenditionsNamed (path name : String) : Work σ :=
  .bound (removeAllRenditionsNamed name) path

/-- Runs a workflow on one item. -/
def startWorkflow (model : WorkflowModel) (path : String) : Work σ :=
  .bound (startWorkflows model) path

/-- Tries work again as a policy allows. -/
def retry (policy : RetryPolicy) (work : Work σ) : Work σ := .retry { policy } work

/-- Tries work again as the settings allow. -/
def retryByDefault (catalog : Catalog) (work : Work σ) : Work σ :=
  retry catalog.policy work

/-- The catalog as diagnostics show it. -/
def shown (catalog : Catalog) : String :=
  Text.shownRecord "DeferredActions"
    [("collaborators", shownCollaborators), ("config", catalog.settings.shown),
      ("default_policy", catalog.policy.shown)]
where
  /-- The repository is shown without its parts. -/
  shownCollaborators : String := "Collaborators \x7b .. \x7d"

end Catalog

end ContentBatch
