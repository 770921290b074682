import ContentBatch.Filter
import ContentBatch.Retry.Basic
import ContentBatch.RoundRobin.Basic

/-!
# Actions

An action is applied to one item at a time, given by its path. The actions of this
library replicate an item, remove renditions of it, run a workflow on it, or apply
another action: once for every rendition that passes some filters, or several times
until it succeeds. A host adds actions of its own.

Each application of a library action is a span. It does its calls in a fixed order and
ends with the first that fails; what it did until then is left to a retry around it,
which rolls the session back.
-/

namespace ContentBatch

/-- Where items are replicated to. A rotation hands out its options in turn; its number
tells it from others with the same options. -/
inductive Targets where
  | platform
  | fixed (options : ReplicationOptions)
  | inTurn (options : RoundRobin ReplicationOptions) (rotation : Nat)

/-- What can be done with an item. -/
inductive Action (σ : Type) where
  | replicate (kind : ReplicationKind) (targets : Targets)
  | removeRenditions (selector : Selector)
  | withAllRenditions (action : Action σ) (filters : List (Filter σ))
  | startWorkflow (model : WorkflowModel)
  | retry (settings : Retry) (action : Action σ)
  | custom (name : String) (apply : String → Job σ Unit)

namespace Targets

variable {σ : Type}

/-- Targets that take turns, with a rotation of their own. -/
def takingTurns (options : List ReplicationOptions) : Job σ Targets := do
  let options ← Job.ofExcept (RoundRobin.of? options)
  return inTurn options (← Job.newRotation)

/-- The options for the next item. -/
def next : Targets → Job σ (Option ReplicationOptions)
  | platform => return none
  | fixed options => return some options
  | inTurn options rotation => do return some (options.turn (← Job.draw rotation))

end Targets

namespace Action

variable {σ : Type}

/-- The name of an action; a retry goes by the name of what it retries. -/
def name : Action σ → String
  | replicate kind _ => kind.name
  | removeRenditions _ => Operation.removeRenditions
  | withAllRenditions _ _ => Operation.withAllRenditions
  | startWorkflow _ => Operation.startWorkflow
  | retry _ action => action.name
  | custom name _ => name

/-- Replicates an item with the next options. -/
def replicateItem (repository : Repository σ) (scope : Scope) (kind : ReplicationKind)
    (targets : Targets) (path : String) : Job σ Unit := do
  let options ← targets.next
  Job.ask repository (.replicate kind path options)
  Job.emit scope (.replicated path kind (options.map ReplicationOptions.agentIds))

/-- The asset at a path, which has to be there. -/
def resolveAsset (repository : Repository σ) (path : String) : Job σ Asset := do
  match ← Job.ask repository (.resolve path) with
  | some asset => return asset
  | none => Job.fail (.assetNotFound path)

/-- Removes those of some renditions that a selector picks, and counts them. -/
def removeSelected (repository : Repository σ) (selector : Selector)
    (assetPath : String) :
    List Rendition → Nat → Job σ Nat
  | [], removed => return removed
  | rendition :: renditions, removed => do
      if selector.selects rendition then
        Job.ask repository (.removeRendition assetPath rendition.name)
        removeSelected repository selector assetPath renditions (removed + 1)
      else removeSelected repository selector assetPath renditions removed

/-- Removes renditions of an item. -/
def removeFrom (repository : Repository σ) (scope : Scope) (selector : Selector)
    (path : String) :
    Job σ Unit := do
  let asset ← resolveAsset repository path
  let removed ← removeSelected repository selector asset.path asset.renditions 0
  Job.emit scope (.itemOperation Operation.removeRenditions path "completed"
    (some ("removed " ++ toString removed ++ " rendition(s)")))

/-- Does something once for each of some renditions that passes all filters, and counts
how often. The filters look at the path of the rendition. -/
def forRenditions (repository : Repository σ) (scope : Scope)
    (filters : List (Filter σ)) (invoke : Job σ Unit) : List Rendition → Nat → Job σ Nat
  | [], invoked => return invoked
  | rendition :: renditions, invoked => do
      if ← Filter.acceptsAll repository scope filters rendition.path then
        invoke
        forRenditions repository scope filters invoke renditions (invoked + 1)
      else forRenditions repository scope filters invoke renditions invoked

/-- Does something with an item once for each of its renditions that passes all
filters. -/
def fanOut (repository : Repository σ) (scope : Scope) (filters : List (Filter σ))
    (invoke : Job σ Unit) (path : String) : Job σ Unit := do
  let asset ← resolveAsset repository path
  let invoked ← forRenditions repository scope filters invoke asset.renditions 0
  Job.emit scope (.fannedOut path asset.renditions.length invoked)

/-- Runs a workflow on an item, with the session marked so that what the workflow
changes is known. -/
def runWorkflow (repository : Repository σ) (scope : Scope) (model : WorkflowModel)
    (path : String) : Job σ Unit := do
  Job.ask repository (.setUserData workflowMarker)
  Job.ask repository (.execute path model false false)
  Job.emit scope (.workflowCompleted path model.id)

/-- Applies an action to the item at a path. -/
def apply (repository : Repository σ) (scope : Scope) : Action σ → String → Job σ Unit
  | replicate kind targets, path =>
    Job.within scope (.onItem kind.name path) fun scope =>
      replicateItem repository scope kind targets path
  | removeRenditions selector, path =>
    Job.within scope (.onItem Operation.removeRenditions path) fun scope =>
      removeFrom repository scope selector path
  | withAllRenditions action filters, path =>
    Job.within scope (.onItem Operation.withAllRenditions path) fun scope =>
      fanOut repository scope filters (action.apply repository scope path) path
  | startWorkflow model, path =>
    Job.within scope (.onItem Operation.startWorkflow path) fun scope =>
      runWorkflow repository scope model path
  | retry settings action, path =>
    settings.perform repository scope (.onItem Operation.retry path) path fun scope =>
      action.apply repository scope path
  | custom _ apply, path => apply path

end Action

end ContentBatch
