import ContentBatch.Catalog
import ContentBatch.Rehearsal.World

/-!
# Plans

A plan describes a filter, an action or a piece of work; `build` makes it from the
catalog. Building may fail, for a pattern that is none or a policy without attempts, and
the parts of a plan are built in a fixed order, so that it is settled which of two
failures is reported.

What was built can be kept on a shelf under a name. A plan may refer to it, and then
gets the very same thing, with the turns that were taken of its rotation so far. A name
that is not on the shelf makes the plan meaningless: there is nothing to build, which is
no failure of the catalog.
-/

namespace ContentBatch.Rehearsal

/-- Descriptions of filters. -/
inductive FilterPlan where
  | matching (pattern : String)
  | notMatching (pattern : String)
  | excludeSubassets
  | isAsset
  | hasOutdatedRenditions
  | negation (filter : FilterPlan)
  | inner (filter : FilterPlan)
  | andThen (first second : FilterPlan)
  | probe (id : String) (answer : Bool)
  | kept (name : String)

/-- Descriptions of retries. -/
structure RetryPlan where
  maxAttempts : UInt32
  delay : Option Millis := none
  classifier : Classifier := .retryAll
  token : Option Token := none

/-- Descriptions of actions. -/
inductive ActionPlan where
  | replicate (kind : ReplicationKind) (options : Option ReplicationOptions)
  | replicateInTurn (kind : ReplicationKind) (options : List ReplicationOptions)
  | removeRenditions (selector : Selector)
  | withAllRenditions (action : ActionPlan) (filters : List FilterPlan)
  | startWorkflow (model : WorkflowModel)
  | retry (settings : RetryPlan) (action : ActionPlan)
  | retryByDefault (action : ActionPlan)
  | closure (id : String) (name : Option String) (marker : Option String)
  | kept (name : String)

/-- Descriptions of work. -/
inductive WorkPlan where
  | bound (action : ActionPlan) (path : String)
  | retry (settings : RetryPlan) (work : WorkPlan)
  | retryByDefault (work : WorkPlan)
  | closure (id : String)
  | kept (name : String)

/-- What was built and kept, by name, latest first. -/
structure Shelf where
  filters : List (String × Filter World) := []
  actions : List (String × Action World) := []
  works : List (String × Work World) := []

/-- The outcome of building: nothing if the plan is meaningless, or a result that may be
a failure. -/
abbrev Building (α : Type) : Type := OptionT (Job World) α

/-- A thing from a list, if it is there. -/
def fetch {α : Type} (name : String) (things : List (String × α)) : Building α :=
  OptionT.mk (pure (things.lookup name))

/-- A step of building that cannot be meaningless. -/
def sure {α : Type} (job : Job World α) : Building α :=
  OptionT.lift job

namespace RetryPlan

/-- The retry that a plan describes. -/
def build (plan : RetryPlan) : Except ActionError Retry := do
  let policy ← match plan.delay with
    | some delay => RetryPolicy.of? plan.maxAttempts delay
    | none => RetryPolicy.immediate? plan.maxAttempts
  return { policy, classifier := plan.classifier, token := plan.token }

end RetryPlan

namespace FilterPlan

/-- A filter that asks the host. -/
def ask (id : String) (answer : Bool) : Filter World :=
  .custom "probe" fun path =>
    Job.ask World.repository (.hostQuestion "probe" [id, path] answer)

/-- The filter that a plan describes. -/
def build (shelf : Shelf) : FilterPlan → Building (Filter World)
  | matching pattern => sure (Job.ofExcept (Filter.matching pattern))
  | notMatching pattern => sure (Job.ofExcept (Filter.notMatching pattern))
  | excludeSubassets => return Filter.excludeSubassets
  | isAsset => return .isAsset
  | hasOutdatedRenditions => return .hasOutdatedRenditions
  | negation filter => do return .negation (← filter.build shelf)
  | inner filter => do return (Filter.negation (← filter.build shelf)).inner
  | andThen first second => do
    return .andThen (← first.build shelf) (← second.build shelf)
  | probe id answer => return ask id answer
  | kept name => fetch name shelf.filters

/-- The filters that some plans describe. -/
def buildAll (shelf : Shelf) : List FilterPlan → Building (List (Filter World))
  | [] => return []
  | plan :: plans => do return (← plan.build shelf) :: (← buildAll shelf plans)

end FilterPlan

namespace ActionPlan

/-- What a closure of the host does with an item: a step of the host, and then perhaps a
marker on the session. -/
def close (id : String) (marker : Option String) (path : String) : Job World Unit := do
  Job.ask World.repository (.hostStep "fn" [id, path, World.repository.user])
  match marker with
  | some marker => Job.ask World.repository (.setUserData marker)
  | none => return ()

/-- The action that a plan describes. -/
def build (catalog : Catalog) (shelf : Shelf) : ActionPlan → Building (Action World)
  | replicate .activate none => return Catalog.activateAll
  | replicate .activate (some options) => return Catalog.activateAllWith options
  | replicate .deactivate none => return Catalog.deactivateAll
  | replicate .deactivate (some options) => return Catalog.deactivateAllWith options
  | replicateInTurn .activate options => sure (Catalog.activateAllInTurn options)
  | replicateInTurn .deactivate options => sure (Catalog.deactivateAllInTurn options)
  | removeRenditions selector => return .removeRenditions selector
  | withAllRenditions action filters => do
      let action ← action.build catalog shelf
      return .withAllRenditions action (← FilterPlan.buildAll shelf filters)
  | startWorkflow model => return Catalog.startWorkflows model
  | retry settings action => do
      let action ← action.build catalog shelf
      return .retry (← sure (Job.ofExcept settings.build)) action
  | retryByDefault action => do
    return catalog.retryAllByDefault (← action.build catalog shelf)
  | closure id name marker => return .custom (name.getD "fn_action") (close id marker)
  | kept name => fetch name shelf.actions

end ActionPlan

namespace WorkPlan

/-- What a closure of the host does without an item. -/
def close (id : String) : Job World Unit :=
  Job.ask World.repository (.hostStep "work_fn" [id, World.repository.user])

/-- The work that a plan describes. -/
def build (catalog : Catalog) (shelf : Shelf) : WorkPlan → Building (Work World)
  | bound action path => do return .bound (← action.build catalog shelf) path
  | retry settings work => do
      let work ← work.build catalog shelf
      return .retry (← sure (Job.ofExcept settings.build)) work
  | retryByDefault work => do return catalog.retryByDefault (← work.build catalog shelf)
  | closure id => return .custom id (close id)
  | kept name => fetch name shelf.works

end WorkPlan

end ContentBatch.Rehearsal
