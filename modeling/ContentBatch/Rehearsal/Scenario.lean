import ContentBatch.Held
import ContentBatch.Rehearsal.Plan

/-!
# Scenarios

A scenario is a list of steps on one world: things are built from plans and kept or
applied to paths, and in between the script is changed. A step answers with a `Result`;
together with the journal of the step and the time it took that makes a `Record`.

Steps are independent of each other but for the world, the shelf and the turns of
rotations. Work that succeeds is committed; filters commit nothing.
-/

namespace ContentBatch.Rehearsal

/-- What a step of a scenario does. -/
inductive Step where
  | keepFilter (name : String) (plan : FilterPlan)
  | keepAction (name : String) (plan : ActionPlan)
  | keepWork (name : String) (plan : WorkPlan)
  | apply (action : ActionPlan) (path : String)
  | applyEach (action : ActionPlan) (paths : List String)
  | run (work : WorkPlan)
  | accepts (filter : FilterPlan) (paths : List String)
  | acceptsAll (filters : List FilterPlan) (path : String)
  | batch (filter : FilterPlan) (action : ActionPlan) (paths : List String)
  | script (queues : List (Queue × List Turn))
  | put (stored : Stored)
  | cancel (token : Token)
  | state
  | catalog
  | inspect (name path : String) (model : WorkflowModel) (action : ActionPlan)

/-- A step, and the token that is cancelled some time after it starts. -/
structure TimedStep where
  step : Step
  cancelAt : Option (Token × Nat) := none

/-- What became of one item of a batch. -/
inductive ItemResult where
  | skipped
  | notFiltered (error : ActionError)
  | applied (result : Except ActionError Unit)

/-- What a step answers. -/
inductive Result where
  | failed (error : ActionError)
  | keptFilter (name : String)
  | keptAction (name : String)
  | keptWork (name : String) (target : Option String)
  | applied (result : Except ActionError Unit)
  | appliedEach (results : List (Except ActionError Unit))
  | accepted (results : List (Except ActionError Bool))
  | acceptedAll (verdict : Bool)
  | items (results : List ItemResult)
  | done
  | state (world : World)
  | catalog (catalog : Catalog) (retried : Option RetryPolicy)
  | inspected (work named : Work World) (workflow : Work World)
      (plain deactivation : Action World) (inner : Action World)

/-- A step that was made: its answer, its journal and the time it took. -/
structure Record where
  result : Result
  journal : Journal
  elapsed : Nat

/-- What the steps of a scenario share. -/
structure Stage where
  catalog : Catalog
  shelf : Shelf := {}
  batch : Batch World

/-! ## Single steps -/

/-- Runs a job; whether it succeeds is its result. -/
def attempt {α : Type} (job : Job World α) : Job World (Except ActionError α) :=
  job.settled fun _ world => world

/-- Commits the working assets if a job has succeeded. -/
def commitOn : Except ActionError Unit → World → World
  | .ok (), world => world.commit
  | .error _, world => world

/-- Runs a job and commits what it did if it succeeds. -/
def committed (job : Job World Unit) : Job World (Except ActionError Unit) :=
  job.settled commitOn

/-- An action as a host has it, behind a holder. -/
def holdAction (action : Action World) : HeldAction World :=
  .held .owned (.plain action)

/-- Work as a host has it, behind a holder. -/
def holdWork (work : Work World) : HeldWork World :=
  .held .owned (.plain work)

/-- Applies an action to the item at a path. -/
def applyTo (action : Action World) (path : String) :
    Job World (Except ActionError Unit) :=
  committed ((holdAction action).apply World.repository none path)

/-- Asks a filter about the item at a path. -/
def ask (filter : Filter World) (path : String) : Job World (Except ActionError Bool) :=
  attempt (filter.accepts World.repository none path)

/-- Applies an action to an item that passes a filter. -/
def processItem (filter : Filter World) (action : Action World) (path : String) :
    Job World ItemResult := do
  match ← ask filter path with
  | .error error => return .notFiltered error
  | .ok false => return .skipped
  | .ok true => return .applied (← applyTo action path)

/-- Changes the world. -/
def change (update : World → World) : Job World Result :=
  fun batch => (.ok .done, { batch with store := update batch.store })

/-- The policy of an action that is a retry. -/
def policyOf : Action World → Option RetryPolicy
  | .retry settings _ => some settings.policy
  | _ => none

/-- What a step answers, and the shelf after it. -/
def perform (catalog : Catalog) (shelf : Shelf) : Step → Building (Result × Shelf)
  | .keepFilter name plan => do
      let filter ← plan.build shelf
      return (.keptFilter filter.name,
        { shelf with filters := (name, filter) :: shelf.filters })
  | .keepAction name plan => do
      let action ← plan.build catalog shelf
      return (.keptAction (holdAction action).name,
        { shelf with actions := (name, action) :: shelf.actions })
  | .keepWork name plan => do
      let work ← plan.build catalog shelf
      let held := holdWork work
      return (.keptWork held.name held.target?,
        { shelf with works := (name, work) :: shelf.works })
  | .apply action path => do
      let action ← action.build catalog shelf
      return (.applied (← sure (applyTo action path)), shelf)
  | .applyEach action paths => do
      let action ← action.build catalog shelf
      return (.appliedEach (← sure (Job.forPaths (applyTo action) paths)), shelf)
  | .run work => do
      let work ← work.build catalog shelf
      return (.applied (← sure (committed ((holdWork work).run World.repository none))),
        shelf)
  | .accepts filter paths => do
      let filter ← filter.build shelf
      return (.accepted (← sure (Job.forPaths (ask filter) paths)), shelf)
  | .acceptsAll filters path => do
      let filters ← FilterPlan.buildAll shelf filters
      let verdict ← sure (Filter.acceptsAll World.repository none filters path)
      return (.acceptedAll verdict, shelf)
  | .batch filter action paths => do
      let filter ← filter.build shelf
      let action ← action.build catalog shelf
      return (.items (← sure (Job.forPaths (processItem filter action) paths)), shelf)
  | .script queues => do
      let update (world : World) : World :=
        queues.foldl (fun world entry => world.script entry.1 entry.2) world
      return (← sure (change update), shelf)
  | .put stored => do return (← sure (change fun world => world.put stored), shelf)
  | .cancel token => do return (← sure (change fun world => world.cancel token), shelf)
  | .state => do
      let world ← sure fun batch => (.ok batch.store, batch)
      return (.state world, shelf)
  | .catalog =>
      return (.catalog catalog
        (policyOf (catalog.retryAllByDefault Catalog.activateAll)), shelf)
  | .inspect name path model action => do
      let inner ← action.build catalog shelf
      return (.inspected (Catalog.removeRenditions path)
        (Catalog.removeRenditionsNamed path name)
        (Catalog.startWorkflow model path) Catalog.activateAll
          Catalog.deactivateAll inner, shelf)

/-! ## Whole scenarios -/

namespace Stage

/-- The stage at the start of a step: the timer of the step is set. -/
def setTimer (stage : Stage) (cancelAt : Option (Token × Nat)) : Stage :=
  let world := stage.batch.store
  let timers := cancelAt.toList.map fun (token, delay) => ⟨world.clock + delay, token⟩
  { stage with batch := { stage.batch with store := { world with timers } } }

/-- Makes a step. A timer that was not due before its end is dropped. -/
def advance (stage : Stage) (timed : TimedStep) : Option (Record × Stage) :=
  let start := stage.batch.store.clock
  let stage := stage.setTimer timed.cancelAt
  let finish (result : Result) (shelf : Shelf) (batch : Batch World) :
      Option (Record × Stage) :=
    some (⟨result, batch.journal, batch.store.clock - start⟩,
      { stage with shelf, batch := { batch with
        store := { batch.store with timers := [] }, journal := #[] } })
  match (perform stage.catalog stage.shelf timed.step).run stage.batch with
  | (.ok (some (result, shelf)), batch) => finish result shelf batch
  | (.ok none, _) => none
  | (.error error, batch) => finish (.failed error) stage.shelf batch

/-- Makes steps one after another. -/
def advanceAll (stage : Stage) : List TimedStep → Option (List Record × Stage)
  | [] => some ([], stage)
  | step :: steps => do
      let (record, stage) ← stage.advance step
      let (records, stage) ← stage.advanceAll steps
      return (record :: records, stage)

/-- The stage on which a scenario starts, with its assets and its settings. -/
def open? (settings : Option Settings)
    (assets : List Stored) : Except ActionError Stage :=
  let batch : Batch World := { store := { working := assets, committed := assets } }
  match settings with
  | none => .ok { catalog := .standard, batch }
  | some settings =>
    match Catalog.configure settings batch with
    | (.ok catalog, batch) => .ok { catalog, batch }
    | (.error error, _) => .error error

end Stage

end ContentBatch.Rehearsal
