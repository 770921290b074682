import ContentBatch.Work

/-!
# Actions step by step

`Action.apply` says what an action does to a batch from beginning to end.  When several
workers apply actions at the same time, the steps of one are mixed with the steps of
others, and it matters what one step is.  A `Script` is an action cut into steps: the
beginning of an invocation of a replication, its draw, its call of the replicator, and
calls, waits and notes that concern nobody else.

Scripts are put together as jobs are, so each script repeats the text of its job; what
is new is only where one step ends and the next begins.  Calls are steps of their own,
also those of filters and of rollbacks.  The closures of a host are taken as one step.

## Main results

* `Script.run_bind`: what a script does that is put together from two.
* `Retry.performScript_run`: retrying a script is retrying what it does.
* `Action.script_run`: without anybody else at work, the script of an action does what
  the action does.
-/

namespace ContentBatch

/-- What is left to do, up to its result.  `own` steps are for the worker alone; what
comes after them may depend on the batch they were given. -/
inductive Script (σ α : Type) where
  | done (result : Except ActionError α)
  | own (move : Batch σ → Batch σ) (next : Batch σ → Script σ α)
  | invoke (kind : ReplicationKind) (path : String) (scope : Scope) (next : Script σ α)
  | draw (options : RoundRobin ReplicationOptions) (rotation : Nat)
      (next : ReplicationOptions → Script σ α)
  | dispatch (kind : ReplicationKind) (path : String)
      (options : Option ReplicationOptions)
      (next : Except ActionError Unit → Script σ α)

namespace Script

variable {σ α β : Type} {repository : Repository σ}

/-- Does all steps of a script one after another, with nobody else at work. -/
def run (repository : Repository σ) : Script σ α → Job σ α
  | done result, batch => (result, batch)
  | own move next, batch => (next batch).run repository (move batch)
  | invoke kind path scope next, batch =>
    next.run repository (Job.note (.span (.onItem kind.name path) scope) batch).2
  | draw options rotation next, batch =>
    (next (options.turn (Job.turnOf batch.turns rotation))).run repository
      { batch with turns := Job.countTurn batch.turns rotation }
  | dispatch kind path options next, batch =>
    (next (Job.ask repository (.replicate kind path options) batch).1).run repository
      (Job.ask repository (.replicate kind path options) batch).2

/-! ## Scripts from parts -/

/-- A script and, whatever its result, another one. -/
def resume : Script σ α → (Except ActionError α → Script σ β) → Script σ β
  | done result, after => after result
  | own move next, after => own move fun batch => (next batch).resume after
  | invoke kind path scope next, after => invoke kind path scope (next.resume after)
  | draw options rotation next, after =>
    draw options rotation fun drawn => (next drawn).resume after
  | dispatch kind path options next, after =>
    dispatch kind path options fun answer => (next answer).resume after

/-- What comes after a script that may have failed: the next one only if it did not. -/
def proceed (next : α → Script σ β) : Except ActionError α → Script σ β
  | .ok value => next value
  | .error error => done (.error error)

instance : Monad (Script σ) where
  pure value := done (.ok value)
  bind first next := first.resume (proceed next)

/-- A job as one step. -/
def ofJob (job : Job σ α) : Script σ α :=
  own (fun batch => (job batch).2) fun batch => done (job batch).1

/-- A step that cannot fail. -/
def look (step : Batch σ → α × Batch σ) : Script σ α :=
  ofJob fun batch => (.ok (step batch).1, (step batch).2)

/-- A step without an answer. -/
def change (step : Batch σ → Batch σ) : Script σ Unit :=
  ofJob fun batch => (.ok (), step batch)

/-- Opens a span for some steps. -/
def within (scope : Scope) (span : Span) (steps : Scope → Script σ α) : Script σ α := do
  ofJob (Job.note (.span span scope))
  steps (some span)

/-- Does some steps and writes their outcome into the journal, also if they fail. -/
def thenNote (steps : Script σ α) (entry : Except ActionError α → Entry) : Script σ α :=
  steps.resume fun result =>
    own (fun batch => (Job.note (entry result) batch).2) fun _ => done result

theorem run_resume (script : Script σ α) (after : Except ActionError α → Script σ β)
    (batch : Batch σ) :
    (script.resume after).run repository batch =
      (after (script.run repository batch).1).run repository
        (script.run repository batch).2 := by
  induction script generalizing batch with
  | done result => rfl
  | own move next ih => exact ih batch (move batch)
  | invoke kind path scope next ih => exact ih _
  | draw options rotation next ih => exact ih _ _
  | dispatch kind path options next ih => exact ih _ _

theorem run_bind (first : Script σ α) (next : α → Script σ β) :
    (first >>= next).run repository =
      (first.run repository >>= fun value => (next value).run repository) := by
  funext batch
  show (first.resume (proceed next)).run repository batch = _
  rw [run_resume, Job.bind_apply]
  rcases first.run repository batch with ⟨_ | _, _⟩
  · rfl
  · rfl

theorem run_look (step : Batch σ → α × Batch σ) (batch : Batch σ) :
    (look step).run repository batch = (.ok (step batch).1, (step batch).2) := rfl

theorem run_change (step : Batch σ → Batch σ) (batch : Batch σ) :
    (change step).run repository batch = (.ok (), step batch) := rfl

theorem run_within (scope : Scope) (span : Span) (steps : Scope → Script σ α) :
    (within scope span steps).run repository =
      Job.within scope span fun scope => (steps scope).run repository :=
  run_bind _ _

theorem run_thenNote (steps : Script σ α) (entry : Except ActionError α → Entry) :
    (steps.thenNote entry).run repository = (steps.run repository).thenNote entry := by
  funext batch
  rw [thenNote, run_resume]
  rfl

end Script

open Script

/-! ## Retries -/

namespace Retry

variable {σ : Type} {repository : Repository σ}

/-- The rollback after a failed attempt, call by call. -/
def rollBackScript (surroundings : Surroundings (Batch σ)) : Script σ Unit := do
  ofJob surroundings.revert
  ofJob surroundings.refresh

theorem rollBackScript_run (surroundings : Surroundings (Batch σ)) :
    (rollBackScript surroundings).run repository = surroundings.rollBack := by
  funext batch
  have hrevert : (ofJob surroundings.revert).run repository batch =
      surroundings.revert batch := rfl
  rw [rollBackScript, run_bind, Job.bind_apply, hrevert, Surroundings.rollBack]
  rcases surroundings.revert batch with ⟨_ | _, _⟩
  · rfl
  · rfl

/-- An attempt, step by step. -/
def attemptScript (number : Nat) (script : Script σ Unit) : Script σ Unit := do
  ofJob (Job.note (.attempt number))
  script.thenNote fun result => .attempted number (Job.failure? result)

theorem attemptScript_run (number : Nat) (script : Script σ Unit) :
    (attemptScript number script).run repository =
      asAttempt number (script.run repository) := by
  rw [attemptScript, run_bind, asAttempt]
  simp only [run_thenNote]
  rfl

/-- An attempt and, if it fails, the rollback and what comes after it. -/
def tryScript (surroundings : Surroundings (Batch σ)) (script : Script σ Unit)
    (number : Nat) (further : ActionError → Script σ Unit) : Script σ Unit :=
  (attemptScript number script).resume fun
    | .ok () =>
      change fun batch => if 1 <
          number then surroundings.report (.succeeded number) batch else batch
    | .error error =>
      (rollBackScript surroundings).resume fun
        | .error rollbackError => do
            change (surroundings.report (.rollbackFailed number error rollbackError))
            done (.error rollbackError)
        | .ok () => further error

/-- Attempts and what stands between two of them, step by step. -/
def attemptsScript (surroundings : Surroundings (Batch σ)) (script : Script σ Unit)
    (delay : Millis) (spare number : Nat) : Script σ Unit :=
  tryScript surroundings script number fun error =>
    match spare with
    | 0 => do
        change (surroundings.report (.exhausted number error))
        done (.error error)
    | spare + 1 => do
        match ← look (surroundings.classify error number) with
        | .abort =>
          change (surroundings.report
              (.notRetryable number surroundings.classifierName error))
          done (.error error)
        | .retry =>
          change (surroundings.report (.failed (spare + 1) error))
          if ← look (surroundings.pause delay) then
            attemptsScript surroundings script delay spare (number + 1)
          else
            change (surroundings.report (.interrupted number))
            done (.error (.interrupted number))

section Attempts

variable {surroundings : Surroundings (Batch σ)} {script : Script σ Unit}
  (hattempt : ∀ number, (attemptScript number script).run repository =
    surroundings.attempt number)

include hattempt

theorem tryScript_run (number : Nat) (further : ActionError → Script σ Unit)
    (batch : Batch σ) :
    (tryScript surroundings script number further).run repository batch =
      match surroundings.attempt number batch with
      | (.ok (), state) =>
        (.ok (), if 1 < number then
          surroundings.report (.succeeded number) state else state)
      | (.error error, state) =>
        match surroundings.rollBack state with
        | (.error rollbackError, state) =>
          (.error rollbackError,
            surroundings.report (.rollbackFailed number error rollbackError) state)
        | (.ok (), state) => (further error).run repository state := by
  rw [tryScript, run_resume, hattempt]
  rcases surroundings.attempt number batch with ⟨error | _, failed⟩
  case ok => rfl
  case error =>
    dsimp only
    rw [run_resume, rollBackScript_run]
    rcases surroundings.rollBack failed with ⟨_ | _, _⟩
    · rfl
    · rfl

theorem attemptsScript_run (delay : Millis) (spare number : Nat) (batch : Batch σ) :
    (attemptsScript surroundings script delay spare number).run repository batch =
      surroundings.attemptsFrom delay spare number batch := by
  induction spare generalizing number batch with
  | zero =>
      rw [attemptsScript, tryScript_run hattempt, Surroundings.attemptsFrom]
      rcases surroundings.attempt number batch with ⟨error | _, failed⟩
      case ok => rfl
      case error =>
        dsimp only
        rcases surroundings.rollBack failed with ⟨_ | _, _⟩
        · rfl
        · rfl
  | succ spare ih =>
      rw [attemptsScript, tryScript_run hattempt, Surroundings.attemptsFrom]
      rcases surroundings.attempt number batch with ⟨error | _, failed⟩
      case ok => rfl
      case error =>
        dsimp only
        rcases surroundings.rollBack failed with ⟨_ | _, rolledBack⟩
        case error => rfl
        case ok =>
          dsimp only
          rw [run_bind, Job.bind_apply, run_look]
          rcases surroundings.classify error number rolledBack with ⟨_ | _, judged⟩
          case abort => rfl
          case retry =>
            dsimp only
            rw [run_bind, Job.bind_apply, run_change]
            dsimp only
            rw [run_bind, Job.bind_apply, run_look]
            rcases surroundings.pause delay _ with ⟨_ | _, paused⟩
            case true => exact ih (number + 1) paused
            case false => rfl

end Attempts

/-- A retry, step by step. -/
def performScript (retry : Retry) (repository : Repository σ) (scope : Scope)
    (span : Span) (subject : String) (script : Scope → Script σ Unit) : Script σ Unit :=
  within scope span fun scope =>
    thenNote
      (attemptsScript
        (retry.surroundings repository scope subject ((script scope).run repository))
          (script scope)
        retry.policy.delay (retry.policy.maxAttempts.toNat - 1) 1)
      fun result => .retried (Job.failure? result)

theorem performScript_run (retry : Retry) (scope : Scope) (span : Span)
    (subject : String) (script : Scope → Script σ Unit) :
    (retry.performScript repository scope span subject script).run repository =
      retry.perform repository scope span subject fun scope =>
        (script scope).run repository := by
  rw [performScript, run_within, perform]
  congr 1
  funext scope
  rw [run_thenNote]
  congr 1
  funext batch
  exact attemptsScript_run
    (fun number => attemptScript_run number (script scope)) _ _ _ _

end Retry

/-! ## Filters -/

namespace Filter

variable {σ : Type} {repository : Repository σ}

/-- The look at an asset's freshness, call by call. -/
def freshnessScript (repository : Repository σ) (scope : Scope) (path : String) :
    Script σ (Option Freshness) := do
  let asset ← ofJob (Job.ask repository (.resolve path))
  let freshness := asset.map Freshness.assess
  ofJob (Job.emit scope (.assessed path freshness))
  return freshness

theorem freshnessScript_run (scope : Scope) (path : String) :
    (freshnessScript repository scope path).run repository =
      freshnessAt repository scope path := by
  rw [freshnessScript, run_bind]
  simp only [run_bind]
  rfl

/-- The evaluation of a filter, call by call. -/
def script (repository : Repository σ) (scope : Scope) :
    Filter σ → String → Script σ Bool
  | pathMatches pattern, path => return pattern.isMatch path
  | isAsset, path => do
      let asset ← within scope (.onItem Operation.filterNonAssets path) fun _ =>
        ofJob (Job.ask repository (.resolve path))
      return asset.isSome
  | hasOutdatedRenditions, path => do
      let freshness ← within scope (.onItem Operation.filterOutdated path) fun scope =>
        freshnessScript repository scope path
      return freshness.any Freshness.needsRegeneration
  | negation filter, path => do
      return !(← filter.script repository scope path)
  | andThen first second, path => do
      if ← first.script repository scope path then second.script repository scope path
      else return false
  | held _ filter, path => filter.script repository scope path
  | custom _ accepts, path => ofJob (accepts path)

theorem script_run (scope : Scope) (filter : Filter σ) (path : String) :
    (filter.script repository scope path).run repository =
      filter.accepts repository scope path := by
  induction filter with
  | pathMatches pattern => rfl
  | isAsset =>
      rw [script, accepts, run_bind, run_within]
      rfl
  | hasOutdatedRenditions =>
      rw [script, accepts, run_bind, run_within]
      simp only [freshnessScript_run]
      rfl
  | negation filter ih =>
      rw [script, accepts, run_bind, ih]
      rfl
  | andThen first second ihfirst ihsecond =>
      rw [script, accepts, run_bind, ihfirst]
      congr 1
      funext accepted
      cases accepted with
      | true => exact ihsecond
      | false => rfl
  | held holder filter ih => exact ih
  | custom name accepts => rfl

/-- The evaluation of a list of filters, call by call. -/
def allScript (repository : Repository σ) (scope : Scope) :
    List (Filter σ) → String → Script σ Bool
  | [], _ => return true
  | filter :: filters, path => do
      if ← filter.script repository scope path then
        allScript repository scope filters path
      else return false

theorem allScript_run (scope : Scope) (filters : List (Filter σ)) (path : String) :
    (allScript repository scope filters path).run repository =
      acceptsAll repository scope filters path := by
  induction filters with
  | nil => rfl
  | cons filter filters ih =>
      rw [allScript, acceptsAll, run_bind, script_run]
      congr 1
      funext accepted
      cases accepted with
      | true => exact ih
      | false => rfl

end Filter

/-! ## Actions -/

namespace Action

variable {σ : Type} {repository : Repository σ}

/-- The call of the replicator and what is reported of it. -/
def dispatchScript (scope : Scope) (kind : ReplicationKind) (path : String)
    (options : Option ReplicationOptions) : Script σ Unit :=
  .dispatch kind path options <| proceed fun _ =>
    ofJob (Job.emit scope
      (.replicated path kind (options.map ReplicationOptions.agentIds)))

/-- The replication of an item, step by step. -/
def replicateScript (scope : Scope) (kind : ReplicationKind) (path : String) :
    Targets → Script σ Unit
  | .platform => dispatchScript scope kind path none
  | .fixed options => dispatchScript scope kind path (some options)
  | .inTurn options rotation =>
    .draw options rotation fun drawn => dispatchScript scope kind path (some drawn)

theorem dispatchScript_run (scope : Scope) (kind : ReplicationKind) (path : String)
    (options : Option ReplicationOptions) :
    (dispatchScript scope kind path options).run repository =
      (Job.ask repository (.replicate kind path options) >>= fun _ =>
        Job.emit scope
          (.replicated path kind (options.map ReplicationOptions.agentIds))) := by
  funext batch
  rw [Job.bind_apply]
  show (proceed _ (Job.ask repository (.replicate kind path options) batch).1).run
      repository
    (Job.ask repository (.replicate kind path options) batch).2 = _
  rcases Job.ask repository (.replicate kind path options) batch with ⟨_ | _, _⟩
  · rfl
  · rfl

theorem replicateScript_run (scope : Scope) (kind : ReplicationKind) (path : String)
    (targets : Targets) :
    (replicateScript scope kind path targets).run repository =
      replicateItem repository scope kind targets path := by
  cases targets with
  | platform => exact dispatchScript_run scope kind path none
  | fixed options => exact dispatchScript_run scope kind path (some options)
  | inTurn options rotation =>
      funext batch
      exact congrFun (dispatchScript_run scope kind path (some (options.turn _))) _

/-- The asset at a path, which has to be there, step by step. -/
def resolveScript (repository : Repository σ) (path : String) : Script σ Asset := do
  match ← ofJob (Job.ask repository (.resolve path)) with
  | some asset => return asset
  | none => ofJob (Job.fail (.assetNotFound path))

theorem resolveScript_run (path : String) :
    (resolveScript repository path).run repository = resolveAsset repository path := by
  rw [resolveScript, run_bind, resolveAsset]
  congr 1
  funext asset
  cases asset with
  | some asset => rfl
  | none => rfl

/-- Something done for each of some renditions that passes all filters, step by step. -/
def forRenditionsScript (repository : Repository σ) (scope : Scope)
    (filters : List (Filter σ)) (invoke : Script σ Unit) :
    List Rendition → Nat → Script σ Nat
  | [], invoked => return invoked
  | rendition :: renditions, invoked => do
      if ← Filter.allScript repository scope filters rendition.path then
        invoke
        forRenditionsScript repository scope filters invoke renditions (invoked + 1)
      else forRenditionsScript repository scope filters invoke renditions invoked

theorem forRenditionsScript_run (scope : Scope) (filters : List (Filter σ))
    (invoke : Script σ Unit) (renditions : List Rendition) (invoked : Nat) :
    (forRenditionsScript repository scope filters invoke renditions invoked).run
      repository =
      forRenditions repository scope filters
        (invoke.run repository) renditions invoked := by
  induction renditions generalizing invoked with
  | nil => rfl
  | cons rendition renditions ih =>
      rw [forRenditionsScript, forRenditions, run_bind, Filter.allScript_run]
      congr 1
      funext accepted
      cases accepted with
      | true =>
          show (invoke >>= _).run repository = _
          rw [run_bind]
          simp only [ih]
          rfl
      | false => exact ih invoked

/-- The script of an action.  What neither replicates nor applies another action is one
step. -/
def script (repository : Repository σ) (scope : Scope) :
    Action σ → String → Script σ Unit
  | replicate kind targets, path =>
    .invoke kind path scope
      (replicateScript (some (.onItem kind.name path)) kind path targets)
  | removeRenditions selector, path =>
    ofJob ((removeRenditions selector).apply repository scope path)
  | withAllRenditions action filters, path =>
    within scope (.onItem Operation.withAllRenditions path) fun scope => do
      let asset ← resolveScript repository path
      let invoked ← forRenditionsScript repository scope filters
        (action.script repository scope path) asset.renditions 0
      ofJob (Job.emit scope (.fannedOut path asset.renditions.length invoked))
  | startWorkflow model, path =>
    ofJob ((startWorkflow model).apply repository scope path)
  | retry settings action, path =>
    settings.performScript repository scope
      (.onItem Operation.retry path) path fun scope =>
      action.script repository scope path
  | custom _ apply, path => ofJob (apply path)

/-- With nobody else at work, the script of an action does what the action does. -/
theorem script_run (action : Action σ) (scope : Scope) (path : String) :
    (action.script repository scope path).run repository =
      action.apply repository scope path := by
  induction action generalizing scope with
  | replicate kind targets =>
      funext batch
      exact congrFun (replicateScript_run _ kind path targets) _
  | removeRenditions selector => rfl
  | withAllRenditions action filters ih =>
      rw [script, apply, run_within]
      congr 1
      funext scope
      rw [run_bind, resolveScript_run, fanOut]
      congr 1
      funext asset
      rw [run_bind, forRenditionsScript_run, ih]
      rfl
  | startWorkflow model => rfl
  | retry settings action ih =>
      rw [script, apply, Retry.performScript_run]
      simp only [ih]
  | custom name apply => rfl

end Action

end ContentBatch
