import ContentBatch.Proofs.Composition
import ContentBatch.Proofs.RoundRobin.Script
import ContentBatch.Proofs.RoundRobin.Served

/-!
# Whole invocations

A replication whose targets take turns is invoked, draws, and calls the replicator, in
this order and once each.  Retries and fan-outs around it do other things in between,
but only between two invocations.  This module says so of scripts:
`Orderly pending script` means that the invocation of which `pending` is done already
will be completed, and that every further one will be whole.

It is said of what is left to do, and not of a run, so that it holds however the steps
of a script are mixed with the steps of others: `Orderly.step` needs to know nothing of
the batch that a step is given.

## Main results

* `Script.exists_steps`: step by step a script comes to the end of its run.
* `Orderly.step`, `Orderly.step_turns`: one step continues an invocation or lies between
  two of them, and the counts of the rotations move exactly by what was drawn.
* `Action.Around.orderly`: the script of an action around a shared one is orderly.
-/

namespace ContentBatch

/-! ## Moments -/

/-- What can be seen of a step. -/
inductive Moment where
  | invoked (kind : ReplicationKind) (path : String)
  | drew (rotation turn : Nat) (options : ReplicationOptions)
  | dispatched (kind : ReplicationKind) (path : String)
      (options : Option ReplicationOptions) (failure : Option ActionError)
  deriving DecidableEq

/-- The first draws from a rotation: their turns, and what they get. -/
def RoundRobin.firstDraws {α : Type} (values : RoundRobin α)
    (count : Nat) : List (Nat × α) :=
  (List.range count).map fun turn => (turn, values.turn turn)

namespace Moment

/-- The turn that is drawn from a rotation, and the options that go with it. -/
def draw? (rotation : Nat) : Moment → Option (Nat × ReplicationOptions)
  | drew other turn options => if other = rotation then some (turn, options) else none
  | _ => none

end Moment

/-- An invocation of a replication whose targets take turns, from its beginning to its
end. -/
structure Invocation where
  kind : ReplicationKind
  options : RoundRobin ReplicationOptions
  rotation : Nat
  path : String
  turn : Nat
  failure : Option ActionError

namespace Invocation

variable {σ : Type}

/-- What is invoked. -/
def action (invocation : Invocation) : Action σ :=
  .replicate invocation.kind (.inTurn invocation.options invocation.rotation)

/-- The options that are drawn. -/
def drawn (invocation : Invocation) : ReplicationOptions :=
  invocation.options.turn invocation.turn

/-- The moments of an invocation.  What is drawn is what the replicator gets. -/
def moments (invocation : Invocation) : List Moment :=
  [.invoked invocation.kind invocation.path,
    .drew invocation.rotation invocation.turn invocation.drawn,
    .dispatched invocation.kind invocation.path
      (some invocation.drawn) invocation.failure]

/-- The call of the replicator. -/
def dispatch (invocation : Invocation) : Dispatch :=
  ⟨invocation.path, some invocation.drawn, invocation.failure⟩

end Invocation

/-! ## Steps -/

namespace Script

variable {σ α : Type}

/-- One step: what can be seen of it, what is left to do, and the batch after it.  A
script that is done stays as it is. -/
def step (repository : Repository σ) :
    Script σ α → Batch σ → Option Moment × Script σ α × Batch σ
  | done result, batch => (none, done result, batch)
  | own move next, batch => (none, next batch, move batch)
  | invoke kind path scope next, batch =>
    (some (.invoked kind path), next,
      (Job.note (.span (.onItem kind.name path) scope) batch).2)
  | draw options rotation next, batch =>
    let turn := Job.turnOf batch.turns rotation
    (some (.drew rotation turn (options.turn turn)), next (options.turn turn),
      { batch with turns := Job.countTurn batch.turns rotation })
  | dispatch kind path options next, batch =>
    let outcome := Job.ask repository (.replicate kind path options) batch
    (some (.dispatched kind path options (Job.failure? outcome.1)),
      next outcome.1, outcome.2)

/-- Several steps, with nobody else at work. -/
def steps (repository : Repository σ) (script : Script σ α) :
    Nat → Batch σ → Script σ α × Batch σ
  | 0, batch => (script, batch)
  | count + 1, batch =>
    (script.step repository batch).2.1.steps repository count
      (script.step repository batch).2.2

/-- Step by step a script comes to its end, and it ends as its run does. -/
theorem exists_steps (repository : Repository σ) (script : Script σ α)
    (batch : Batch σ) :
    ∃ count, script.steps repository count batch =
      (done (script.run repository batch).1, (script.run repository batch).2) := by
  induction script generalizing batch with
  | done result => exact ⟨0, rfl⟩
  | own move next ih =>
      obtain ⟨count, hcount⟩ := ih batch (move batch)
      exact ⟨count + 1, hcount⟩
  | invoke kind path scope next ih =>
      obtain ⟨count, hcount⟩ := ih _
      exact ⟨count + 1, hcount⟩
  | draw options rotation next ih =>
      obtain ⟨count, hcount⟩ := ih _ _
      exact ⟨count + 1, hcount⟩
  | dispatch kind path options next ih =>
      obtain ⟨count, hcount⟩ := ih _ _
      exact ⟨count + 1, hcount⟩

end Script

/-- Between the two batches nothing was drawn and nothing replicated. -/
structure Batch.Quiet {σ : Type} (before after : Batch σ) : Prop where
  turns : after.turns = before.turns
  dispatches : after.journal.dispatches = before.journal.dispatches

/-! ## Order -/

/-- With `pending` done of an invocation, the script completes it, and from then on
makes whole invocations of what `belongs` to it, with quiet steps between them. -/
inductive Orderly {σ α : Type} (belongs : Action σ → String → Prop) :
    List Moment → Script σ α → Prop
  | done {result : Except ActionError α} : Orderly belongs [] (.done result)
  | own {move : Batch σ → Batch σ} {next : Batch σ → Script σ α} :
      (∀ batch : Batch σ, batch.Quiet (move batch)) →
      (∀ batch, Orderly belongs [] (next batch)) →
        Orderly belongs [] (.own move next)
  | invoke {kind : ReplicationKind} {path : String} {scope : Scope}
      {next : Script σ α} :
      Orderly belongs [.invoked kind path] next →
        Orderly belongs [] (.invoke kind path scope next)
  | draw {kind : ReplicationKind} {path : String}
      {options : RoundRobin ReplicationOptions} {rotation : Nat}
      {next : ReplicationOptions → Script σ α} :
      belongs (.replicate kind (.inTurn options rotation)) path →
        (∀ turn,
          Orderly belongs [.invoked kind path, .drew rotation turn (options.turn turn)]
          (next (options.turn turn))) →
        Orderly belongs [.invoked kind path] (.draw options rotation next)
  | dispatch {kind : ReplicationKind} {path : String}
      {options : RoundRobin ReplicationOptions} {rotation turn : Nat}
      {next : Except ActionError Unit → Script σ α} :
      belongs (.replicate kind (.inTurn options rotation)) path →
        (∀ answer, Orderly belongs [] (next answer)) →
        Orderly belongs [.invoked kind path, .drew rotation turn (options.turn turn)]
          (.dispatch kind path (some (options.turn turn)) next)

namespace Orderly

variable {σ α β : Type} {belongs : Action σ → String → Prop} {pending : List Moment}
  {script : Script σ α}

/-- What is pending is the beginning of an invocation. -/
theorem pending_prefix (horderly : Orderly belongs pending script) :
    pending = [] ∨ ∃ invocation : Invocation,
      belongs invocation.action invocation.path ∧
      ∃ count < 3, pending = invocation.moments.take count := by
  cases horderly with
  | done => exact .inl rfl
  | own hquiet hnext => exact .inl rfl
  | invoke hnext => exact .inl rfl
  | @draw kind path options rotation next hbelongs hnext =>
      exact .inr ⟨⟨kind, options, rotation, path, 0, none⟩, hbelongs, 1, by decide, rfl⟩
  | @dispatch kind path options rotation turn next hbelongs hnext =>
      exact .inr ⟨⟨kind, options, rotation, path, turn, none⟩, hbelongs,
        2, by decide, rfl⟩

/-- Nothing is pending once there is nothing left to do. -/
theorem pending_eq_nil {result : Except ActionError α}
    (horderly : Orderly belongs pending (.done result : Script σ α)) : pending = [] :=
  by
  cases horderly
  rfl

/-- A step continues an invocation, or it lies between two of them. -/
theorem step (horderly : Orderly belongs pending script) (repository : Repository σ)
    (batch : Batch σ) :
    ∃ (invocations : List Invocation) (pending' : List Moment),
      (∀ invocation ∈ invocations, belongs invocation.action invocation.path) ∧
      pending ++ (script.step repository batch).1.toList =
        invocations.flatMap Invocation.moments ++ pending' ∧
      Orderly belongs pending' (script.step repository batch).2.1 ∧
      (script.step repository batch).2.2.journal.dispatches =
        batch.journal.dispatches ++ invocations.map Invocation.dispatch := by
  cases horderly with
  | done => exact ⟨[], [], by simp, rfl, .done, by simp [Script.step]⟩
  | own hquiet hnext =>
      exact ⟨[], [], by simp, rfl, hnext batch,
        by simp [Script.step, (hquiet batch).dispatches]⟩
  | invoke hnext =>
      refine ⟨[], _, by simp, rfl, hnext, ?_⟩
      show Journal.dispatches (batch.journal.push _) = _
      rw [Journal.dispatches_push]
      rfl
  | draw hbelongs hnext => exact ⟨[], _, by simp, rfl, hnext _, by simp [Script.step]⟩
  | @dispatch kind path options rotation turn next hbelongs hnext =>
      let answer :=
        Job.ask repository (.replicate kind path (some (options.turn turn))) batch
      refine ⟨[⟨kind, options, rotation, path, turn, Job.failure? answer.1⟩], [], ?_,
        rfl, hnext answer.1, ?_⟩
      · rw [List.forall_mem_singleton]
        exact hbelongs
      · show Journal.dispatches (batch.journal.push _) = _
        rw [Journal.dispatches_push]
        rfl

/-- A step moves the count of a rotation by what it draws from it. -/
theorem step_turns (horderly : Orderly belongs pending script)
    {options : RoundRobin ReplicationOptions} {rotation : Nat}
    (hoptions : ∀ kind options' path,
      belongs (.replicate kind (.inTurn options' rotation)) path → options' = options)
    (repository : Repository σ) (batch : Batch σ) :
    options.firstDraws (Job.turnOf (script.step repository batch).2.2.turns rotation) =
      options.firstDraws (Job.turnOf batch.turns rotation) ++
        (script.step repository batch).1.toList.filterMap (Moment.draw? rotation) := by
  cases horderly with
  | done => simp [Script.step]
  | own hquiet hnext => simp [Script.step, (hquiet batch).turns]
  | invoke hnext => simp [Script.step, Job.note, Moment.draw?]
  | @draw kind path options' other next hbelongs hnext =>
      show options.firstDraws (Job.turnOf (Job.countTurn batch.turns other) rotation) =
        _ ++ [Moment.drew other _ _].filterMap (Moment.draw? rotation)
      rw [Job.turnOf_countTurn]
      by_cases hrotation : rotation = other
      · subst hrotation
        obtain rfl := hoptions _ _ _ hbelongs
        rw [if_pos rfl, RoundRobin.firstDraws, List.range_succ, List.map_append]
        simp [Moment.draw?, RoundRobin.firstDraws]
      · rw [if_neg hrotation, Nat.add_zero]
        simp [Moment.draw?, Ne.symm hrotation]
  | dispatch hbelongs hnext => simp [Script.step, Job.ask, Moment.draw?]

/-! ### Scripts from parts -/

theorem resume (horderly : Orderly belongs pending script)
    {after : Except ActionError α → Script σ β}
    (hafter : ∀ result, Orderly belongs [] (after result)) :
    Orderly belongs pending (script.resume after) := by
  induction horderly with
  | done => exact hafter _
  | own hquiet hnext ih => exact .own hquiet ih
  | invoke hnext ih => exact .invoke ih
  | draw hbelongs hnext ih => exact .draw hbelongs ih
  | dispatch hbelongs hnext ih => exact .dispatch hbelongs ih

theorem bind (horderly : Orderly belongs pending script) {next : α → Script σ β}
    (hnext : ∀ value, Orderly belongs [] (next value)) :
    Orderly belongs pending (script >>= next) := by
  refine horderly.resume ?_
  intro result
  cases result with
  | ok value => exact hnext value
  | error error => exact .done

theorem ofJob {job : Job σ α} (hjob : job.Respects Batch.Quiet) :
    Orderly belongs [] (Script.ofJob job) :=
  .own hjob fun _ => .done

theorem look {step : Batch σ → α × Batch σ}
    (hstep : ∀ batch : Batch σ, batch.Quiet (step batch).2) :
    Orderly belongs [] (Script.look step) :=
  ofJob hstep

theorem change {step : Batch σ → Batch σ}
    (hstep : ∀ batch : Batch σ, batch.Quiet (step batch)) :
    Orderly belongs [] (Script.change step) :=
  ofJob hstep

end Orderly

section Quiet

variable {σ : Type} {repository : Repository σ}

/-- Notes other than those of a replication are quiet. -/
theorem Batch.quiet_push {entry : Entry} (hentry : entry.dispatch? = none)
    (batch : Batch σ) (store : σ) :
    batch.Quiet { batch with store, journal := batch.journal.push entry } := by
  constructor
  case turns => rfl
  case dispatches =>
    show Journal.dispatches (batch.journal.push entry) = _
    rw [Journal.dispatches_push, hentry]
    exact List.append_nil _

theorem Job.note_quiet {entry : Entry} (hentry : entry.dispatch? = none) :
    (Job.note entry : Job σ Unit).Respects Batch.Quiet :=
  fun batch => Batch.quiet_push hentry batch batch.store

theorem Job.ask_quiet {call : Call}
    (hcall : ∀ failure, (Entry.call call failure).dispatch? = none) :
    (Job.ask repository call).Respects Batch.Quiet :=
  fun batch => Batch.quiet_push (hcall _) batch _

end Quiet

namespace Orderly

variable {σ α : Type} {belongs : Action σ → String → Prop} {repository : Repository σ}

theorem within {scope : Scope} {span : Span} {steps : Scope → Script σ α}
    (hsteps : Orderly belongs [] (steps (some span))) :
    Orderly belongs [] (Script.within scope span steps) :=
  (ofJob (Job.note_quiet rfl)).bind fun _ => hsteps

theorem thenNote {steps : Script σ α} (hsteps : Orderly belongs [] steps)
    {entry : Except ActionError α → Entry}
    (hentry : ∀ result, (entry result).dispatch? = none) :
    Orderly belongs [] (steps.thenNote entry) :=
  hsteps.resume fun result => .own (Job.note_quiet (hentry result)) fun _ => .done

end Orderly

/-! ### Retries -/

namespace Retry

variable {σ : Type} {belongs : Action σ → String → Prop} {repository : Repository σ}
  {script : Script σ Unit}

theorem attemptScript_orderly (hscript : Orderly belongs [] script) (number : Nat) :
    Orderly belongs [] (attemptScript number script) :=
  (Orderly.ofJob (Job.note_quiet rfl)).bind fun _ => hscript.thenNote fun _ => rfl

section Surroundings

variable (retry : Retry) (scope : Scope) (subject : String) (job : Job σ Unit)

theorem rollBackScript_orderly :
    Orderly belongs []
      (rollBackScript (retry.surroundings repository scope subject job)) :=
  (Orderly.ofJob (Job.ask_quiet fun _ => rfl)).bind fun _ =>
    .ofJob (Job.ask_quiet fun _ => rfl)

theorem report_quiet (repository : Repository σ) (report : Report) (batch : Batch σ) :
    batch.Quiet
      ((retry.surroundings repository scope subject job).report report batch) :=
  Batch.quiet_push rfl batch batch.store

/-- A run is closed by a report and its result. -/
theorem closing_orderly (repository : Repository σ) (report : Report)
    (error : ActionError) :
    Orderly belongs [] (do
      Script.change ((retry.surroundings repository scope subject job).report report)
      Script.done (.error error) : Script σ Unit) :=
  (Orderly.change (report_quiet retry scope subject job repository report)).bind
    fun _ => .done

theorem tryScript_orderly (hscript : Orderly belongs [] script) (number : Nat)
    {further : ActionError → Script σ Unit}
    (hfurther : ∀ error, Orderly belongs [] (further error)) :
    Orderly belongs []
      (tryScript (retry.surroundings repository scope subject job) script
        number further) := by
  refine (attemptScript_orderly hscript number).resume ?_
  rintro (error | _)
  case ok =>
    refine .change ?_
    intro batch
    by_cases hlater : 1 < number
    · rw [if_pos hlater]
      exact report_quiet retry scope subject job repository _ batch
    · rw [if_neg hlater]
      exact ⟨rfl, rfl⟩
  case error =>
    refine (rollBackScript_orderly retry scope subject job).resume ?_
    rintro (rollbackError | _)
    case error => exact closing_orderly retry scope subject job repository _ _
    case ok => exact hfurther error

theorem attemptsScript_orderly (hscript : Orderly belongs [] script) (delay : Millis)
    (spare number : Nat) :
    Orderly belongs []
      (attemptsScript (retry.surroundings repository scope subject job) script delay
        spare number) := by
  have hclosing (report : Report) (error : ActionError) : Orderly belongs [] _ :=
    closing_orderly retry scope subject job repository report error
  induction spare generalizing number with
  | zero =>
      rw [attemptsScript]
      exact tryScript_orderly retry scope subject job hscript number fun error =>
        hclosing _ error
  | succ spare ih =>
      rw [attemptsScript]
      refine tryScript_orderly retry scope subject job hscript number ?_
      intro error
      refine (Orderly.look fun batch => Batch.quiet_push rfl batch batch.store).bind ?_
      rintro (_ | _)
      case abort => exact hclosing _ error
      case retry =>
        refine (Orderly.change (report_quiet retry scope subject job repository _)).bind
          ?_
        intro _
        refine (Orderly.look fun batch => Batch.quiet_push rfl batch _).bind ?_
        rintro (_ | _)
        case true => exact ih (number + 1)
        case false => exact hclosing _ _

end Surroundings

theorem performScript_orderly (retry : Retry) (scope : Scope) (span : Span)
    (subject : String) {script : Scope → Script σ Unit}
    (hscript : Orderly belongs [] (script (some span))) :
    Orderly belongs [] (retry.performScript repository scope span subject script) :=
  .within <| .thenNote (attemptsScript_orderly retry _ subject _ hscript _ _ _) fun _ =>
    rfl

end Retry

/-! ### Filters -/

namespace Filter

variable {σ : Type} {belongs : Action σ → String → Prop} {repository : Repository σ}

/-- Filters are quiet, if the closures of a host are. -/
theorem script_orderly (scope : Scope) (filter : Filter σ)
    (hclosures : filter.Closures fun _ job => job.Respects Batch.Quiet)
    (path : String) :
    Orderly belongs [] (filter.script repository scope path) := by
  induction filter with
  | pathMatches pattern => exact .done
  | isAsset =>
    exact (Orderly.within (.ofJob (Job.ask_quiet fun _ => rfl))).bind fun _ => .done
  | hasOutdatedRenditions =>
      have hfreshness (scope : Scope) :
          Orderly belongs [] (freshnessScript repository scope path) :=
        (Orderly.ofJob (Job.ask_quiet fun _ => rfl)).bind fun _ =>
          (Orderly.ofJob (Job.note_quiet rfl)).bind fun _ => .done
      exact (Orderly.within (hfreshness _)).bind fun _ => .done
  | negation filter ih => exact (ih hclosures).bind fun _ => .done
  | andThen first second ihfirst ihsecond =>
      refine (ihfirst hclosures.1).bind ?_
      intro accepted
      cases accepted with
      | true => exact ihsecond hclosures.2
      | false => exact .done
  | held holder filter ih => exact ih hclosures
  | custom name accepts => exact .ofJob (hclosures path)

theorem allScript_orderly (scope : Scope) (filters : List (Filter σ))
    (hclosures : ∀ filter ∈ filters,
      filter.Closures fun _ job => job.Respects Batch.Quiet) (path : String) :
    Orderly belongs [] (allScript repository scope filters path) := by
  induction filters with
  | nil => exact .done
  | cons filter filters ih =>
      rw [List.forall_mem_cons] at hclosures
      refine (filter.script_orderly scope hclosures.1 path).bind ?_
      intro accepted
      cases accepted with
      | true => exact ih hclosures.2
      | false => exact .done

end Filter

/-! ### Actions -/

namespace Action

variable {σ : Type} {belongs : Action σ → String → Prop} {repository : Repository σ}
  {shared action : Action σ}

/-- Retries and fan-outs around a shared action.  The closures in filters are taken to
be quiet: they belong to the host, and do not draw from rotations or call the
replicator. -/
inductive Around (shared : Action σ) : Action σ → Prop
  | itself : Around shared shared
  | retry (settings : Retry) {action : Action σ} :
      Around shared action → Around shared (.retry settings action)
  | withAllRenditions {action : Action σ} {filters : List (Filter σ)} :
      Around shared action →
        (∀ filter ∈ filters, filter.Closures fun _ job => job.Respects Batch.Quiet) →
        Around shared (.withAllRenditions action filters)

theorem replicateScript_orderly (scope : Scope) {kind : ReplicationKind} {path : String}
    {options : RoundRobin ReplicationOptions} {rotation : Nat}
    (hbelongs : belongs (.replicate kind (.inTurn options rotation)) path) :
    Orderly belongs [.invoked kind path]
      (replicateScript scope kind path (.inTurn options rotation)) := by
  refine .draw hbelongs ?_
  intro turn
  refine .dispatch hbelongs ?_
  rintro (error | _)
  case error => exact .done
  case ok => exact .ofJob (Job.note_quiet rfl)

theorem forRenditionsScript_orderly (scope : Scope) (filters : List (Filter σ))
    (hclosures : ∀ filter ∈ filters,
      filter.Closures fun _ job => job.Respects Batch.Quiet) {invoke : Script σ Unit}
    (hinvoke : Orderly belongs [] invoke) (renditions : List Rendition)
    (invoked : Nat) :
    Orderly belongs []
      (forRenditionsScript repository scope filters invoke renditions invoked) := by
  induction renditions generalizing invoked with
  | nil => exact .done
  | cons rendition renditions ih =>
      refine (Filter.allScript_orderly scope filters hclosures rendition.path).bind ?_
      intro accepted
      cases accepted with
      | true => exact hinvoke.bind fun _ => ih (invoked + 1)
      | false => exact ih invoked

theorem resolveScript_orderly (path : String) :
    Orderly belongs [] (resolveScript repository path) := by
  refine (Orderly.ofJob (Job.ask_quiet fun _ => rfl)).bind ?_
  intro asset
  cases asset with
  | some asset => exact .done
  | none => exact .ofJob fun _ => ⟨rfl, rfl⟩

/-- What is around a replication whose targets take turns makes whole invocations of it,
and nothing else of the kind. -/
theorem Around.orderly (haround : shared.Around action) {kind : ReplicationKind}
    {options : RoundRobin ReplicationOptions} {rotation : Nat} {path : String}
    (hshared : shared = .replicate kind (.inTurn options rotation))
    (hbelongs : belongs shared path) (scope : Scope) :
    Orderly belongs [] (action.script repository scope path) := by
  subst hshared
  induction haround generalizing scope with
  | itself => exact .invoke (replicateScript_orderly _ hbelongs)
  | retry settings haround ih =>
      exact settings.performScript_orderly scope _ path (ih _)
  | withAllRenditions haround hfilters ih =>
      refine .within ?_
      refine (resolveScript_orderly path).bind ?_
      intro asset
      refine (forRenditionsScript_orderly _ _ hfilters (ih _) _ _).bind ?_
      intro invoked
      exact .ofJob (Job.note_quiet rfl)

end Action

end ContentBatch
