import ContentBatch.Proofs.RoundRobin.Invocations

/-!
# Workers on one rotation

Several workers share an action that takes turns.  Each of them has a session and tasks
of its own, and their steps are mixed as a scheduler likes: between the draw of a worker
and its call of the replicator others may draw and call, so the calls need not come in
the order of the draws.  What the workers share is the count of the rotation, and it
moves with every draw by exactly one.

A `Pool` is some workers and the counts they share, with a log of who did what.
`Happening.step` lets one worker make one step.  `Happening.outside` lets anything else
happen to the repository behind a session, so what one worker does there may reach the
others in any way.

Two invariants are carried from step to step.  `Pool.Sound` is about each worker alone:
what it did are whole invocations and the beginning of another one.  `Pool.Counted` is
about a rotation: what was drawn from it, by whomever, is what its count says.

## Main results

* `Assignment.exists_steps`: a worker alone applies the actions of its tasks.
* `Pool.Sound.run`, `Pool.Counted.run`: the invariants hold after every schedule.
* `Catalog.workers_in_turn`: a shared rotation serves all draws in turn, and every
  invocation replicates with what it has drawn.
-/

namespace ContentBatch

/-! ## Workers -/

/-- An action to be applied to an item. -/
structure Task (σ : Type) where
  action : Action σ
  path : String

/-- What a worker is given: a session of the repository, and tasks to go through. -/
structure Assignment (σ : Type) where
  repository : Repository σ
  scope : Scope := none
  store : σ
  tasks : List (Task σ)

namespace Assignment

variable {σ : Type}

/-- What is applied in some task, itself or within retries and fan-outs. -/
def Covers (assignment : Assignment σ) (action : Action σ) (path : String) : Prop :=
  ∃ task ∈ assignment.tasks, task.path = path ∧ action.Around task.action

/-- Goes through tasks, whether they succeed or fail. -/
def tasksScript (repository : Repository σ) (scope : Scope) :
    List (Task σ) → Script σ Unit
  | [] => return ()
  | task :: tasks =>
    (task.action.script repository scope task.path).resume fun _ =>
      tasksScript repository scope tasks

/-- What is left to do at the beginning. -/
def script (assignment : Assignment σ) : Script σ Unit :=
  tasksScript assignment.repository assignment.scope assignment.tasks

/-- Applies the action of each task to what the one before it has left. -/
def applyAll (assignment : Assignment σ) (batch : Batch σ) : Batch σ :=
  assignment.tasks.foldl (fun batch task =>
    (task.action.apply assignment.repository assignment.scope task.path batch).2) batch

theorem tasksScript_run (repository : Repository σ) (scope : Scope)
    (tasks : List (Task σ)) (batch : Batch σ) :
    (tasksScript repository scope tasks).run repository batch =
      (.ok (), tasks.foldl (fun batch task =>
        (task.action.apply repository scope task.path batch).2) batch) := by
  induction tasks generalizing batch with
  | nil => rfl
  | cons task tasks ih =>
    rw [tasksScript, Script.run_resume, Action.script_run, ih, List.foldl_cons]

/-- With nobody else at work, the steps of a worker come to an end, and then its actions
are applied. -/
theorem exists_steps (assignment : Assignment σ) (batch : Batch σ) :
    ∃ count, assignment.script.steps assignment.repository count batch =
      (.done (.ok ()), assignment.applyAll batch) := by
  obtain ⟨count, hcount⟩ :=
    Script.exists_steps assignment.repository assignment.script batch
  have hrun : assignment.script.run assignment.repository batch =
      (.ok (), assignment.applyAll batch) :=
    tasksScript_run assignment.repository assignment.scope assignment.tasks batch
  rw [hrun] at hcount
  exact ⟨count, hcount⟩

theorem tasksScript_orderly {belongs : Action σ → String → Prop}
    (repository : Repository σ) (scope : Scope) {tasks : List (Task σ)}
    (htasks : ∀ task ∈ tasks, ∃ kind options rotation,
      Action.Around (.replicate kind (.inTurn options rotation)) task.action ∧
      belongs (.replicate kind (.inTurn options rotation)) task.path) :
    Orderly belongs [] (tasksScript repository scope tasks) := by
  induction tasks with
  | nil => exact .done
  | cons task tasks ih =>
      rw [List.forall_mem_cons] at htasks
      obtain ⟨⟨kind, options, rotation, haround, hbelongs⟩, htasks⟩ := htasks
      exact (haround.orderly rfl hbelongs scope).resume fun _ => ih htasks

end Assignment

/-- A worker in the middle of its tasks.  The session is its own. -/
structure Worker (σ : Type) where
  repository : Repository σ
  store : σ
  journal : Journal := #[]
  script : Script σ Unit

namespace Worker

variable {σ : Type}

/-- A worker at the beginning. -/
def start (assignment : Assignment σ) : Worker σ where
  repository := assignment.repository
  store := assignment.store
  script := assignment.script

/-- The next step of a worker, with the counts of the rotations as they are. -/
def step (worker : Worker σ) (turns : List Nat) :
    Option Moment × Script σ Unit × Batch σ :=
  worker.script.step worker.repository
    { store := worker.store, turns, journal := worker.journal }

/-- The worker after its next step. -/
def next (worker : Worker σ) (turns : List Nat) : Worker σ :=
  { worker with
    store := (worker.step turns).2.2.store
    journal := (worker.step turns).2.2.journal
    script := (worker.step turns).2.1 }

/-- The worker after others have done something to the repository behind its session. -/
def disturb (worker : Worker σ) (change : σ → σ) : Worker σ :=
  { worker with store := change worker.store }

/-- What a worker did are whole invocations of what `belongs` to it, and then `pending`.
The journal of its session has the calls of the replicator. -/
structure Made (belongs : Action σ → String → Prop) (worker : Worker σ)
    (moments : List Moment) (invocations : List Invocation)
    (pending : List Moment) : Prop where
  log : moments = invocations.flatMap Invocation.moments ++ pending
  own : ∀ invocation ∈ invocations, belongs invocation.action invocation.path
  calls : worker.journal.dispatches = invocations.map Invocation.dispatch

/-- The worker will complete what is pending, and go on with whole invocations. -/
structure Invoked (belongs : Action σ → String → Prop) (worker : Worker σ)
    (moments : List Moment) (invocations : List Invocation)
    (pending : List Moment) : Prop
    extends Made belongs worker moments invocations pending where
  orderly : Orderly belongs pending worker.script

/-- What is pending is nothing or the beginning of another invocation, and nothing once
the worker has finished. -/
structure Followed (belongs : Action σ → String → Prop) (worker : Worker σ)
    (moments : List Moment) (invocations : List Invocation)
    (pending : List Moment) : Prop
    extends Made belongs worker moments invocations pending where
  begun : pending = [] ∨ ∃ invocation : Invocation,
      belongs invocation.action invocation.path ∧
    ∃ count < 3, pending = invocation.moments.take count
  finished : ∀ result, worker.script = .done result → pending = []

variable {belongs : Action σ → String → Prop} {worker : Worker σ}
  {moments pending : List Moment} {invocations : List Invocation}

theorem Invoked.next (hinvoked : worker.Invoked belongs moments invocations pending)
    (turns : List Nat) :
    ∃ invocations pending, (worker.next turns).Invoked belongs
      (moments ++ (worker.step turns).1.toList) invocations pending := by
  obtain ⟨invocations', pending', hbelongs, hmoments, horderly, hdispatches⟩ :=
    hinvoked.orderly.step worker.repository
      { store := worker.store, turns, journal := worker.journal }
  refine ⟨invocations ++ invocations', pending', ⟨?log, ?own, ?calls⟩, horderly⟩
  case log =>
    show moments ++ (worker.script.step _ _).1.toList = _
    rw [hinvoked.log, List.append_assoc, hmoments, List.flatMap_append,
      List.append_assoc]
  case own => exact List.forall_mem_append.2 ⟨hinvoked.own, hbelongs⟩
  case calls =>
    show Journal.dispatches (worker.script.step _ _).2.2.journal = _
    rw [hdispatches, hinvoked.calls, List.map_append]

theorem Invoked.disturb (hinvoked : worker.Invoked belongs moments invocations pending)
    (change : σ → σ) :
    (worker.disturb change).Invoked belongs moments invocations pending :=
  { hinvoked with }

theorem Invoked.followed
    (hinvoked : worker.Invoked belongs moments invocations pending) :
    worker.Followed belongs moments invocations pending where
  toMade := hinvoked.toMade
  begun := hinvoked.orderly.pending_prefix
  finished := by
    intro result hdone
    have horderly := hinvoked.orderly
    rw [hdone] at horderly
    exact horderly.pending_eq_nil

end Worker

/-! ## Pools -/

/-- Several workers, each with a session of its own, who share the counts of the
rotations.  The log says who did what in which order. -/
structure Pool (ι σ : Type) where
  turns : List Nat
  workers : ι → Worker σ
  log : List (ι × Moment) := []

/-- What happens next: a step of a worker, or something that others do to the repository
behind its session. -/
inductive Happening (ι σ : Type) where
  | step (index : ι)
  | outside (index : ι) (change : σ → σ)

/-- What one worker did. -/
def momentsOf {ι : Type} [DecidableEq ι] (index : ι)
    (log : List (ι × Moment)) : List Moment :=
  log.filterMap fun entry => if entry.1 = index then some entry.2 else none

/-- What all workers together drew from a rotation. -/
def drawsOf {ι : Type} (rotation : Nat) (log : List (ι × Moment)) :
    List (Nat × ReplicationOptions) :=
  log.filterMap fun entry => entry.2.draw? rotation

namespace Pool

variable {ι σ : Type} [DecidableEq ι]

/-- A pool at the beginning. -/
def start (turns : List Nat) (assignments : ι → Assignment σ) : Pool ι σ where
  turns
  workers index := .start (assignments index)

/-- The pool after something has happened. -/
def advance (pool : Pool ι σ) : Happening ι σ → Pool ι σ
  | .step index =>
    let outcome := (pool.workers index).step pool.turns
    { turns := outcome.2.2.turns
      workers :=
        Function.update pool.workers index ((pool.workers index).next pool.turns)
      log := pool.log ++ outcome.1.toList.map fun moment => (index, moment) }
  | .outside index change =>
    { pool with
      workers :=
        Function.update pool.workers index ((pool.workers index).disturb change) }

/-- The pool after all that a schedule says has happened. -/
def run (pool : Pool ι σ) (schedule : List (Happening ι σ)) : Pool ι σ :=
  schedule.foldl advance pool

/-- Every worker has made whole invocations of what belongs to it. -/
def Sound (belongs : ι → Action σ → String → Prop) (pool : Pool ι σ) : Prop :=
  ∀ index, ∃ invocations pending, (pool.workers index).Invoked (belongs index)
    (momentsOf index pool.log) invocations pending

variable {belongs : ι → Action σ → String → Prop} {pool : Pool ι σ}

theorem Sound.advance (hsound : pool.Sound belongs) (happening : Happening ι σ) :
    (pool.advance happening).Sound belongs := by
  intro index
  obtain ⟨invocations, pending, hinvoked⟩ := hsound index
  cases happening with
  | step other =>
      show ∃ invocations pending, (Function.update pool.workers other _ index).Invoked _
        (momentsOf index (pool.log ++ _)) invocations pending
      rw [momentsOf, List.filterMap_append, List.filterMap_map]
      by_cases hother : other = index
      · subst hother
        rw [Function.update_self]
        have hnext := hinvoked.next pool.turns
        simpa [momentsOf, Function.comp_def] using hnext
      · rw [Function.update_of_ne (Ne.symm hother)]
        refine ⟨invocations, pending, ?_⟩
        simpa [momentsOf, Function.comp_def, hother] using hinvoked
  | outside other change =>
      refine ⟨invocations, pending, ?_⟩
      show (Function.update pool.workers other _ index).Invoked _ _ invocations pending
      by_cases hother : other = index
      · subst hother
        rw [Function.update_self]
        exact hinvoked.disturb change
      · rw [Function.update_of_ne (Ne.symm hother)]
        exact hinvoked

theorem Sound.run (hsound : pool.Sound belongs) (schedule : List (Happening ι σ)) :
    (pool.run schedule).Sound belongs := by
  induction schedule generalizing pool with
  | nil => exact hsound
  | cons happening schedule ih => exact ih (hsound.advance happening)

/-- What was drawn from a rotation is what its count says. -/
def Counted (options : RoundRobin ReplicationOptions) (rotation : Nat)
    (pool : Pool ι σ) : Prop :=
  drawsOf rotation pool.log = options.firstDraws (Job.turnOf pool.turns rotation)

section Counted

variable {options : RoundRobin ReplicationOptions} {rotation : Nat}
  (hoptions : ∀ index kind options' path, belongs index
    (.replicate kind (.inTurn options' rotation)) path → options' = options)

include hoptions

theorem Counted.advance (hcounted : pool.Counted options rotation)
    (hsound : pool.Sound belongs) (happening : Happening ι σ) :
    (pool.advance happening).Counted options rotation := by
  cases happening with
  | step index =>
      obtain ⟨invocations, pending, hinvoked⟩ := hsound index
      have hturns := hinvoked.orderly.step_turns (hoptions index)
        (pool.workers index).repository
        { store := (pool.workers index).store, turns := pool.turns,
          journal := (pool.workers index).journal }
      show drawsOf rotation (pool.log ++ _) = options.firstDraws (Job.turnOf _ rotation)
      rw [drawsOf, List.filterMap_append, List.filterMap_map]
      exact (congrArg (· ++ _) hcounted).trans hturns.symm
  | outside index change => exact hcounted

theorem Counted.run (hcounted : pool.Counted options rotation)
    (hsound : pool.Sound belongs) (schedule : List (Happening ι σ)) :
    (pool.run schedule).Counted options rotation := by
  induction schedule generalizing pool with
  | nil => exact hcounted
  | cons happening schedule ih =>
      exact ih (hcounted.advance hoptions hsound happening) (hsound.advance happening)

end Counted

end Pool

/-! ## Turns -/

namespace RoundRobin

variable {α : Type}

/-- Draws in the order in which they were made, each with its turn.  They are the draws
of a single cursor: none is lost and none is made twice, a draw gets the value whose
place is its turn modulo the number of values, and each value is drawn equally often,
the first values once more if the draws leave a rest. -/
structure InTurn (values : RoundRobin α) (draws : List (Nat × α)) : Prop where
  cursor : draws.map Prod.snd = (Cursor.draws draws.length (.start values)).1
  order : ∀ turn < draws.length, ∃ value,
    draws[turn]? = some (turn, value) ∧ values.values[turn % values.size]? = some value
  shares : ∀ position < values.size,
    draws.countP (fun draw => draw.1 % values.size == position) =
      draws.length / values.size + if position <
        draws.length % values.size then 1 else 0

theorem firstDraws_inTurn (values : RoundRobin α) (count : Nat) :
    values.InTurn (values.firstDraws count) := by
  have hlength : (values.firstDraws count).length = count := by
    rw [firstDraws, List.length_map, List.length_range]
  constructor
  case cursor =>
    rw [hlength, Cursor.draws_fst, firstDraws, List.map_map]
    refine List.map_congr_left ?_
    intro turn _
    show values.turn turn = values.turn (0 + turn)
    rw [Nat.zero_add]
  case order =>
    intro turn hturn
    rw [hlength] at hturn
    refine ⟨values.turn turn, ?_, ?_⟩
    · rw [firstDraws, List.getElem?_map, List.getElem?_range hturn]
      rfl
    · exact List.getElem?_eq_getElem _
  case shares =>
    intro position hposition
    rw [hlength, firstDraws, List.countP_map]
    exact countP_range_mod values.size_pos hposition count

end RoundRobin

/-! ## Actions in turn -/

theorem Job.turnOf_append (turns others : List Nat) (rotation : Nat) :
    turnOf (turns ++ others) (turns.length + rotation) = turnOf others rotation := by
  unfold turnOf
  rw [List.getD_eq_getElem?_getD, List.getElem?_append_right (Nat.le_add_right _ _),
    Nat.add_sub_cancel_left, List.getD_eq_getElem?_getD]

namespace Pool

variable {ι σ : Type} {belongs : ι → Action σ → String → Prop} {pool : Pool ι σ}
  {options : RoundRobin ReplicationOptions} {rotation : Nat} {turns : List Nat}

/-- Nothing was drawn yet from a rotation whose count is zero. -/
theorem start_counted (options : RoundRobin ReplicationOptions)
    (assignments : ι → Assignment σ) (hfresh : Job.turnOf turns rotation = 0) :
    (start turns assignments).Counted options rotation := by
  show [] = options.firstDraws (Job.turnOf turns rotation)
  rw [hfresh]
  rfl

variable [DecidableEq ι]

theorem start_sound (turns : List Nat) {assignments : ι → Assignment σ}
    (htasks : ∀ index, ∀ task ∈ (assignments index).tasks, ∃ kind options rotation,
      Action.Around (.replicate kind (.inTurn options rotation)) task.action ∧
        belongs index (.replicate kind (.inTurn options rotation)) task.path) :
    (start turns assignments).Sound belongs := by
  intro index
  refine ⟨[], [], ⟨rfl, ?_, rfl⟩, Assignment.tasksScript_orderly _ _ (htasks index)⟩
  intro invocation hinvocation
  cases hinvocation

/-- Whatever happens, what is drawn from a rotation is drawn in turn. -/
theorem Counted.inTurn (hcounted : pool.Counted options rotation)
    (hoptions : ∀ index kind options' path, belongs index
      (.replicate kind (.inTurn options' rotation)) path → options' = options)
    (hsound : pool.Sound belongs) (schedule : List (Happening ι σ)) :
    options.InTurn (drawsOf rotation (pool.run schedule).log) := by
  have hfinal : drawsOf rotation (pool.run schedule).log = _ :=
    hcounted.run hoptions hsound schedule
  rw [hfinal]
  exact options.firstDraws_inTurn _

end Pool

namespace Catalog

variable {σ : Type}

/-- Two actions from the same options have a rotation each. -/
theorem activateAllInTurn_twice (options : RoundRobin ReplicationOptions)
    (batch : Batch σ) :
    (do return (← activateAllInTurn options.values, ← activateAllInTurn
      options.values) :
        Job σ (Action σ × Action σ)) batch =
      (.ok (.replicate .activate (.inTurn options batch.turns.length),
          .replicate .activate (.inTurn options (batch.turns.length + 1))),
        { batch with turns := batch.turns ++ [0, 0] }) := by
  rw [Job.bind_apply, activateAllInTurn_apply]
  dsimp only
  rw [Job.bind_apply, activateAllInTurn_apply, List.length_append, List.append_assoc]
  rfl

/-- Workers who share two actions that activate in turn, built from the same options.
Each worker goes through tasks of its own with a session of its own; a task applies one
of the two actions, itself or within retries and fan-outs.  Alone, a worker applies the
actions of its tasks one after another.  However the steps of the workers are mixed, and
whatever the repository does and fails to do, each rotation serves all draws from it in
turn, whatever is drawn from the other one, and what each worker does is one whole
invocation after another: it draws once and passes on what it has drawn. -/
theorem workers_in_turn (options : RoundRobin ReplicationOptions) (batch : Batch σ) :
    ∃ (first second : Action σ) (opened : Batch σ) (rotation other : Nat),
      (do return (← activateAllInTurn options.values, ← activateAllInTurn
        options.values) :
          Job σ (Action σ × Action σ)) batch = (.ok (first, second), opened) ∧
      first = .replicate .activate (.inTurn options rotation) ∧
      second = .replicate .activate (.inTurn options other) ∧ rotation ≠ other ∧
      ∀ (ι : Type) [DecidableEq ι] (assignments : ι → Assignment σ),
        (∀ index, ∀ task ∈ (assignments index).tasks,
          first.Around task.action ∨ second.Around task.action) →
        (∀ index alone, ∃ count,
          (assignments index).script.steps (assignments index).repository count alone =
            (.done (.ok ()), (assignments index).applyAll alone)) ∧
        ∀ schedule : List (Happening ι σ),
          let pool := (Pool.start opened.turns assignments).run schedule
          options.InTurn (drawsOf rotation pool.log) ∧
          options.InTurn (drawsOf other pool.log) ∧
          ∀ index, ∃ invocations pending, (pool.workers index).Followed
            (fun action path => (action = first ∨ action = second) ∧
              (assignments index).Covers action path)
            (momentsOf index pool.log) invocations pending := by
  let first : Action σ := .replicate .activate (.inTurn options batch.turns.length)
  let second : Action σ :=
    .replicate .activate (.inTurn options (batch.turns.length + 1))
  refine ⟨first, second, { batch with turns := batch.turns ++ [0, 0] }, _, _,
    activateAllInTurn_twice options batch, rfl, rfl, (Nat.succ_ne_self _).symm, ?_⟩
  intro ι _ assignments htasks
  refine ⟨fun index alone => (assignments index).exists_steps alone, ?_⟩
  intro schedule pool
  let belongs (index : ι) (action : Action σ) (path : String) : Prop :=
    (action = first ∨ action = second) ∧ (assignments index).Covers action path
  have hsound : (Pool.start (batch.turns ++ [0, 0]) assignments).Sound belongs := by
    refine Pool.start_sound _ ?_
    intro index task htask
    rcases htasks index task htask with haround | haround
    · exact ⟨_, _, _, haround, .inl rfl, task, htask, rfl, haround⟩
    · exact ⟨_, _, _, haround, .inr rfl, task, htask, rfl, haround⟩
  have hoptions (rotation : Nat) : ∀ index kind options' path,
      belongs index (.replicate kind (.inTurn options' rotation)) path →
      options' = options := by
    rintro index kind options' path ⟨hshared | hshared, -⟩
    · exact (Targets.inTurn.inj (Action.replicate.inj hshared).2).1
    · exact (Targets.inTurn.inj (Action.replicate.inj hshared).2).1
  have hturns (rotation : Nat)
      (hfresh : Job.turnOf (batch.turns ++ [0, 0]) rotation = 0) :
      options.InTurn (drawsOf rotation pool.log) :=
    (Pool.start_counted options assignments hfresh).inTurn
      (hoptions rotation) hsound schedule
  refine ⟨hturns _ (Job.turnOf_append _ _ 0), hturns _ (Job.turnOf_append _ _ 1), ?_⟩
  intro index
  obtain ⟨invocations, pending, hinvoked⟩ := hsound.run schedule index
  exact ⟨invocations, pending, hinvoked.followed⟩

open Rehearsal in
/-- The first worker draws, the second one draws and replicates, and only then the first
one replicates, which fails and is tried again. -/
theorem overtaken_worker_in_turn :
    let options : RoundRobin ReplicationOptions :=
      ⟨[.forAgent "publish-1", .forAgent "publish-2"], by decide⟩
    let shared : Action World := .replicate .activate (.inTurn options 0)
    let conflict : Turn := { error := some (.session "conflict") }
    let assignments : Bool → Assignment World := fun
      | false => {
          repository := World.repository
          store := { queues := [(.replicate, [conflict])] }
          tasks := [⟨.retry { policy := .standard } shared, "/a"⟩] }
      | true =>
        { repository := World.repository, store := {}, tasks := [⟨shared, "/b"⟩] }
    let schedule : List (Happening Bool World) :=
      .replicate 4 (.step false) ++ .replicate 3 (.step true) ++
        .replicate 20 (.step false)
    let log := ((Pool.start [0, 0] assignments).run schedule).log
    (∀ index, ∀ task ∈ (assignments index).tasks, shared.Around task.action) ∧
      log =
        [(false, .invoked .activate "/a"), (false, .drew 0 0 (.forAgent "publish-1")),
          (true, .invoked .activate "/b"), (true, .drew 0 1 (.forAgent "publish-2")),
          (true, .dispatched .activate "/b" (some (.forAgent "publish-2")) none),
          (false, .dispatched .activate "/a" (some (.forAgent "publish-1"))
            (some (.session "conflict"))),
          (false, .invoked .activate "/a"), (false, .drew 0 2 (.forAgent "publish-1")),
          (false, .dispatched .activate "/a" (some (.forAgent "publish-1")) none)] ∧
      options.InTurn (drawsOf 0 log) := by
  intro options shared conflict assignments schedule log
  have haround : ∀ index, ∀ task ∈ (assignments index).tasks,
      shared.Around task.action := by
    intro index task htask
    cases index with
    | false =>
        obtain rfl := List.mem_singleton.1 htask
        exact .retry _ .itself
    | true =>
        obtain rfl := List.mem_singleton.1 htask
        exact .itself
  obtain ⟨first, second, opened, rotation, other, hmade, hfirst, hsecond, hne, hall⟩ :=
    workers_in_turn options ({ store := {} } : Batch World)
  obtain ⟨hresult, hopened⟩ := Prod.mk.inj hmade
  obtain ⟨rfl, rfl⟩ := Prod.mk.inj (Except.ok.inj hresult)
  obtain rfl : 0 = rotation := (Targets.inTurn.inj (Action.replicate.inj hfirst).2).2
  subst hopened
  obtain ⟨-, hschedule⟩ :=
    hall Bool assignments (fun index task htask => .inl (haround index task htask))
  exact ⟨haround, by decide +kernel, (hschedule schedule).1⟩

end Catalog

end ContentBatch
