import ContentBatch.Catalog
import ContentBatch.Proofs.Retry.Completion
import ContentBatch.Proofs.Retry.Written
import ContentBatch.Proofs.RoundRobin.OneDrawEach
import ContentBatch.Rehearsal.World

/-!
# Replicating a batch in turn

A replication whose targets take turns draws when it is applied, and a retry applies it
once for every attempt.  So it is the attempts that are served in turn, and not the
items: the turns of all attempts together are `0, 1, 2, …`, whatever fails.

`Served` is what became of an item: the turns of its attempts and how each of them came
out.

## Main results

* `Retry.served_apply`: what one retried item draws and dispatches.
* `Job.served_forPaths`: what a batch draws and dispatches.
* `Catalog.retried_in_turn`: a batch is served with one draw for each item exactly if
  there is a single value to draw or no item is attempted twice.
-/

namespace ContentBatch

/-! ## Dispatches -/

/-- A call of the replicator, and how it failed. -/
structure Dispatch where
  path : String
  options : Option ReplicationOptions
  failure : Option ActionError
  deriving DecidableEq

/-- The dispatch that an entry notes. -/
def Entry.dispatch? : Entry → Option Dispatch
  | .call (.replicate _ path options) failure => some ⟨path, options, failure⟩
  | _ => none

/-- The dispatches of a journal, in order. -/
def Journal.dispatches (journal : Journal) : List Dispatch :=
  journal.toList.filterMap Entry.dispatch?

theorem Journal.dispatches_push (journal : Journal) (entry : Entry) :
    dispatches (journal.push entry) = journal.dispatches ++ entry.dispatch?.toList := by
  unfold dispatches
  rw [Array.toList_push, List.filterMap_append]
  rfl

/-- An item of a batch: the turn of each of its attempts, and how the attempt failed. -/
structure Served where
  path : String
  attempts : List (Nat × Option ActionError)

namespace Served

/-- The turns of an item. -/
def turns (item : Served) : List Nat :=
  item.attempts.map Prod.fst

/-- The dispatches of an item, with the options of its turns. -/
def dispatches (options : RoundRobin ReplicationOptions)
    (item : Served) : List Dispatch :=
  item.attempts.map fun attempt => ⟨item.path, some (options.turn attempt.1), attempt.2⟩

/-- The item was attempted as a policy allows: at least once, as often as there is
budget, and never again after a success. -/
structure Within (policy : RetryPolicy) (item : Served) : Prop where
  attempted : item.attempts ≠ []
  budget : item.attempts.length ≤ policy.maxAttempts.toNat
  failures : ∀ attempt ∈ item.attempts.dropLast, attempt.2 ≠ none

end Served

/-! ## One item -/

namespace Retry

variable {σ : Type} {retry : Retry} {repository : Repository σ} {scope : Scope}
  {subject path : String} {kind : ReplicationKind}
  {options : RoundRobin ReplicationOptions} {rotation number budget : Nat}
  {delay : Millis} {state next final : Batch σ} {result : Except ActionError Unit}
  {error : ActionError} {errors : List ActionError} {ending : Ending}

/-- How far a rotation is, and what was dispatched. -/
def progress (rotation : Nat) (batch : Batch σ) : Nat × List Dispatch :=
  (Job.turnOf batch.turns rotation, batch.journal.dispatches)

/-- The surroundings of a replication that takes turns. -/
abbrev replicating (retry : Retry) (repository : Repository σ) (scope : Scope)
    (subject : String) (kind : ReplicationKind)
    (options : RoundRobin ReplicationOptions) (rotation : Nat)
    (path : String) : Surroundings (Batch σ) :=
  retry.surroundings repository scope subject
    ((Action.replicate kind (.inTurn options rotation)).apply repository scope path)

theorem progress_push (rotation : Nat) (state : Batch σ) (entry : Entry) :
    progress rotation { state with journal := state.journal.push entry } =
      ((progress rotation state).1,
        (progress rotation state).2 ++ entry.dispatch?.toList) := by
  unfold progress
  rw [Journal.dispatches_push]

theorem progress_push_of_none {entry : Entry} (hentry : entry.dispatch? = none)
    (rotation : Nat) (state : Batch σ) :
    progress rotation { state with journal := state.journal.push entry } =
      progress rotation state := by
  rw [progress_push, hentry, Option.toList_none, List.append_nil]

/-- Replicating an item draws once and dispatches with what it has drawn. -/
theorem progress_replicateItem (repository : Repository σ) (scope : Scope)
    (kind : ReplicationKind) (options : RoundRobin ReplicationOptions) (rotation : Nat)
    (path : String) (state : Batch σ) :
    let outcome :=
      Action.replicateItem repository scope kind (.inTurn options rotation) path state
    progress rotation outcome.2 =
      ((progress rotation state).1 + 1, (progress rotation state).2 ++
        [⟨path, some (options.turn (progress rotation state).1),
          Job.failure? outcome.1⟩]) := by
  let turn := Job.turnOf state.turns rotation
  let call : Call := .replicate kind path (some (options.turn turn))
  let drawn : Batch σ := { state with turns := Job.countTurn state.turns rotation }
  rcases hasked : Job.ask repository call drawn with ⟨answer, asked⟩
  have happly :
      Action.replicateItem repository scope kind (.inTurn options rotation) path state =
      (Job.ask repository call >>= fun _ =>
        Job.emit scope (.replicated path kind (some (options.turn turn).agentIds)))
        drawn := rfl
  have hprogress : progress rotation asked =
      (turn + 1, state.journal.dispatches ++
        [⟨path, some (options.turn turn), Job.failure? answer⟩]) := by
    obtain ⟨rfl, rfl⟩ := Prod.mk.inj hasked
    unfold progress
    rw [Journal.dispatches_push]
    show (Job.turnOf (Job.countTurn state.turns rotation) rotation, _) = _
    rw [Job.turnOf_countTurn, if_pos rfl]
    rfl
  rw [happly, Job.bind_apply, hasked]
  cases answer with
  | error error => exact hprogress
  | ok value =>
      show progress rotation { asked with journal := asked.journal.push _ } = _
      rw [progress_push_of_none rfl, hprogress]
      rfl

/-- An attempt draws once and dispatches with what it has drawn. -/
theorem progress_attempt
    (hattempt : (retry.replicating repository scope subject kind options rotation
      path).attempt number state = (result, next)) :
    progress rotation next =
      ((progress rotation state).1 + 1, (progress rotation state).2 ++
        [⟨path, some (options.turn (progress rotation state).1),
          Job.failure? result⟩]) := by
  let noted := (Job.note (.attempt number) state).2
  let opened := (Job.note (.span (.onItem kind.name path) scope) noted).2
  have hstate : progress rotation opened = progress rotation state := by
    show progress rotation { noted with journal := noted.journal.push _ } = _
    rw [progress_push_of_none rfl]
    exact progress_push_of_none rfl rotation state
  have hitem := progress_replicateItem repository
    (some (.onItem kind.name path)) kind options
    rotation path opened
  obtain ⟨rfl, rfl⟩ := Prod.mk.inj hattempt
  rw [hstate] at hitem
  exact (progress_push_of_none rfl rotation _).trans hitem

/-! Neither the rollback nor the classifier nor a wait draws or dispatches. -/

section Frame

variable {job : Job σ Unit}

theorem progress_revert
    (hrevert : (retry.surroundings repository scope subject job).revert state =
      (result, next)) :
    progress rotation next = progress rotation state := by
  obtain ⟨rfl, rfl⟩ := Prod.mk.inj hrevert
  exact progress_push_of_none rfl rotation { state with store := _ }

theorem progress_refresh
    (hrefresh : (retry.surroundings repository scope subject job).refresh state =
      (result, next)) :
    progress rotation next = progress rotation state := by
  obtain ⟨rfl, rfl⟩ := Prod.mk.inj hrefresh
  exact progress_push_of_none rfl rotation { state with store := _ }

theorem progress_classify {decision : Decision}
    (hclassify : (retry.surroundings repository scope subject job).classify error number
      state = (decision, next)) :
    progress rotation next = progress rotation state := by
  obtain ⟨rfl, rfl⟩ := Prod.mk.inj hclassify
  exact progress_push_of_none rfl rotation state

theorem progress_pause {completed : Bool}
    (hpause : (retry.surroundings repository scope subject job).pause delay state
      = (completed, next)) :
    progress rotation next = progress rotation state := by
  obtain ⟨rfl, rfl⟩ := Prod.mk.inj hpause
  exact progress_push_of_none rfl rotation { state with store := _ }

theorem progress_report (report : Report) (state : Batch σ) :
    progress rotation
      ((retry.surroundings repository scope subject job).report report state) =
      progress rotation state :=
  progress_push_of_none rfl rotation state

end Frame

/-- A failed attempt that is rolled back has drawn and dispatched once. -/
theorem progress_rolledBack {failed reverted refreshed : Batch σ}
    (hattempt : (retry.replicating repository scope subject kind options rotation
      path).attempt number state = (.error error, failed))
    (hrevert : (retry.replicating repository scope subject kind options rotation
      path).revert failed = (.ok (), reverted))
    (hrefresh : (retry.replicating repository scope subject kind options rotation
      path).refresh reverted = (.ok (), refreshed)) :
    progress rotation refreshed =
      ((progress rotation state).1 + 1, (progress rotation state).2 ++
        [⟨path, some (options.turn (progress rotation state).1), some error⟩]) := by
  rw [progress_refresh hrefresh, progress_revert hrevert]
  exact progress_attempt hattempt

theorem Surroundings.Continues.progress
    (hcontinues : (retry.replicating repository scope subject kind options rotation
      path).Continues delay budget number state error next) :
    progress rotation next =
      ((progress rotation state).1 + 1, (progress rotation state).2 ++
        [⟨path, some (options.turn (progress rotation state).1), some error⟩]) := by
  obtain ⟨hattempt, hrevert, hrefresh, _, hclassify, hpause⟩ := hcontinues
  rw [progress_pause hpause, progress_report, progress_classify hclassify]
  exact progress_rolledBack hattempt hrevert hrefresh

theorem Surroundings.Ends.progress
    (hends : (retry.replicating repository scope subject kind options rotation
      path).Ends delay budget number state ending final) :
    progress rotation final =
      ((progress rotation state).1 + 1, (progress rotation state).2 ++
        [⟨path, some (options.turn (progress rotation state).1),
          Job.failure? ending.attempted⟩]) := by
  cases hends with
  | succeeded hattempt =>
      by_cases hlater : 1 < number
      · rw [if_pos hlater, progress_report]
        exact progress_attempt hattempt
      · rw [if_neg hlater]
        exact progress_attempt hattempt
  | revertFailed hattempt hrevert =>
      rw [progress_report, progress_revert hrevert]
      exact progress_attempt hattempt
  | refreshFailed hattempt hrevert hrefresh =>
      rw [progress_report, progress_refresh hrefresh, progress_revert hrevert]
      exact progress_attempt hattempt
  | exhausted hattempt hrevert hrefresh _ =>
      rw [progress_report]
      exact progress_rolledBack hattempt hrevert hrefresh
  | notRetryable hattempt hrevert hrefresh _ hclassify =>
      rw [progress_report, progress_classify hclassify]
      exact progress_rolledBack hattempt hrevert hrefresh
  | interrupted hattempt hrevert hrefresh _ hclassify hpause =>
      rw [progress_report, progress_pause hpause, progress_report,
        progress_classify hclassify]
      exact progress_rolledBack hattempt hrevert hrefresh

/-- The attempts of a course, the first of them with turn `turn`. -/
def attemptsServed (ending : Ending) :
    Nat → List ActionError → List (Nat × Option ActionError)
  | turn, [] => [(turn, Job.failure? ending.attempted)]
  | turn, error :: errors =>
    (turn, some error) :: attemptsServed ending (turn + 1) errors

theorem attemptsServed_turns (ending : Ending) (turn : Nat)
    (errors : List ActionError) :
    (attemptsServed ending turn errors).map Prod.fst =
      List.range' turn (errors.length + 1) := by
  induction errors generalizing turn with
  | nil => rfl
  | cons error errors ih =>
      rw [attemptsServed, List.map_cons, ih, List.length_cons, ← List.range'_succ]

theorem attemptsServed_ne_nil (ending : Ending) (turn : Nat)
    (errors : List ActionError) :
    attemptsServed ending turn errors ≠ [] := by
  cases errors with
  | nil => exact List.cons_ne_nil _ _
  | cons error errors => exact List.cons_ne_nil _ _

theorem attemptsServed_failures (ending : Ending) (turn : Nat)
    (errors : List ActionError) :
    ∀ attempt ∈ (attemptsServed ending turn errors).dropLast, attempt.2 ≠ none := by
  induction errors generalizing turn with
  | nil =>
      intro attempt hattempt
      cases hattempt
  | cons error errors ih =>
      rw [attemptsServed, List.dropLast_cons_of_ne_nil (attemptsServed_ne_nil _ _ _),
        List.forall_mem_cons]
      exact ⟨Option.some_ne_none error, ih (turn + 1)⟩

theorem Surroundings.Course.progress
    (hcourse : (retry.replicating repository scope subject kind options rotation
      path).Course delay budget number state errors ending final) :
    progress rotation final =
      ((progress rotation state).1 + (errors.length + 1), (progress rotation state).2 ++
        Served.dispatches options
          ⟨path, attemptsServed ending (progress rotation state).1 errors⟩) := by
  induction hcourse with
  | ends hends => exact hends.progress
  | @continues number state next final error errors ending hcontinues hcourse ih =>
      rw [ih, hcontinues.progress, List.append_assoc, List.length_cons]
      congr 1
      omega

/-- What a retried item draws and dispatches. -/
theorem served_apply (retry : Retry) (repository : Repository σ) (scope : Scope)
    (kind : ReplicationKind) (options : RoundRobin ReplicationOptions) (rotation : Nat)
    (path : String) (state : Batch σ) :
    ∃ item : Served, item.path = path ∧ item.Within retry.policy ∧
      item.turns = List.range' (progress rotation state).1 item.attempts.length ∧
      progress rotation
          ((Action.retry retry (.replicate kind (.inTurn options rotation))).apply
            repository scope
            path state).2 =
        ((progress rotation state).1 + item.attempts.length,
          (progress rotation state).2 ++ item.dispatches options) := by
  let span := Span.onItem Operation.retry path
  let opened := (Job.note (.span span scope) state).2
  have hopened : progress rotation opened = progress rotation state :=
    progress_push_of_none rfl rotation state
  obtain ⟨errors, ending, final, hcourse, hlength, houtcome, _⟩ :=
    perform_completes retry repository scope span path
      (fun scope =>
        (Action.replicate kind (.inTurn options rotation)).apply repository scope path)
      state
  have hfinal := hcourse.progress
  rw [hopened] at hfinal
  have hturns := attemptsServed_turns ending (progress rotation state).1 errors
  have hattempts : (attemptsServed ending (progress rotation state).1 errors).length
      = errors.length + 1 := by
    rw [← List.length_map Prod.fst, hturns, List.length_range']
  refine ⟨⟨path, attemptsServed ending (progress rotation state).1 errors⟩,
    rfl, ?_, ?_, ?_⟩
  · exact ⟨attemptsServed_ne_nil _ _ _, hattempts ▸ hlength,
      attemptsServed_failures _ _ _⟩
  · show (attemptsServed ending _ errors).map Prod.fst =
        List.range' _ (attemptsServed _ _ _).length
    rw [hturns, hattempts]
  · show progress rotation (retry.perform repository scope span path _ state).2 = _
    rw [houtcome]
    show progress rotation { final with journal := final.journal.push _ } = _
    rw [progress_push_of_none rfl, hfinal, hattempts]

end Retry

/-! ## A batch -/

namespace Job

open Retry

variable {σ : Type}

/-- The total number of attempts of some items. -/
def attemptsOf (items : List Served) : Nat :=
  (items.map fun item => item.attempts.length).sum

theorem forPaths_cons_snd {α : Type} (settle : Except ActionError α → σ → σ)
    (perform : String → Job σ α) (path : String) (paths : List String)
    (state : Batch σ) :
    (forPaths (fun path => settled settle (perform path)) (path :: paths) state).2 =
      (forPaths (fun path => settled settle (perform path)) paths
        (settled settle (perform path) state).2).2 := by
  have hsettled : settled settle (perform path) state =
      (.ok (perform path state).1, (settled settle (perform path) state).2) := rfl
  rw [forPaths, andThen, hsettled]
  show (andThen _ _ _).2 = _
  unfold andThen
  rcases forPaths (fun path => settled settle (perform path)) paths
    (settled settle (perform path) state).2 with ⟨_ | _, batch⟩
  case error => rfl
  case ok => rfl

/-- What a batch of retried items draws and dispatches, whatever the host does with the
store between two items. -/
theorem served_forPaths (retry : Retry) (repository : Repository σ) (scope : Scope)
    (settle : Except ActionError Unit → σ → σ) (kind : ReplicationKind)
    (options : RoundRobin ReplicationOptions) (rotation : Nat) (paths : List String)
    (state : Batch σ) :
    ∃ items : List Served, items.map Served.path = paths ∧
      (∀ item ∈ items, item.Within retry.policy) ∧
      items.flatMap Served.turns =
        List.range' (progress rotation state).1 (attemptsOf items) ∧
      progress rotation
          (forPaths (fun path => settled settle
            ((Action.retry retry (.replicate kind (.inTurn options rotation))).apply
              repository scope
              path)) paths state).2 =
        ((progress rotation state).1 + attemptsOf items,
          (progress rotation state).2 ++
            items.flatMap (Served.dispatches options)) := by
  induction paths generalizing state with
  | nil =>
      refine ⟨[], rfl, ?_, rfl, ?_⟩
      · intro item hitem
        cases hitem
      · rw [List.flatMap_nil, List.append_nil]
        rfl
  | cons path paths ih =>
      obtain ⟨item, hpath, hwithin, hturns, hprogress⟩ :=
        served_apply retry repository scope kind options rotation path state
      let applied := settled settle
        ((Action.retry retry (.replicate kind (.inTurn options rotation))).apply
          repository scope
          path) state
      have happlied : progress rotation applied.2 =
          ((progress rotation state).1 + item.attempts.length,
            (progress rotation state).2 ++ item.dispatches options) := hprogress
      obtain ⟨items, hpaths, hall, hrest, hlast⟩ := ih applied.2
      rw [happlied] at hrest hlast
      refine ⟨item :: items, ?_, ?_, ?_, ?_⟩
      · rw [List.map_cons, hpath, hpaths]
      · exact List.forall_mem_cons.2 ⟨hwithin, hall⟩
      · rw [List.flatMap_cons, hturns, hrest, List.range'_append_1]
        rfl
      · rw [forPaths_cons_snd, hlast, List.flatMap_cons,
          List.append_assoc, Nat.add_assoc]
        rfl

end Job

/-! ## Fairness -/

namespace Catalog

open Retry

variable {σ : Type}

/-- Activation in turn starts with a rotation of its own. -/
theorem activateAllInTurn_apply (options : RoundRobin ReplicationOptions)
    (batch : Batch σ) :
    activateAllInTurn options.values batch =
      (.ok (.replicate .activate (.inTurn options batch.turns.length)),
        { batch with turns := batch.turns ++ [0] }) := by
  have hoptions : RoundRobin.of? options.values = .ok options := by
    unfold RoundRobin.of?
    rw [dif_pos options.nonempty]
  show (Targets.takingTurns options.values >>= fun targets =>
    pure (Action.replicate .activate targets)) batch = _
  unfold Targets.takingTurns
  rw [hoptions]
  rfl

theorem progress_newRotation (batch : Batch σ) :
    progress batch.turns.length { batch with turns := batch.turns ++ [0] } =
      (0, batch.journal.dispatches) := by
  unfold progress Job.turnOf
  rw [List.getD_eq_getElem?_getD,
    List.getElem?_append_right (Nat.le_refl _), Nat.sub_self]
  rfl

/-- A batch that is activated in turn, with a retry for each item.  All attempts
together take the turns `0, 1, 2, …`, and they are what is dispatched; so there is one
draw for each item if and only if there is a single value to draw or no item is
attempted twice. -/
theorem retried_in_turn (options : RoundRobin ReplicationOptions) (retry : Retry)
    (repository : Repository σ) (scope : Scope)
    (settle : Except ActionError Unit → σ → σ) (paths : List String) (batch : Batch σ) :
    ∃ action opened, activateAllInTurn options.values batch = (.ok action, opened) ∧
      ∃ items : List Served, items.map Served.path = paths ∧
        (∀ item ∈ items, item.Within retry.policy) ∧
        items.flatMap Served.turns = List.range (items.flatMap Served.turns).length ∧
        (Job.forPaths (fun path => Job.settled settle
            ((Action.retry retry action).apply repository scope path)) paths
              opened).2.journal.dispatches =
          batch.journal.dispatches ++ items.flatMap (Served.dispatches options) ∧
        (RoundRobin.OneDrawEach options.size (items.map Served.turns) ↔
          options.size = 1 ∨ ∀ item ∈ items, item.attempts.length = 1) := by
  refine ⟨_, _, activateAllInTurn_apply options batch, ?_⟩
  obtain ⟨items, hpaths, hwithin, hturns, hprogress⟩ :=
    Job.served_forPaths retry repository scope settle .activate options
      batch.turns.length paths
      { batch with turns := batch.turns ++ [0] }
  rw [progress_newRotation] at hturns hprogress
  have hlength : (items.flatMap Served.turns).length = Job.attemptsOf items := by
    rw [hturns, List.length_range']
  have hrange : items.flatMap Served.turns =
      List.range (items.flatMap Served.turns).length := by
    rw [hlength, List.range_eq_range']
    exact hturns
  refine ⟨items, hpaths, hwithin, hrange, congrArg Prod.snd hprogress, ?_⟩
  have hnonempty : ∀ turns ∈ items.map Served.turns, turns ≠ [] := by
    intro turns hmem
    obtain ⟨item, hitem, rfl⟩ := List.mem_map.1 hmem
    exact fun hnil => (hwithin item hitem).attempted (List.map_eq_nil_iff.1 hnil)
  rw [List.flatMap_def] at hrange
  rw [RoundRobin.oneDrawEach_iff options.size_pos hrange hnonempty, List.forall_mem_map]
  refine or_congr_right (forall₂_congr ?_)
  intro item _
  unfold Served.turns
  rw [List.length_map]

open Rehearsal in
/-- One failed dispatch is enough: the second attempt for the first item goes to the
second agent, and the second item to the first agent again. -/
theorem second_attempt_takes_next_turn :
    let world : World :=
      { queues := [(.replicate, [{ error := some (.session "conflict") }])] }
    let retry : Retry := { policy := .standard }
    let publish :=
      activateAllInTurn [.forAgent "publish-1", .forAgent "publish-2"] >>= fun action =>
      Job.forPaths (fun path => Job.settled (fun _ world => world.commit)
        ((Action.retry retry action).apply World.repository none path)) ["/a", "/b"]
    (publish { store := world }).2.journal.dispatches =
        [⟨"/a", some (.forAgent "publish-1"), some (.session "conflict")⟩,
          ⟨"/a", some (.forAgent "publish-2"), none⟩,
          ⟨"/b", some (.forAgent "publish-1"), none⟩] ∧
      ¬ ∀ one ∈ (publish { store := world }).2.journal.dispatches,
        ∀ other ∈ (publish { store := world }).2.journal.dispatches,
          one.path = other.path → one.options = other.options := by
  intro world retry publish
  have hdispatches : (publish { store := world }).2.journal.dispatches =
      [⟨"/a", some (.forAgent "publish-1"), some (.session "conflict")⟩,
        ⟨"/a", some (.forAgent "publish-2"), none⟩,
        ⟨"/b", some (.forAgent "publish-1"), none⟩] := by
    decide +kernel
  refine ⟨hdispatches, ?_⟩
  rw [hdispatches]
  decide

end Catalog

end ContentBatch
