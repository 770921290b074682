import ContentBatch.Proofs.Retry.Course
import ContentBatch.Work

/-!
# Every retry completes

The course of a retry, brought from surroundings to actions and work.  A retried action
or piece of work opens its span, goes through its course, and notes the result.

The number of attempts is at most the budget of the policy.  Which of the six endings is
met first decides the result: the error that is handed on is that of the last attempt,
unmodified, unless the rollback or the wait failed.

## Main results

* `perform_completes`: every retry completes, whatever the job does and however the
  session answers.
* `retried_actions_and_work_complete`: the same for actions and for work.
-/

namespace ContentBatch.Retry

variable {σ : Type} {retry : Retry} {repository : Repository σ} {scope : Scope}
  {subject : String} {job : Job σ Unit} {number : Nat} {state final : Batch σ}
  {errors : List ActionError} {ending : Ending}

/-- The run of a retry within its span, from the batch on which the span was opened to
its outcome: there are failed attempts with `errors` and then a last one,
`errors.length + 1` in all and within the budget. The ending of the last attempt is the
result, and the calls that the retry makes are those of the rounds and of the ending. -/
def Completes (retry : Retry) (repository : Repository σ) (scope : Scope)
    (subject : String) (job : Job σ Unit) (opened : Batch σ)
    (outcome : Except ActionError Unit × Batch σ) : Prop :=
  ∃ errors ending final,
    (retry.surroundings repository scope subject job).Course retry.policy.delay
        retry.policy.maxAttempts.toNat 1 opened errors ending final ∧
      errors.length + 1 ≤ retry.policy.maxAttempts.toNat ∧
      outcome = (ending.result (errors.length + 1),
        (Job.note
          (.retried (Job.failure? (ending.result (errors.length + 1)))) final).2) ∧
      (retry.surroundings repository scope subject job).recorded.run
        retry.policy ([], opened) =
        (ending.result (errors.length + 1),
          rounds retry.policy.delay 1 errors ++
            ending.steps retry.policy.delay (errors.length + 1), final) ∧
      (retry.token = none → ∀ error, ending ≠ .interrupted error)

/-- What a retry calls are the job and the repository: an attempt is a run of the job
between two notes, a rollback calls the repository, the classifier judges the error, and
the wait is that of the retry. -/
theorem surroundings_calls (retry : Retry) (repository : Repository σ) (scope : Scope)
    (subject : String) (job : Job σ Unit) :
    let surroundings := retry.surroundings repository scope subject job
    (∀ number batch, surroundings.attempt number batch =
      Job.thenNote job (fun result => .attempted number (Job.failure? result))
        (Job.note (.attempt number) batch).2) ∧
      surroundings.revert = Job.ask repository .revert ∧
      surroundings.refresh = Job.ask repository .refresh ∧
      (∀ error number batch,
        (surroundings.classify error number batch).1 =
          retry.classifier.classify error number) ∧
      ∀ delay batch, (surroundings.pause delay batch).1 =
        (retry.wait repository delay batch.store).1 ∧
        (surroundings.pause delay batch).2.store =
          (retry.wait repository delay batch.store).2 :=
  ⟨fun _ _ => rfl, rfl, rfl, fun _ _ _ => rfl, fun _ _ => ⟨rfl, rfl⟩⟩

/-- A wait that no token can end is completed. -/
theorem pause_without_token (htoken : retry.token = none) (delay : Millis)
    (batch : Batch σ) :
    ((retry.surroundings repository scope subject job).pause delay batch).1 = true := by
  obtain ⟨-, -, -, -, hpause⟩ := retry.surroundings_calls repository scope subject job
  rw [(hpause delay batch).1, wait, htoken]

/-- Without a token no run is interrupted. -/
theorem Surroundings.Course.not_interrupted {delay : Millis} {budget : Nat}
    (hcourse : (retry.surroundings repository scope subject job).Course delay budget
      number state errors ending final) (htoken : retry.token = none)
    (error : ActionError) : ending ≠ .interrupted error := by
  induction hcourse with
  | ends hends =>
      rintro rfl
      cases hends with
      | interrupted _ _ _ _ _ hpause =>
          have hcompleted := congrArg Prod.fst hpause
          rw [pause_without_token htoken] at hcompleted
          cases hcompleted
  | continues _ _ ih => exact ih

/-- A retry opens its span, makes its attempts, and notes how they came out. -/
theorem perform_apply (retry : Retry) (repository : Repository σ) (scope : Scope)
    (span : Span) (subject : String) (job : Scope → Job σ Unit) (batch : Batch σ) :
    retry.perform repository scope span subject job batch =
      Job.thenNote
        ((retry.surroundings repository (some span) subject
          (job (some span))).run retry.policy)
        (fun result => .retried (Job.failure? result))
          (Job.note (.span span scope) batch).2 := rfl

/-- Every retry completes, whatever its job does and however the session answers. -/
theorem perform_completes (retry : Retry) (repository : Repository σ) (scope : Scope)
    (span : Span) (subject : String) (job : Scope → Job σ Unit) (batch : Batch σ) :
    retry.Completes repository (some span) subject (job (some span))
      (Job.note (.span span scope) batch).2
      (retry.perform repository scope span subject job batch) := by
  let surroundings :=
    retry.surroundings repository (some span) subject (job (some span))
  let opened := (Job.note (.span span scope) batch).2
  obtain ⟨errors, ending, final, hcourse, hlength⟩ :=
    surroundings.exists_course retry.policy.delay opened retry.policy.one_le_maxAttempts
  have hrecorded : surroundings.recorded.run retry.policy ([], opened) =
      (ending.result (errors.length + 1),
        rounds retry.policy.delay 1 errors ++
          ending.steps retry.policy.delay (errors.length + 1),
        final) := by
    rw [(hcourse.recorded []).run_eq, Nat.add_comm 1, List.nil_append]
  refine ⟨errors, ending, final, hcourse, by omega, ?_, hrecorded,
    hcourse.not_interrupted⟩
  rw [perform_apply]
  show Job.thenNote (surroundings.run retry.policy) _ opened = _
  unfold Job.thenNote
  rw [hcourse.run_eq]
  rfl

/-- Every retried action and every retried piece of work completes, on every item, in
every repository and from every batch. -/
theorem retried_actions_and_work_complete (retry : Retry) (repository : Repository σ)
    (scope : Scope) (batch : Batch σ) :
    (∀ (action : Action σ) (path : String),
      let span := Span.onItem Operation.retry path
      retry.Completes repository (some span) path
        (action.apply repository (some span) path)
        (Job.note (.span span scope) batch).2
        ((Action.retry retry action).apply repository scope path batch)) ∧
    ∀ work : Work σ,
      let span := work.retrySpan
      retry.Completes repository (some span) work.name (work.run repository (some span))
        (Job.note (.span span scope) batch).2
        ((Work.retry retry work).run repository scope batch) := by
  constructor
  · intro action path
    exact perform_completes retry repository scope (.onItem Operation.retry path) path
      (fun scope => action.apply repository scope path) batch
  · intro work
    exact perform_completes retry repository scope work.retrySpan work.name
      (fun scope => work.run repository scope) batch

end ContentBatch.Retry
