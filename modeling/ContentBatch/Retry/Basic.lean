import ContentBatch.Batch.Basic
import ContentBatch.Retry.Attempts

/-!
# Retry on a batch

A retry is a policy, a classifier and perhaps a token that cancels its waits. It tries a
job again and again within a span of its own, and rolls the session back after every
attempt that failed.
-/

namespace ContentBatch

/-- How to try again. -/
structure Retry where
  policy : RetryPolicy
  classifier : Classifier := .retryAll
  token : Option Token := none

namespace Retry

variable {σ : Type}

/-- Waits for a delay. Without a token nothing can end the wait early. -/
def wait (retry : Retry) (repository : Repository σ) (delay : Millis)
    (store : σ) : Bool × σ :=
  match retry.token with
  | some token => repository.sleepUnless token delay store
  | none => (true, repository.sleep delay store)

/-- Does a job as the attempt of a number. -/
def asAttempt (number : Nat) (job : Job σ Unit) : Job σ Unit := do
  Job.note (.attempt number)
  job.thenNote fun result => .attempted number (Job.failure? result)

/-- The surroundings of a job: attempts are runs of the job, the repository rolls back
and waits, and everything is noted in the journal. -/
def surroundings (retry : Retry) (repository : Repository σ) (scope : Scope)
    (subject : String) (job : Job σ Unit) : Surroundings (Batch σ) where
  attempt number := asAttempt number job
  revert := Job.ask repository .revert
  refresh := Job.ask repository .refresh
  classify error attempt batch :=
    (retry.classifier.classify error attempt,
      { batch with
        journal := batch.journal.push (.decision retry.classifier error attempt) })
  classifierName := retry.classifier.name
  pause delay batch :=
    match retry.wait repository delay batch.store with
    | (completed, store) =>
      (completed, { batch with
        store, journal := batch.journal.push (.pause delay retry.token completed) })
  report report batch :=
    { batch with journal := batch.journal.push (.event (.retry subject report) scope) }

/-- Tries a job within a span. -/
def perform (retry : Retry) (repository : Repository σ) (scope : Scope) (span : Span)
    (subject : String) (job : Scope → Job σ Unit) : Job σ Unit :=
  Job.within scope span fun scope =>
    Job.thenNote
      ((retry.surroundings repository scope subject (job scope)).run retry.policy)
      fun result => .retried (Job.failure? result)

/-- The settings of a retry as diagnostics show them. -/
def shown (retry : Retry) : String :=
  Text.shownRecord "RetrySettings"
    [("policy", retry.policy.shown), ("classifier", Text.quoted retry.classifier.name),
      ("cancellable", Text.shownBool retry.token.isSome)]

/-- A retried action as diagnostics show it. -/
def shownAction (retry : Retry) (action : String) : String :=
  Text.shownRecord "RetryableAction" [("action", action), ("settings", retry.shown)]

/-- Retried work as diagnostics show it. -/
def shownWork (retry : Retry) (work : String) : String :=
  Text.shownRecord "RetryableWork" [("work", work), ("settings", retry.shown)]

end Retry

end ContentBatch
