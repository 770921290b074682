import ContentBatch.Journal.Event

/-!
# Attempts

How something is tried again and again, whatever it is. The `Surroundings` say what an
attempt is, how to roll back after it, how to judge its error and how to wait for a
delay. They work on states `τ` that nothing is known of. Attempts are numbered from one.

After a failed attempt the order is always the same: roll back, look at the budget, ask
the classifier, wait. The first of these that ends the run decides its result.
-/

namespace ContentBatch.Retry

/-- What attempts are made of. -/
structure Surroundings (τ : Type) where
  attempt : Nat → τ → Except ActionError Unit × τ
  revert : τ → Except ActionError Unit × τ
  refresh : τ → Except ActionError Unit × τ
  classify : ActionError → Nat → τ → Decision × τ
  classifierName : String
  pause : Millis → τ → Bool × τ
  report : Report → τ → τ

namespace Surroundings

variable {τ : Type}

/-- Reverts and, if that succeeds, refreshes. -/
def rollBack (surroundings : Surroundings τ) (state : τ) :
    Except ActionError Unit × τ :=
  match surroundings.revert state with
  | (.ok (), state) => surroundings.refresh state
  | (.error error, state) => (.error error, state)

/-- Attempt number `attempts` and, as long as attempts fail and up to `spare` times,
further ones, with a delay before each of them. -/
def attemptsFrom (surroundings : Surroundings τ) (delay : Millis) (spare attempts : Nat)
    (state : τ) :
    Except ActionError Unit × τ :=
  match surroundings.attempt attempts state with
  | (.ok (), state) =>
    (.ok (), if 1 < attempts then
      surroundings.report (.succeeded attempts) state else state)
  | (.error error, state) =>
    match surroundings.rollBack state with
    | (.error rollbackError, state) =>
      (.error rollbackError,
        surroundings.report (.rollbackFailed attempts error rollbackError) state)
    | (.ok (), state) =>
      match spare with
      | 0 => (.error error, surroundings.report (.exhausted attempts error) state)
      | spare + 1 =>
        match surroundings.classify error attempts state with
        | (.abort, state) =>
          (.error error,
            surroundings.report
              (.notRetryable attempts surroundings.classifierName error) state)
        | (.retry, state) =>
          match surroundings.pause delay
            (surroundings.report (.failed (spare + 1) error) state) with
          | (true, state) => surroundings.attemptsFrom delay spare (attempts + 1) state
          | (false, state) =>
            (.error (.interrupted attempts),
              surroundings.report (.interrupted attempts) state)

/-- All attempts that a policy allows. -/
def run (surroundings : Surroundings τ) (policy : RetryPolicy) (state : τ) :
    Except ActionError Unit × τ :=
  surroundings.attemptsFrom policy.delay (policy.maxAttempts.toNat - 1) 1 state

end Surroundings

end ContentBatch.Retry
