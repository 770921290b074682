import ContentBatch.Error

/-!
# Which errors to retry

A classifier looks at the error of a failed attempt and at the number of that attempt,
counted from one, and decides whether to go on.
-/

namespace ContentBatch

/-- Whether to go on after a failed attempt. -/
inductive Decision where
  | retry
  | abort
  deriving DecidableEq, Repr

namespace Decision

/-- The written name of a decision. -/
def name : Decision → String
  | retry => "retry"
  | abort => "abort"

end Decision

/-- A rule for going on. -/
inductive Classifier where
  | retryAll
  | skipPermanentErrors
  | custom (name : String) (decide : ActionError → Nat → Decision)

namespace Classifier

/-- The name that diagnostics give to the rule. -/
def name : Classifier → String
  | retryAll => "retry_all"
  | skipPermanentErrors => "skip_permanent_errors"
  | custom name _ => name

/-- The decision after an attempt that ended with an error. -/
def classify : Classifier → ActionError → Nat → Decision
  | retryAll, _, _ => .retry
  | skipPermanentErrors, error, _ => if error.isPermanent then .abort else .retry
  | custom _ decide, error, attempt => decide error attempt

/-- Whether the rule was given by the host, so that asking it is a call of the host. -/
def isCustom : Classifier → Bool
  | custom _ _ => true
  | _ => false

/-- The rule that gives up on errors with one of some codes, and on every error from
some attempt on. -/
def abortingOn (name : String) (codes : List String)
    (fromAttempt : Option Nat) : Classifier :=
  .custom name fun error attempt =>
    if codes.contains error.code || fromAttempt.any (· ≤ attempt) then .abort
    else .retry

end Classifier

end ContentBatch
