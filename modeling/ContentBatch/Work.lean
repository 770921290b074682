import ContentBatch.Action

/-!
# Work

Work needs no path: it is an action bound to one item, or something that a host does
without an item. Work can be retried as actions can; the span of the retry names the
item if there is one.
-/

namespace ContentBatch

/-- What can be done once. -/
inductive Work (σ : Type) where
  | bound (action : Action σ) (path : String)
  | retry (settings : Retry) (work : Work σ)
  | custom (name : String) (run : Job σ Unit)

namespace Work

variable {σ : Type}

/-- The name of work; bound actions go by their path. -/
def name : Work σ → String
  | bound _ path => path
  | retry _ work => work.name
  | custom name _ => name

/-- The path of the item that work is bound to, if it is bound. -/
def target? : Work σ → Option String
  | bound _ path => some path
  | retry _ work => work.target?
  | custom _ _ => none

/-- The span of a retry of some work. -/
def retrySpan (work : Work σ) : Span :=
  match work.target? with
  | some path => .onItem Operation.retry path
  | none => .onWork Operation.retry work.name

/-- Runs work. -/
def run (repository : Repository σ) (scope : Scope) : Work σ → Job σ Unit
  | bound action path => action.apply repository scope path
  | retry settings work =>
    settings.perform repository scope work.retrySpan work.name fun scope =>
      work.run repository scope
  | custom _ run => run

/-- A bound action as diagnostics show it. -/
def shownBound (action path : String) : String :=
  Text.shownRecord "Bound" [("action", action), ("path", Text.quoted path)]

end Work

end ContentBatch
