import ContentBatch.Work

/-!
# Held actions and work

A host passes actions and work around behind a holder, which is their only owner or one
of several that share them.  Holders may stand anywhere: around a retry, within one,
around the action of a fan-out, around a holder.

A holder has no behaviour of its own.  Everything that it is asked for it passes on: the
application of an action and its name; the run of work, its name and the item it is
bound to.
-/

namespace ContentBatch

/-- Actions with holders in them. -/
inductive HeldAction (σ : Type) where
  | plain (action : Action σ)
  | withAllRenditions (action : HeldAction σ) (filters : List (Filter σ))
  | retry (settings : Retry) (action : HeldAction σ)
  | held (holder : Holder) (action : HeldAction σ)

namespace HeldAction

variable {σ : Type}

/-- The name of an action. -/
def name : HeldAction σ → String
  | plain action => action.name
  | withAllRenditions _ _ => Operation.withAllRenditions
  | retry _ action => action.name
  | held _ action => action.name

/-- Applies an action to the item at a path. -/
def apply (repository : Repository σ) (scope : Scope) :
    HeldAction σ → String → Job σ Unit
  | plain action, path => action.apply repository scope path
  | withAllRenditions action filters, path =>
    Job.within scope (.onItem Operation.withAllRenditions path) fun scope =>
      Action.fanOut repository scope filters (action.apply repository scope path) path
  | retry settings action, path =>
    settings.perform repository scope (.onItem Operation.retry path) path fun scope =>
      action.apply repository scope path
  | held _ action, path => action.apply repository scope path

end HeldAction

/-- Work with holders in it. -/
inductive HeldWork (σ : Type) where
  | plain (work : Work σ)
  | bound (action : HeldAction σ) (path : String)
  | retry (settings : Retry) (work : HeldWork σ)
  | held (holder : Holder) (work : HeldWork σ)

namespace HeldWork

variable {σ : Type}

/-- The name of work; bound actions go by their path. -/
def name : HeldWork σ → String
  | plain work => work.name
  | bound _ path => path
  | retry _ work => work.name
  | held _ work => work.name

/-- The path of the item that work is bound to, if it is bound. -/
def target? : HeldWork σ → Option String
  | plain work => work.target?
  | bound _ path => some path
  | retry _ work => work.target?
  | held _ work => work.target?

/-- The span of a retry of some work. -/
def retrySpan (work : HeldWork σ) : Span :=
  match work.target? with
  | some path => .onItem Operation.retry path
  | none => .onWork Operation.retry work.name

/-- Runs work. -/
def run (repository : Repository σ) (scope : Scope) : HeldWork σ → Job σ Unit
  | plain work => work.run repository scope
  | bound action path => action.apply repository scope path
  | retry settings work =>
    settings.perform repository scope work.retrySpan work.name fun scope =>
      work.run repository scope
  | held _ work => work.run repository scope

end HeldWork

end ContentBatch
