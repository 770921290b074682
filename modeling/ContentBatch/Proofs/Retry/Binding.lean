import ContentBatch.Catalog
import ContentBatch.Held

/-!
# Binding and retrying commute

An action may be bound to an item and then retried, or retried and then bound.  A retry
of work takes its span and its subject from the work, a retry of an action takes both
from the path that it is applied to; for bound work these are the same, since a binding,
and every retry and holder around it, goes by its path.

So what a stack of layers does depends on its retries and their order alone: not on the
place of the binding among them, and not on holders.

Work is *alike* if its runs cannot be told apart, on any batch: the result, the store,
the turns of rotations and the journal, with its calls, spans and events, are the same.

## Main result

* `HeldWork.bound_and_retried`: stacks of layers around a binding, holders, and what the
  catalog binds.
-/

namespace ContentBatch

variable {σ : Type}

/-! ## Alike -/

/-- Actions that cannot be told apart. -/
structure HeldAction.Alike (first second : HeldAction σ) : Prop where
  apply_eq : ∀ repository scope path batch,
    first.apply repository scope path batch = second.apply repository scope path batch
  name_eq : first.name = second.name

/-- Work that cannot be told apart. -/
structure HeldWork.Alike (first second : HeldWork σ) : Prop where
  run_eq : ∀ repository scope batch,
      first.run repository scope batch = second.run repository scope batch
  name_eq : first.name = second.name
  target_eq : first.target? = second.target?

namespace HeldAction

variable {first second third : HeldAction σ}

theorem Alike.rfl : first.Alike first :=
  ⟨fun _ _ _ _ => Eq.refl _, Eq.refl _⟩

theorem Alike.trans (h : first.Alike second)
    (hThird : second.Alike third) : first.Alike third :=
  ⟨fun repository scope path batch =>
    (h.apply_eq repository scope path batch).trans
      (hThird.apply_eq repository scope path batch),
    h.name_eq.trans hThird.name_eq⟩

/-- Applying is a function of the repository, the scope and the path. -/
theorem Alike.apply (h : first.Alike second) (repository : Repository σ) (scope : Scope)
    (path : String) :
    first.apply repository scope path = second.apply repository scope path :=
  funext fun batch => h.apply_eq repository scope path batch

theorem alike_held (holder : Holder) (action : HeldAction σ) :
    (held holder action).Alike action :=
  ⟨fun _ _ _ _ => Eq.refl _, Eq.refl _⟩

theorem Alike.retry (h : first.Alike second) (settings : Retry) :
    (HeldAction.retry settings first).Alike (HeldAction.retry settings second) := by
  refine ⟨fun repository scope path batch => ?_, h.name_eq⟩
  have hAttempt : (fun scope => first.apply repository scope path) =
      fun scope => second.apply repository scope path :=
    funext fun scope => h.apply repository scope path
  rw [HeldAction.apply, HeldAction.apply, hAttempt]

theorem Alike.withAllRenditions (h : first.Alike second) (filters : List (Filter σ)) :
    (HeldAction.withAllRenditions first filters).Alike
      (HeldAction.withAllRenditions second filters) := by
  refine ⟨fun repository scope path batch => ?_, Eq.refl _⟩
  have hFanOut : (fun scope =>
      Action.fanOut repository scope filters (first.apply repository scope path) path) =
      fun scope => Action.fanOut repository scope filters
        (second.apply repository scope path) path :=
    funext fun scope => by rw [h.apply repository scope path]
  rw [HeldAction.apply, HeldAction.apply, hFanOut]

end HeldAction

namespace HeldWork

variable {first second third : HeldWork σ}

theorem Alike.rfl : first.Alike first :=
  ⟨fun _ _ _ => Eq.refl _, Eq.refl _, Eq.refl _⟩

theorem Alike.trans (h : first.Alike second)
    (hThird : second.Alike third) : first.Alike third :=
  ⟨fun repository scope batch =>
    (h.run_eq repository scope batch).trans (hThird.run_eq repository scope batch),
    h.name_eq.trans hThird.name_eq, h.target_eq.trans hThird.target_eq⟩

theorem alike_held (holder : Holder) (work : HeldWork σ) :
    (held holder work).Alike work :=
  ⟨fun _ _ _ => Eq.refl _, Eq.refl _, Eq.refl _⟩

theorem Alike.held (h : first.Alike second) (holder : Holder) :
    (HeldWork.held holder first).Alike (HeldWork.held holder second) :=
  ⟨h.run_eq, h.name_eq, h.target_eq⟩

/-- A retry looks at the name and the target of what it retries, and these are the
same. -/
theorem Alike.retry (h : first.Alike second) (settings : Retry) :
    (HeldWork.retry settings first).Alike (HeldWork.retry settings second) := by
  refine ⟨fun repository scope batch => ?_, h.name_eq, h.target_eq⟩
  have hAttempt : (fun scope => first.run repository scope) = fun scope =>
      second.run repository scope :=
    funext fun scope => funext fun batch => h.run_eq repository scope batch
  have hSpan : first.retrySpan = second.retrySpan := by
    rw [retrySpan, retrySpan, h.name_eq, h.target_eq]
  rw [HeldWork.run, HeldWork.run, hAttempt, hSpan, h.name_eq]

theorem alike_bound {action other : HeldAction σ} (h : action.Alike other)
    (path : String) :
    (bound action path).Alike (bound other path) :=
  ⟨fun repository scope batch => h.apply_eq repository scope path batch,
    Eq.refl _, Eq.refl _⟩

theorem alike_bound_held (holder : Holder) (action : HeldAction σ) (path : String) :
    (bound action path).Alike (bound (.held holder action) path) :=
  ⟨fun _ _ _ => Eq.refl _, Eq.refl _, Eq.refl _⟩

/-- The span and the subject of a retry of bound work are those of a retry of the action
at its path. -/
theorem alike_retry_bound (settings : Retry) (action : HeldAction σ) (path : String) :
    (retry settings (bound action path)).Alike (bound (.retry settings action) path) :=
  ⟨fun _ _ _ => Eq.refl _, Eq.refl _, Eq.refl _⟩

end HeldWork

/-! ## Layers -/

/-- What may be put around actions and work. -/
inductive Layer where
  | held (holder : Holder)
  | retry (settings : Retry)

namespace Layer

/-- A layer around an action. -/
def onAction : Layer → HeldAction σ → HeldAction σ
  | held holder, action => .held holder action
  | retry settings, action => .retry settings action

/-- A layer around work. -/
def onWork : Layer → HeldWork σ → HeldWork σ
  | held holder, work => .held holder work
  | retry settings, work => .retry settings work

/-- Whether a layer is a retry. -/
def isRetry : Layer → Bool
  | held _ => false
  | retry _ => true

end Layer

/-- Layers around an action, the outermost first. -/
def HeldAction.wrap (layers : List Layer) (action : HeldAction σ) : HeldAction σ :=
  layers.foldr Layer.onAction action

/-- Layers around work, the outermost first. -/
def HeldWork.wrap (layers : List Layer) (work : HeldWork σ) : HeldWork σ :=
  layers.foldr Layer.onWork work

namespace HeldAction

theorem wrap_cons (layer : Layer) (layers : List Layer) (action : HeldAction σ) :
    wrap (layer :: layers) action = layer.onAction (wrap layers action) := rfl

theorem wrap_append (outer inner : List Layer) (action : HeldAction σ) :
    wrap (outer ++ inner) action = wrap outer (wrap inner action) :=
  List.foldr_append

/-- Of the layers around an action only the retries count. -/
theorem alike_wrap_retries (layers : List Layer) (action : HeldAction σ) :
    (wrap layers action).Alike (wrap (layers.filter Layer.isRetry) action) := by
  induction layers with
  | nil => exact .rfl
  | cons layer layers ih =>
      rw [List.filter_cons, wrap_cons]
      cases layer with
      | held holder => exact (alike_held holder _).trans ih
      | retry settings => exact ih.retry settings

end HeldAction

namespace HeldWork

theorem wrap_cons (layer : Layer) (layers : List Layer) (work : HeldWork σ) :
    wrap (layer :: layers) work = layer.onWork (wrap layers work) := rfl

theorem Alike.wrap {first second : HeldWork σ} (h : first.Alike second)
    (layers : List Layer) :
    (HeldWork.wrap layers first).Alike (HeldWork.wrap layers second) := by
  induction layers with
  | nil => exact h
  | cons layer layers ih =>
      rw [wrap_cons, wrap_cons]
      cases layer with
      | held holder => exact ih.held holder
      | retry settings => exact ih.retry settings

/-- Layers around a binding are as good as layers within it. -/
theorem alike_wrap_bound (layers : List Layer) (action : HeldAction σ) (path : String) :
    (wrap layers (bound action path)).Alike
      (bound (HeldAction.wrap layers action) path) := by
  induction layers with
  | nil => exact .rfl
  | cons layer layers ih =>
      rw [wrap_cons, HeldAction.wrap_cons]
      cases layer with
      | held holder =>
        exact ((alike_held holder _).trans ih).trans (alike_bound_held holder _ path)
      | retry settings =>
        exact (ih.retry settings).trans (alike_retry_bound settings _ path)

/-- A stack around and within a binding is its retries, in their order, and then the
binding. -/
theorem alike_stack (outer inner : List Layer) (action : HeldAction σ) (path : String) :
    (wrap outer (bound (HeldAction.wrap inner action) path)).Alike
      (bound
        (HeldAction.wrap ((outer ++ inner).filter Layer.isRetry) action) path) := by
  have hBound := alike_wrap_bound outer (HeldAction.wrap inner action) path
  rw [← HeldAction.wrap_append] at hBound
  exact hBound.trans
    (alike_bound (HeldAction.alike_wrap_retries (outer ++ inner) action) path)

end HeldWork

/-! ## Without holders -/

/-- An action without its holders. -/
def HeldAction.bare : HeldAction σ → Action σ
  | plain action => action
  | withAllRenditions action filters => .withAllRenditions action.bare filters
  | retry settings action => .retry settings action.bare
  | held _ action => action.bare

/-- Work without its holders. -/
def HeldWork.bare : HeldWork σ → Work σ
  | plain work => work
  | bound action path => .bound action.bare path
  | retry settings work => .retry settings work.bare
  | held _ work => work.bare

theorem HeldAction.alike_withAllRenditions_plain (action : Action σ)
    (filters : List (Filter σ)) :
    (withAllRenditions (plain action) filters).Alike
      (plain (.withAllRenditions action filters)) :=
  ⟨fun _ _ _ _ => Eq.refl _, Eq.refl _⟩

theorem HeldAction.alike_retry_plain (settings : Retry) (action : Action σ) :
    (retry settings (plain action)).Alike (plain (.retry settings action)) :=
  ⟨fun _ _ _ _ => Eq.refl _, Eq.refl _⟩

/-- Holders within an action change nothing. -/
theorem HeldAction.alike_bare (action : HeldAction σ) :
    action.Alike (plain action.bare) := by
  induction action with
  | plain action => exact .rfl
  | withAllRenditions action filters ih =>
      exact (ih.withAllRenditions filters).trans
        (alike_withAllRenditions_plain action.bare filters)
  | retry settings action ih =>
    exact (ih.retry settings).trans (alike_retry_plain settings action.bare)
  | held holder action ih => exact (alike_held holder action).trans ih

theorem HeldWork.alike_bound_plain (action : Action σ) (path : String) :
    (bound (.plain action) path).Alike (plain (.bound action path)) :=
  ⟨fun _ _ _ => Eq.refl _, Eq.refl _, Eq.refl _⟩

theorem HeldWork.alike_retry_plain (settings : Retry) (work : Work σ) :
    (retry settings (plain work)).Alike (plain (.retry settings work)) :=
  ⟨fun _ _ _ => Eq.refl _, Eq.refl _, Eq.refl _⟩

/-- Holders within work change nothing. -/
theorem HeldWork.alike_bare (work : HeldWork σ) : work.Alike (plain work.bare) := by
  induction work with
  | plain work => exact .rfl
  | bound action path =>
    exact (alike_bound action.alike_bare path).trans
      (alike_bound_plain action.bare path)
  | retry settings work ih =>
    exact (ih.retry settings).trans (alike_retry_plain settings work.bare)
  | held holder work ih => exact (alike_held holder work).trans ih

/-! ## What the catalog binds -/

namespace Catalog

/-- What the catalog does with a single item. -/
inductive Single where
  | activate
  | activateWith (options : ReplicationOptions)
  | deactivate
  | deactivateWith (options : ReplicationOptions)
  | removeRenditions
  | removeRenditionsNamed (name : String)
  | startWorkflow (model : WorkflowModel)

namespace Single

/-- The work on the item at a path. -/
def work (path : String) : Single → Work σ
  | activate => Catalog.activate path
  | activateWith options => Catalog.activateWith path options
  | deactivate => Catalog.deactivate path
  | deactivateWith options => Catalog.deactivateWith path options
  | removeRenditions => Catalog.removeRenditions path
  | removeRenditionsNamed name => Catalog.removeRenditionsNamed path name
  | startWorkflow model => Catalog.startWorkflow model path

/-- The same for every item. -/
def action : Single → Action σ
  | activate => activateAll
  | activateWith options => activateAllWith options
  | deactivate => deactivateAll
  | deactivateWith options => deactivateAllWith options
  | removeRenditions => removeAllRenditions
  | removeRenditionsNamed name => removeAllRenditionsNamed name
  | startWorkflow model => startWorkflows model

/-- What is done with a single item is what is done with every item, bound to it. -/
theorem work_eq_bound (single : Single) (path : String) :
    (single.work path : Work σ) = .bound single.action path := by
  cases single <;> rfl

theorem alike_bound (single : Single) (path : String) :
    (HeldWork.plain (single.work path : Work σ)).Alike
      (.bound (.plain single.action) path) := by
  rw [work_eq_bound]
  exact ⟨fun _ _ _ => Eq.refl _, Eq.refl _, Eq.refl _⟩

theorem alike_retry (single : Single) (policy : RetryPolicy) (path : String) :
    (HeldWork.plain (retry policy (single.work path) : Work σ)).Alike
      (.bound (.plain (retryAll policy single.action)) path) := by
  rw [work_eq_bound]
  exact ⟨fun _ _ _ => Eq.refl _, Eq.refl _, Eq.refl _⟩

end Single

end Catalog

/-! ## Both arities -/

namespace HeldWork

/-- Whatever is put around a binding goes by its path. -/
theorem name_wrap_bound (layers : List Layer) (action : HeldAction σ) (path : String) :
    (wrap layers (bound action path)).name = path :=
  (alike_wrap_bound layers action path).name_eq

theorem target?_wrap_bound (layers : List Layer) (action : HeldAction σ)
    (path : String) :
    (wrap layers (bound action path)).target? = some path :=
  (alike_wrap_bound layers action path).target_eq

theorem retrySpan_wrap_bound (layers : List Layer) (action : HeldAction σ)
    (path : String) :
    (wrap layers (bound action path)).retrySpan = .onItem Operation.retry path := by
  rw [retrySpan, target?_wrap_bound]

/-- Binding and then retrying is retrying and then binding, under any layers, and both
go by the path.  A stack of layers around and within a binding is its retries in their
order.  Holders within actions and work change nothing, and what the catalog does with a
single item is what it does with every item, bound to it. -/
theorem bound_and_retried :
    (∀ (layers : List Layer) (settings : Retry) (action : HeldAction σ) (path : String),
      let boundFirst := wrap layers (retry settings (bound action path))
      let retriedFirst := wrap layers (bound (.retry settings action) path)
      boundFirst.Alike retriedFirst ∧ boundFirst.name = path ∧
      boundFirst.target? = some path ∧
        retriedFirst.name = path ∧ retriedFirst.target? = some path ∧
        boundFirst.retrySpan = .onItem Operation.retry path ∧
        retriedFirst.retrySpan = .onItem Operation.retry path) ∧
    (∀ (outer inner : List Layer) (action : HeldAction σ) (path : String),
      (wrap outer (bound (HeldAction.wrap inner action) path)).Alike
        (bound (HeldAction.wrap ((outer ++ inner).filter Layer.isRetry) action) path)) ∧
    (∀ action : HeldAction σ, action.Alike (.plain action.bare)) ∧
    (∀ work : HeldWork σ, work.Alike (plain work.bare)) ∧
    ∀ (single : Catalog.Single) (path : String) (policy : RetryPolicy)
      (catalog : Catalog),
      (plain (single.work path : Work σ)).Alike (bound (.plain single.action) path) ∧
      (plain (Catalog.retry policy (single.work path) : Work σ)).Alike
        (bound (.plain (Catalog.retryAll policy single.action)) path) ∧
      (plain (catalog.retryByDefault (single.work path) : Work σ)).Alike
        (bound (.plain (catalog.retryAllByDefault single.action)) path) := by
  refine ⟨?commute, alike_stack, HeldAction.alike_bare, alike_bare, ?catalog⟩
  case commute =>
    intro layers settings action path
    have hAlike : (wrap layers (retry settings (bound action path))).Alike
        (wrap layers (bound (.retry settings action) path)) :=
      (alike_retry_bound settings action path).wrap layers
    have hName := name_wrap_bound layers (.retry settings action) path
    have hTarget := target?_wrap_bound layers (.retry settings action) path
    have hSpan := retrySpan_wrap_bound (layers ++ [.retry settings]) action path
    refine ⟨hAlike, hAlike.name_eq.trans hName, hAlike.target_eq.trans hTarget,
      hName, hTarget, ?_, retrySpan_wrap_bound layers (.retry settings action) path⟩
    rw [wrap, List.foldr_append] at hSpan
    exact hSpan
  case catalog =>
    intro single path policy catalog
    exact ⟨single.alike_bound path, single.alike_retry policy path,
      single.alike_retry catalog.policy path⟩

end HeldWork

end ContentBatch
