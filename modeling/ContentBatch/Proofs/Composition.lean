import ContentBatch.Work

/-!
# What passes from the parts to the whole

Filters, actions and work are trees, and what holds of their steps often holds of the
whole tree for the same reason: one step is done after the other.  The induction over
the tree is done here, once.

A property of jobs is `Inherited` if single steps have it and it is passed on when steps
are strung together. Then whatever is built from such steps has it, up to the closures
of a host and the retries, of which it has to be known.

Most often the property is that a job `Respects` a relation between the batch before it
and the batch after it.  It is inherited if the relation is `Composable`, that is, if it
can be strung together and if events, spans, draws and some of the calls respect it.

## Main results

* `Filter.inherits`, `Filter.acceptsAll_inherits`: filters have what single steps and
  `resolve` have.
* `Action.inherits_of_workflow`, `Work.inherits_of_workflow`: actions and work have what
  single steps and all calls but the rollback and the execution of workflows have, if
  the workflow as a whole, retries and closures do.
* `Action.inherits`, `Work.inherits`: the same with the execution of workflows among the
  calls.
* `Filter.respects`, `Filter.acceptsAll_respects`, `Action.respects`, `Work.respects`:
  the same for relations.
-/

namespace ContentBatch

/-- Whether an operation needs an asset at its path. -/
def Operation.needsAsset (operation : String) : Bool :=
  operation == removeRenditions || operation == withAllRenditions

/-- Whether a call executes a workflow. -/
def Call.executes : Call → Bool
  | execute _ _ _ _ => true
  | _ => false

namespace Job

variable {σ α β : Type}

/-- A property that jobs have if they are strung together from jobs that have it, and
that the steps without an answer to wait for and the calls in `allowed` have.  An
operation that needs an asset has it if what is done with the asset has it. -/
structure Inherited (repository : Repository σ) (allowed : Call → Prop)
    (P : (α : Type) → Job σ α → Prop) : Prop where
  pure : ∀ {α : Type} (value : α), P α (Pure.pure value)
  bind : ∀ {α β : Type} {first : Job σ α} {next : α → Job σ β},
    P α first → (∀ value, P β (next value)) → P β (first >>= next)
  emit : ∀ scope event, P Unit (Job.emit scope event)
  draw : ∀ rotation, P Nat (Job.draw rotation)
  call : ∀ call, allowed call → P call.Answer (ask repository call)
  within :
      ∀ {α : Type} {scope : Scope} {operation path : String} {steps : Scope → Job σ α},
    Operation.needsAsset operation = false →
    P α (steps (some (.onItem operation path))) →
      P α (Job.within scope (.onItem operation path) steps)
  withinAsset :
      ∀ {scope : Scope} {operation path : String} {rest : Scope → Asset → Job σ Unit},
    Operation.needsAsset operation = true →
      (∀ asset, P Unit (rest (some (.onItem operation path)) asset)) →
        P Unit (Job.within scope (.onItem operation path) fun scope =>
          Action.resolveAsset repository path >>= rest scope)

/-- Whether it succeeds or fails, the job leaves a batch that is related to the one it
was given. -/
def Respects (R : Batch σ → Batch σ → Prop) (job : Job σ α) : Prop :=
  ∀ batch, R batch (job batch).2

/-- Steps can be strung together without leaving the relation, and the steps without an
answer to wait for and the calls in `allowed` do not leave it either. -/
structure Composable (repository : Repository σ) (allowed : Call → Prop)
    (R : Batch σ → Batch σ → Prop) : Prop where
  refl : ∀ batch, R batch batch
  trans : ∀ first second third, R first second → R second third → R first third
  span : ∀ span scope, (note (.span span scope)).Respects R
  event : ∀ event scope, (note (.event event scope)).Respects R
  draw : ∀ rotation, (draw rotation).Respects R
  call : ∀ call, allowed call → (ask repository call).Respects R

namespace Composable

variable {repository : Repository σ} {allowed : Call → Prop}
  {R : Batch σ → Batch σ → Prop}

theorem pure (hR : Composable repository allowed R) (value : α) :
    (Pure.pure value : Job σ α).Respects R :=
  hR.refl

theorem fail (hR : Composable repository allowed R) (error : ActionError) :
    (Job.fail error : Job σ α).Respects R :=
  hR.refl

theorem emit (hR : Composable repository allowed R) (scope : Scope) (event : Event) :
    (Job.emit scope event : Job σ Unit).Respects R :=
  hR.event event scope

theorem bind (hR : Composable repository allowed R) {first : Job σ α}
    {next : α → Job σ β} (hfirst : first.Respects R)
    (hnext : ∀ value, (next value).Respects R) :
    (first >>= next).Respects R := by
  intro batch
  have hmiddle := hfirst batch
  rw [bind_apply]
  rcases hresult : first batch with ⟨error | value, middle⟩
  case error =>
    rw [hresult] at hmiddle
    exact hmiddle
  case ok =>
    rw [hresult] at hmiddle
    exact hR.trans _ _ _ hmiddle (hnext value middle)

theorem within (hR : Composable repository allowed R) {scope : Scope} {span : Span}
    {steps : Scope → Job σ α} (hsteps : (steps (some span)).Respects R) :
    (Job.within scope span steps).Respects R :=
  hR.bind (hR.span span scope) fun _ => hsteps

/-- To respect a composable relation is inherited. -/
theorem inherited (hR : Composable repository allowed R)
    (hresolve : ∀ path, allowed (.resolve path)) :
    Inherited repository allowed fun _ job => job.Respects R where
  pure := hR.pure
  bind := hR.bind
  emit := hR.emit
  draw := hR.draw
  call := hR.call
  within _ := hR.within
  withinAsset _ hrest := by
    refine hR.within (hR.bind (hR.bind (hR.call _ (hresolve _)) ?_) hrest)
    intro found
    cases found with
    | none => exact hR.fail _
    | some asset => exact hR.pure asset

end Composable

end Job

/-! ## Filters -/

namespace Filter

variable {σ : Type} {repository : Repository σ} {allowed : Call → Prop}
  {R : Batch σ → Batch σ → Prop}

/-- Something holds of all closures in a filter. -/
def Closures (P : (α : Type) → Job σ α → Prop) : Filter σ → Prop
  | negation filter => filter.Closures P
  | andThen first second => first.Closures P ∧ second.Closures P
  | held _ filter => filter.Closures P
  | custom _ accepts => ∀ path, P Bool (accepts path)
  | _ => True

theorem Closures.mono {P Q : (α : Type) → Job σ α → Prop}
    (h : ∀ α job, P α job → Q α job) {filter : Filter σ}
    (hfilter : filter.Closures P) : filter.Closures Q := by
  induction filter with
  | negation filter ih => exact ih hfilter
  | andThen first second ihfirst ihsecond =>
    exact ⟨ihfirst hfilter.1, ihsecond hfilter.2⟩
  | held holder filter ih => exact ih hfilter
  | custom name accepts => exact fun path => h _ _ (hfilter path)
  | _ => trivial

section Inherits

variable {P : (α : Type) → Job σ α → Prop} (hP : Job.Inherited repository allowed P)
  (hresolve : ∀ path, allowed (.resolve path))

include hP hresolve

/-- A filter has what its calls have, if its closures do. -/
theorem inherits (scope : Scope) (filter : Filter σ) (hclosures : filter.Closures P)
    (path : String) :
    P Bool (filter.accepts repository scope path) := by
  induction filter with
  | pathMatches pattern => exact hP.pure _
  | isAsset =>
      refine hP.bind (hP.within rfl (hP.call _ (hresolve path))) ?_
      intro asset
      exact hP.pure _
  | hasOutdatedRenditions =>
      have hfreshness (scope : Scope) : P _ (freshnessAt repository scope path) := by
        refine hP.bind (hP.call _ (hresolve path)) ?_
        intro asset
        exact hP.bind (hP.emit _ _) (fun _ => hP.pure _)
      exact hP.bind (hP.within rfl (hfreshness _)) (fun freshness => hP.pure _)
  | negation filter ih =>
      exact hP.bind (ih hclosures) (fun accepted => hP.pure _)
  | andThen first second ihfirst ihsecond =>
      refine hP.bind (ihfirst hclosures.1) ?_
      intro accepted
      cases accepted with
      | true => exact ihsecond hclosures.2
      | false => exact hP.pure _
  | held holder filter ih => exact ih hclosures
  | custom name accepts => exact hclosures path

/-- A list of filters has what its members have. -/
theorem acceptsAll_inherits (scope : Scope) (filters : List (Filter σ))
    (hclosures : ∀ filter ∈ filters, filter.Closures P) (path : String) :
    P Bool (acceptsAll repository scope filters path) := by
  induction filters with
  | nil => exact hP.pure _
  | cons filter filters ih =>
      rw [List.forall_mem_cons] at hclosures
      refine hP.bind (filter.inherits hP hresolve scope hclosures.1 path) ?_
      intro accepted
      cases accepted with
      | true => exact ih hclosures.2
      | false => exact hP.pure _

end Inherits

theorem respects (hR : Job.Composable repository allowed R)
    (hresolve : ∀ path, allowed (.resolve path)) (scope : Scope) (filter : Filter σ)
    (hclosures : filter.Closures fun _ job => job.Respects R) (path : String) :
    (filter.accepts repository scope path).Respects R :=
  filter.inherits (hR.inherited hresolve) hresolve scope hclosures path

theorem acceptsAll_respects (hR : Job.Composable repository allowed R)
    (hresolve : ∀ path, allowed (.resolve path)) (scope : Scope)
    (filters : List (Filter σ))
    (hclosures : ∀ filter ∈ filters, filter.Closures fun _ job => job.Respects R)
    (path : String) :
    (acceptsAll repository scope filters path).Respects R :=
  acceptsAll_inherits (hR.inherited hresolve) hresolve scope filters hclosures path

end Filter

/-! ## Actions -/

namespace Action

variable {σ : Type} {repository : Repository σ} {R : Batch σ → Batch σ → Prop}

/-- Something holds of all closures in an action and in its filters. -/
def Closures (P : (α : Type) → Job σ α → Prop) : Action σ → Prop
  | withAllRenditions action filters =>
    action.Closures P ∧ ∀ filter ∈ filters, filter.Closures P
  | retry _ action => action.Closures P
  | custom _ apply => ∀ path, P Unit (apply path)
  | _ => True

theorem Closures.mono {P Q : (α : Type) → Job σ α → Prop}
    (h : ∀ α job, P α job → Q α job) {action : Action σ}
    (haction : action.Closures P) : action.Closures Q := by
  induction action with
  | withAllRenditions action filters ih =>
      exact ⟨ih haction.1, fun filter hfilter => (haction.2 filter hfilter).mono h⟩
  | retry settings action ih => exact ih haction
  | custom name apply => exact fun path => h _ _ (haction path)
  | _ => trivial

/-- There is no retry in an action. -/
def RetryFree : Action σ → Prop
  | withAllRenditions action _ => action.RetryFree
  | retry _ _ => False
  | _ => True

/-- The model of the workflow that an action comes down to, if it is one. -/
def workflow? : Action σ → Option WorkflowModel
  | withAllRenditions action _ => action.workflow?
  | startWorkflow model => some model
  | retry _ action => action.workflow?
  | _ => none

section Steps

variable {P : (α : Type) → Job σ α → Prop} {allowed : Call → Prop}
  (hP : Job.Inherited repository allowed P)
  (hallowed : ∀ call : Call, call.rollsBack = false →
    call.executes = false → allowed call)

include hP

theorem next_inherits (targets : Targets) : P _ (targets.next : Job σ _) := by
  cases targets with
  | platform => exact hP.pure _
  | fixed options => exact hP.pure _
  | inTurn options rotation => exact hP.bind (hP.draw rotation) (fun turn => hP.pure _)

include hallowed

theorem replicateItem_inherits (scope : Scope) (kind : ReplicationKind)
    (targets : Targets) (path : String) :
    P Unit (replicateItem repository scope kind targets path) := by
  refine hP.bind (next_inherits hP targets) ?_
  intro options
  exact hP.bind (hP.call _ (hallowed (.replicate kind path options) rfl rfl))
    (fun _ => hP.emit _ _)

theorem removeSelected_inherits (selector : Selector) (assetPath : String)
    (renditions : List Rendition) (removed : Nat) :
    P Nat (removeSelected repository selector assetPath renditions removed) := by
  induction renditions generalizing removed with
  | nil => exact hP.pure _
  | cons rendition renditions ih =>
      unfold removeSelected
      by_cases hselected : selector.selects rendition = true
      · rw [if_pos hselected]
        have hremove :=
          hP.call _ (hallowed (.removeRendition assetPath rendition.name) rfl rfl)
        exact hP.bind hremove (fun _ => ih (removed + 1))
      · rw [if_neg hselected]
        exact ih removed

theorem forRenditions_inherits (scope : Scope) (filters : List (Filter σ))
    (hfilters : ∀ filter ∈ filters, filter.Closures P) {invoke : Job σ Unit}
    (hinvoke : P Unit invoke) (renditions : List Rendition) (invoked : Nat) :
    P Nat (forRenditions repository scope filters invoke renditions invoked) := by
  induction renditions generalizing invoked with
  | nil => exact hP.pure _
  | cons rendition renditions ih =>
      have hresolve (path : String) : allowed (.resolve path) := hallowed _ rfl rfl
      refine hP.bind
        (Filter.acceptsAll_inherits hP hresolve scope filters hfilters rendition.path)
          ?_
      intro accepted
      cases accepted with
      | true => exact hP.bind hinvoke (fun _ => ih (invoked + 1))
      | false => exact ih invoked

/-- An action has what its calls have, if its closures do, its workflow does as a whole,
and its retries as far as there are any. -/
theorem inherits_of_workflow (action : Action σ) (path : String)
    (hclosures : action.Closures P)
    (hworkflow : ∀ model, action.workflow? = some model → ∀ scope,
      P Unit (Job.within scope (.onItem Operation.startWorkflow path) fun scope =>
        runWorkflow repository scope model path))
    (hretries : action.RetryFree ∨
      ∀ (retry : Retry) scope span subject (job : Scope → Job σ Unit),
        P Unit (job (some span)) →
        P Unit (retry.perform repository scope span subject job))
    (scope : Scope) : P Unit (action.apply repository scope path) := by
  induction action generalizing scope with
  | replicate kind targets =>
      have hkind : Operation.needsAsset kind.name = false := by cases kind <;> rfl
      exact hP.within hkind (replicateItem_inherits hP hallowed _ kind targets path)
  | removeRenditions selector =>
      refine hP.withinAsset rfl ?_
      intro asset
      exact hP.bind (removeSelected_inherits hP hallowed selector _ _ _)
        (fun removed => hP.emit _ _)
  | withAllRenditions action filters ih =>
      refine hP.withinAsset rfl ?_
      intro asset
      refine hP.bind ?_ (fun invoked => hP.emit _ _)
      exact forRenditions_inherits hP hallowed _ filters hclosures.2
        (ih hclosures.1 hworkflow hretries _)
        asset.renditions 0
  | startWorkflow model => exact hworkflow model rfl scope
  | retry settings action ih =>
      rcases hretries with hfree | hretries
      · exact hfree.elim
      · exact hretries settings _ _ _ _ (ih hclosures hworkflow (.inr hretries) _)
  | custom name apply => exact hclosures path

end Steps

section Inherits

variable {P : (α : Type) → Job σ α → Prop}
  (hP : Job.Inherited repository (fun call => call.rollsBack = false) P)

include hP

theorem runWorkflow_inherits (scope : Scope) (model : WorkflowModel) (path : String) :
    P Unit (runWorkflow repository scope model path) := by
  refine hP.bind (hP.call (.setUserData workflowMarker) rfl) ?_
  intro _
  exact hP.bind (hP.call (.execute path model false false) rfl) (fun _ => hP.emit _ _)

/-- An action has what its calls have, if its closures do, and its retries as far as
there are any. -/
theorem inherits (action : Action σ) (hclosures : action.Closures P)
    (hretries : action.RetryFree ∨
      ∀ (retry : Retry) scope span subject (job : Scope → Job σ Unit),
        P Unit (job (some span)) →
        P Unit (retry.perform repository scope span subject job))
    (scope : Scope) (path : String) : P Unit (action.apply repository scope path) :=
  action.inherits_of_workflow hP (fun _ hcall _ => hcall) path hclosures
    (fun model _ _ =>
      hP.within rfl (runWorkflow_inherits hP _ model path)) hretries scope

end Inherits

/-- An action respects what its calls respect, if its closures do, and its retries as
far as there are any. -/
theorem respects (hR : Job.Composable repository (fun call => call.rollsBack = false) R)
    (action : Action σ) (hclosures : action.Closures fun _ job => job.Respects R)
    (hretries : action.RetryFree ∨
      ∀ (retry : Retry) scope span subject (job : Scope → Job σ Unit),
        (job (some span)).Respects R →
        (retry.perform repository scope span subject job).Respects R)
    (scope : Scope) (path : String) : (action.apply repository scope path).Respects R :=
  action.inherits (hR.inherited fun _ => rfl) hclosures hretries scope path

end Action

/-! ## Work -/

namespace Work

variable {σ : Type} {repository : Repository σ} {R : Batch σ → Batch σ → Prop}

/-- Something holds of all closures in a piece of work. -/
def Closures (P : (α : Type) → Job σ α → Prop) : Work σ → Prop
  | bound action _ => action.Closures P
  | retry _ work => work.Closures P
  | custom _ run => P Unit run

theorem Closures.mono {P Q : (α : Type) → Job σ α → Prop}
    (h : ∀ α job, P α job → Q α job) {work : Work σ}
    (hwork : work.Closures P) : work.Closures Q := by
  induction work with
  | bound action path => exact Action.Closures.mono h hwork
  | retry settings work ih => exact ih hwork
  | custom name run => exact h _ _ hwork

/-- The path and the model of the workflow that a piece of work comes down to, if it is
one. -/
def workflow? : Work σ → Option (String × WorkflowModel)
  | bound action path => action.workflow?.map (path, ·)
  | retry _ work => work.workflow?
  | custom _ _ => none

/-- Work has what its calls have, if its closures and its retries do, and its workflow
as a whole. -/
theorem inherits_of_workflow {P : (α : Type) → Job σ α → Prop} {allowed : Call → Prop}
    (hP : Job.Inherited repository allowed P)
    (hallowed : ∀ call : Call, call.rollsBack = false →
      call.executes = false → allowed call) (work : Work σ)
    (hclosures : work.Closures P)
    (hworkflow : ∀ path model, work.workflow? = some (path, model) → ∀ scope,
      P Unit (Job.within scope (.onItem Operation.startWorkflow path) fun scope =>
        Action.runWorkflow repository scope model path))
    (hretries : ∀ (retry : Retry) scope span subject (job : Scope → Job σ Unit),
      P Unit (job (some span)) →
      P Unit (retry.perform repository scope span subject job))
    (scope : Scope) : P Unit (work.run repository scope) := by
  induction work generalizing scope with
  | bound action path =>
      exact action.inherits_of_workflow hP hallowed path hclosures
        (fun model hmodel => hworkflow path model
          (congrArg (Option.map (path, ·)) hmodel)) (.inr hretries) scope
  | retry settings work ih => exact hretries settings _ _ _ _ (ih hclosures hworkflow _)
  | custom name run => exact hclosures

/-- Work has what its calls have, if its closures and its retries do. -/
theorem inherits {P : (α : Type) → Job σ α → Prop}
    (hP : Job.Inherited repository (fun call => call.rollsBack = false) P)
    (work : Work σ) (hclosures : work.Closures P)
    (hretries : ∀ (retry : Retry) scope span subject (job : Scope → Job σ Unit), P Unit
      (job (some span)) → P Unit (retry.perform repository scope span subject job))
    (scope : Scope) : P Unit (work.run repository scope) :=
  work.inherits_of_workflow hP (fun _ hcall _ => hcall) hclosures
    (fun path model _ _ =>
      hP.within rfl (Action.runWorkflow_inherits hP _ model path)) hretries scope

/-- Work respects what its calls respect, if its closures and its retries do. -/
theorem respects (hR : Job.Composable repository (fun call => call.rollsBack = false) R)
    (work : Work σ) (hclosures : work.Closures fun _ job => job.Respects R)
    (hretries : ∀ (retry : Retry) scope span subject (job : Scope → Job σ Unit),
      (job (some span)).Respects R →
        (retry.perform repository scope span subject job).Respects R)
    (scope : Scope) : (work.run repository scope).Respects R :=
  work.inherits (hR.inherited fun _ => rfl) hclosures hretries scope

end Work

end ContentBatch
