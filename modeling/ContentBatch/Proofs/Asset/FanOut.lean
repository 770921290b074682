import ContentBatch.Action
import Mathlib.Logic.Function.Basic

/-!
# Fan-outs in order

A fan-out takes one snapshot of the renditions of an asset.  Then it goes from rendition
to rendition, and for each of them from filter to filter, while the action that it
applies in between may change the very asset that it goes through, and with it the
answers of the filters that come later.

Renditions and filters go by their numbers.  When the verdicts of the filters are given,
`course` tells what is to be done, without running anything: a filter is asked about a
rendition if all filters before it accept, and the action is applied for a rendition if
all filters accept.  The verdicts are those that the filters give when they are asked.

* `Tour` strings steps together: each of them finds the batch as the one before has left
  it.
* `Follows` says that steps are those of a plan, to its end or up to one that fails
  instead.

## Main results

* `FanOut.carriesOut_course`: what is done for the renditions of a snapshot.
* `Action.withAllRenditions_in_order`: all that a fan-out does, and what it comes to.
-/

namespace ContentBatch

/-- A fan-out through the renditions of a snapshot, with its filters and with the action
for the item at the path. -/
structure FanOut (σ : Type) where
  repository : Repository σ
  scope : Scope
  filters : List (Filter σ)
  action : Action σ
  path : String
  renditions : List Rendition

variable {σ : Type}

namespace FanOut

/-! ## Steps and plans -/

/-- What is asked about a rendition or done for it, with what came of it. -/
inductive Step where
  | asked (rendition filter : Nat) (verdict : Except ActionError Bool)
  | applied (rendition : Nat) (result : Except ActionError Unit)

namespace Step

/-- A step that fails in the place of another one. -/
def failing (error : ActionError) : Step → Step
  | asked rendition filter _ => asked rendition filter (.error error)
  | applied rendition _ => applied rendition (.error error)

/-- Whether a step applies the action. -/
def applies : Step → Bool
  | asked _ _ _ => false
  | applied _ _ => true

end Step

/-- Whether all filters below a number accept. -/
def passes (verdict : Nat → Bool) (filters : Nat) : Bool :=
  (List.range filters).all verdict

/-- A filter that says what its verdict is. -/
def answered (verdict : Nat → Bool) (rendition filter : Nat) : Step :=
  .asked rendition filter (.ok (verdict filter))

/-- What is to be asked about a rendition: each filter, if all filters before it
accept. -/
def questions (verdict : Nat → Bool) (filters rendition : Nat) : List Step :=
  ((List.range filters).filter (passes verdict)).map (answered verdict rendition)

/-- What is to be done for a rendition: the action is applied, if all filters accept. -/
def visit (verdict : Nat → Bool) (filters rendition : Nat) : List Step :=
  questions verdict filters rendition ++
    if passes verdict filters then [.applied rendition (.ok ())] else []

/-- What is to be done for all renditions, one after another. -/
def course (verdicts : Nat → Nat → Bool) (filters renditions : Nat) : List Step :=
  (List.range renditions).flatMap fun rendition =>
    visit (verdicts rendition) filters rendition

/-- How many renditions all filters accept. -/
def passing (verdicts : Nat → Nat → Bool) (filters renditions : Nat) : Nat :=
  (List.range renditions).countP fun rendition => passes (verdicts rendition) filters

/-- Steps that follow a plan: to its end, or up to a step that fails instead of what was
planned. -/
inductive Follows (plan : List Step) : List Step → Option ActionError → Prop where
  | completed : Follows plan plan none
  | stopped (past : List Step) (next : Step) (rest : List Step) (error : ActionError) :
      plan = past ++ next :: rest →
      Follows plan (past ++ [next.failing error]) (some error)

/-- Steps are made one after another: a filter is asked about the path of a rendition,
and the action is applied to the item. -/
inductive Tour (fanOut : FanOut σ) : Batch σ → List Step → Batch σ → Prop where
  | nil {batch : Batch σ} : Tour fanOut batch [] batch
  | asked {before middle after : Batch σ} {number place : Nat} {rendition : Rendition}
      {filter : Filter σ} {verdict : Except ActionError Bool} {steps : List Step} :
      fanOut.renditions[number]? = some rendition →
      fanOut.filters[place]? = some filter →
      filter.accepts fanOut.repository fanOut.scope rendition.path before =
        (verdict, middle) →
      Tour fanOut middle steps after →
      Tour fanOut before (.asked number place verdict :: steps) after
  | applied {before middle after : Batch σ} {number : Nat} {rendition : Rendition}
      {result : Except ActionError Unit} {steps : List Step} :
      fanOut.renditions[number]? = some rendition →
      fanOut.action.apply fanOut.repository fanOut.scope fanOut.path before =
        (result, middle) →
      Tour fanOut middle steps after →
      Tour fanOut before (.applied number result :: steps) after

/-- A plan is carried out: to its end, or up to a step that fails. -/
def CarriesOut (fanOut : FanOut σ) (plan : List Step) (before : Batch σ)
    (failure : Option ActionError) (after : Batch σ) : Prop :=
  ∃ steps, fanOut.Tour before steps after ∧ Follows plan steps failure

variable {fanOut : FanOut σ} {verdict other : Nat → Bool}
  {verdicts others : Nat → Nat → Bool} {plan next steps more : List Step}
  {failure : Option ActionError} {error : ActionError} {before middle after : Batch σ}

/-! ## Plans, one more filter or rendition at a time -/

theorem passes_succ (verdict : Nat → Bool) (filters : Nat) :
    passes verdict (filters + 1) = (passes verdict filters && verdict filters) := by
  rw [passes, List.range_succ, List.all_append, List.all_cons,
    List.all_nil, Bool.and_true]
  rfl

theorem questions_succ (verdict : Nat → Bool) (filters rendition : Nat) :
    questions verdict (filters + 1) rendition =
      questions verdict filters rendition ++
        if passes verdict filters then
          [answered verdict rendition filters] else [] := by
  rw [questions, List.range_succ, List.filter_append, List.map_append, List.filter_cons,
    List.filter_nil]
  by_cases hpasses : passes verdict filters = true
  · rw [if_pos hpasses, if_pos hpasses]
    rfl
  · rw [if_neg hpasses, if_neg hpasses]
    rfl

theorem course_succ (verdicts : Nat → Nat → Bool) (filters renditions : Nat) :
    course verdicts filters (renditions + 1) =
      course verdicts filters renditions ++
        visit (verdicts renditions) filters renditions := by
  rw [course, List.range_succ, List.flatMap_append, List.flatMap_singleton]
  rfl

theorem passing_succ (verdicts : Nat → Nat → Bool) (filters renditions : Nat) :
    passing verdicts filters (renditions + 1) =
      passing verdicts filters renditions +
        if passes (verdicts renditions) filters then 1 else 0 := by
  rw [passing, List.range_succ, List.countP_append, List.countP_singleton]
  rfl

/-- Only the verdicts of the filters below the number matter. -/
theorem passes_congr {filters : Nat}
    (h : ∀ filter < filters, verdict filter = other filter) :
    passes verdict filters = passes other filters := by
  induction filters with
  | zero => rfl
  | succ filters ih =>
      rw [passes_succ, passes_succ,
        ih fun filter hfilter => h filter (Nat.lt_succ_of_lt hfilter),
        h filters (Nat.lt_succ_self filters)]

theorem questions_congr {filters : Nat}
    (h : ∀ filter < filters, verdict filter = other filter) (rendition : Nat) :
    questions verdict filters rendition = questions other filters rendition := by
  induction filters with
  | zero => rfl
  | succ filters ih =>
      have hbelow : ∀ filter < filters, verdict filter = other filter :=
        fun filter hfilter => h filter (Nat.lt_succ_of_lt hfilter)
      rw [questions_succ, questions_succ, ih hbelow, passes_congr hbelow,
        answered, answered, h filters (Nat.lt_succ_self filters)]

/-- Only the verdicts about the renditions below the number matter. -/
theorem course_congr {renditions : Nat}
    (h : ∀ rendition < renditions, verdicts rendition = others rendition)
    (filters : Nat) :
    course verdicts filters renditions = course others filters renditions := by
  induction renditions with
  | zero => rfl
  | succ renditions ih =>
      rw [course_succ, course_succ, h renditions (Nat.lt_succ_self renditions),
        ih fun rendition hrendition => h rendition (Nat.lt_succ_of_lt hrendition)]

theorem passing_congr {renditions : Nat}
    (h : ∀ rendition < renditions, verdicts rendition = others rendition)
    (filters : Nat) :
    passing verdicts filters renditions = passing others filters renditions := by
  induction renditions with
  | zero => rfl
  | succ renditions ih =>
      rw [passing_succ, passing_succ, h renditions (Nat.lt_succ_self renditions),
        ih fun rendition hrendition => h rendition (Nat.lt_succ_of_lt hrendition)]

theorem update_below {β : Type} (values : Nat → β) (number : Nat) (value : β) :
    ∀ lower < number, values lower = Function.update values number value lower :=
  fun _ hlower => (Function.update_of_ne (Nat.ne_of_lt hlower) value values).symm

theorem countP_questions (verdict : Nat → Bool) (filters rendition : Nat) :
    (questions verdict filters rendition).countP Step.applies = 0 := by
  rw [questions, List.countP_map]
  exact List.countP_eq_zero.2 fun _ _ => Bool.false_ne_true

/-- The action is applied as often as there are renditions that all filters accept. -/
theorem countP_course (verdicts : Nat → Nat → Bool) (filters renditions : Nat) :
    (course verdicts filters renditions).countP Step.applies =
      passing verdicts filters renditions := by
  induction renditions with
  | zero => rfl
  | succ renditions ih =>
      rw [course_succ, passing_succ, List.countP_append, ih, visit, List.countP_append,
        countP_questions, Nat.zero_add]
      by_cases hpasses : passes (verdicts renditions) filters = true
      · rw [if_pos hpasses, if_pos hpasses]
        rfl
      · rw [if_neg hpasses, if_neg hpasses]
        rfl

/-- The second filter rejects the first rendition. -/
example : course (fun rendition filter => decide (filter ≤ rendition)) 2 2 =
    [.asked 0 0 (.ok true), .asked 0 1 (.ok false),
      .asked 1 0 (.ok true), .asked 1 1 (.ok true), .applied 1 (.ok ())] := by rfl

/-! ## Following a plan -/

namespace Follows

/-- What comes after a plan makes no difference if a step of it failed. -/
theorem stop (h : Follows plan steps (some error)) (next : List Step) :
    Follows (plan ++ next) steps (some error) := by
  cases h with
  | stopped past step rest _ hplan =>
      refine .stopped past step (rest ++ next) error ?_
      rw [hplan, List.append_assoc, List.cons_append]

theorem append (h : Follows plan steps none) (hnext : Follows next more failure) :
    Follows (plan ++ next) (steps ++ more) failure := by
  cases h
  cases hnext with
  | completed => exact .completed
  | stopped past step rest error hnext =>
      rw [← List.append_assoc]
      refine .stopped (plan ++ past) step rest error ?_
      rw [hnext, List.append_assoc]

/-- A question that is answered as planned, or has no answer. -/
theorem question (verdict : Nat → Bool) (rendition filter : Nat)
    (result : Except ActionError Bool) :
    ∃ truth, (∀ accepted, result = .ok accepted → truth = accepted) ∧
      Follows [answered (Function.update verdict filter truth) rendition filter]
        [.asked rendition filter result] (Job.failure? result) := by
  cases result with
  | ok accepted =>
      refine ⟨accepted, fun _ h => Except.ok.inj h, ?_⟩
      rw [answered, Function.update_self]
      exact .completed
  | error error =>
    exact ⟨false, nofun, .stopped [] (answered _ rendition filter) [] error rfl⟩

/-- An application that succeeds as planned, or fails. -/
theorem application (rendition : Nat) (result : Except ActionError Unit) :
    Follows [.applied rendition (.ok ())] [.applied rendition result]
      (Job.failure? result) := by
  cases result with
  | ok value => exact .completed
  | error error => exact .stopped [] (.applied rendition (.ok ())) [] error rfl

end Follows

theorem Tour.append (hsteps : fanOut.Tour before steps middle)
    (hmore : fanOut.Tour middle more after) :
    fanOut.Tour before (steps ++ more) after := by
  induction hsteps with
  | nil => exact hmore
  | asked hrendition hfilter hasked _ ih =>
    exact .asked hrendition hfilter hasked (ih hmore)
  | applied hrendition happlied _ ih => exact .applied hrendition happlied (ih hmore)

namespace CarriesOut

theorem stop (h : fanOut.CarriesOut plan before (some error) after) (next : List Step) :
    fanOut.CarriesOut (plan ++ next) before (some error) after := by
  obtain ⟨steps, htour, hfollows⟩ := h
  exact ⟨steps, htour, hfollows.stop next⟩

theorem append (h : fanOut.CarriesOut plan before none middle)
    (hnext : fanOut.CarriesOut next middle failure after) :
    fanOut.CarriesOut (plan ++ next) before failure after := by
  obtain ⟨steps, htour, hfollows⟩ := h
  obtain ⟨more, hmore, hcontinues⟩ := hnext
  exact ⟨steps ++ more, htour.append hmore, hfollows.append hcontinues⟩

theorem nil (batch : Batch σ) : fanOut.CarriesOut [] batch none batch :=
  ⟨[], .nil, .completed⟩

end CarriesOut

end FanOut

/-! ## One more filter or rendition -/

theorem Filter.acceptsAll_concat (repository : Repository σ) (scope : Scope)
    (filters : List (Filter σ)) (filter : Filter σ) (path : String) (batch : Batch σ) :
    acceptsAll repository scope (filters ++ [filter]) path batch =
      match acceptsAll repository scope filters path batch with
      | (.ok true, batch) => filter.accepts repository scope path batch
      | outcome => outcome := by
  induction filters generalizing batch with
  | nil =>
      show acceptsAll repository scope [filter] path batch =
          filter.accepts repository scope path batch
      rw [acceptsAll, Job.bind_apply]
      rcases filter.accepts repository scope path batch with ⟨_ | _ | _, _⟩ <;> rfl
  | cons first filters ih =>
      rw [List.cons_append, acceptsAll, acceptsAll, Job.bind_apply, Job.bind_apply]
      rcases first.accepts repository scope path batch with ⟨_ | _ | _, middle⟩
      · rfl
      · rfl
      · exact ih middle

namespace Action

/-- Asks the filters about one rendition, and does something if they all accept. -/
def forRendition (repository : Repository σ) (scope : Scope) (filters : List (Filter σ))
    (invoke : Job σ Unit) (rendition : Rendition) (invoked : Nat) : Job σ Nat := do
  if ← Filter.acceptsAll repository scope filters rendition.path then
    invoke
    return invoked + 1
  else return invoked

theorem forRenditions_concat (repository : Repository σ) (scope : Scope)
    (filters : List (Filter σ)) (invoke : Job σ Unit) (renditions : List Rendition)
    (rendition : Rendition) (invoked : Nat) (batch : Batch σ) :
    forRenditions repository scope filters invoke
      (renditions ++ [rendition]) invoked batch =
      (forRenditions repository scope filters invoke renditions invoked >>=
        forRendition repository scope filters invoke rendition) batch := by
  induction renditions generalizing invoked batch with
  | nil =>
      show forRenditions repository scope filters invoke [rendition] invoked batch =
        forRendition repository scope filters invoke rendition invoked batch
      rw [forRenditions, forRendition, Job.bind_apply, Job.bind_apply]
      rcases Filter.acceptsAll repository scope filters rendition.path batch with
          ⟨_ | _ | _, _⟩ <;> rfl
  | cons first renditions ih =>
      rw [List.cons_append, forRenditions, forRenditions, Job.bind_apply,
        Job.bind_apply, Job.bind_apply]
      rcases Filter.acceptsAll repository scope filters first.path batch with
          ⟨_ | _ | _, passed⟩
      · rfl
      · exact ih invoked passed
      · -- the first rendition is done with, or the application for it failed
        show (invoke >>= fun _ => _) passed = _
        simp only [if_true, Job.bind_apply]
        rcases invoke passed with ⟨_ | _, applied⟩
        · rfl
        · exact ih (invoked + 1) applied

end Action

namespace FanOut

variable {fanOut : FanOut σ} {before after : Batch σ} {number count : Nat}
  {rendition : Rendition}

/-- The filters are asked about a rendition until one does not accept or has no
answer. -/
theorem carriesOut_questions (hrendition : fanOut.renditions[number]? = some rendition)
    (hcount : count ≤ fanOut.filters.length) {result : Except ActionError Bool}
    (hrun : Filter.acceptsAll fanOut.repository fanOut.scope
      (fanOut.filters.take count) rendition.path before = (result, after)) :
    ∃ verdict, fanOut.CarriesOut (questions verdict count number) before
      (Job.failure? result) after ∧
      ∀ accepted, result = .ok accepted → accepted = passes verdict count := by
  induction count generalizing after result with
  | zero =>
      obtain ⟨rfl, rfl⟩ := Prod.mk.inj hrun
      exact ⟨fun _ => true, .nil before, fun _ h => (Except.ok.inj h).symm⟩
  | succ count ih =>
      have hfilter : fanOut.filters[count]? = some fanOut.filters[count] :=
        List.getElem?_eq_getElem hcount
      rw [← List.take_append_getElem hcount, Filter.acceptsAll_concat] at hrun
      rcases hfirst :
          Filter.acceptsAll fanOut.repository fanOut.scope (fanOut.filters.take count)
        rendition.path before with ⟨first, middle⟩
      obtain ⟨verdict, hcarries, hpasses⟩ := ih (Nat.le_of_succ_le hcount) hfirst
      rw [hfirst] at hrun
      rcases first with error | _ | _
      case error =>
        obtain ⟨rfl, rfl⟩ := Prod.mk.inj hrun
        refine ⟨verdict, ?_, nofun⟩
        rw [questions_succ]
        exact hcarries.stop _
      case ok.false =>
        have hrejected := (hpasses false rfl).symm
        obtain ⟨rfl, rfl⟩ := Prod.mk.inj hrun
        refine ⟨verdict, ?_, ?_⟩
        · rw [questions_succ, hrejected, if_neg Bool.false_ne_true, List.append_nil]
          exact hcarries
        · intro accepted haccepted
          rw [passes_succ, hrejected, Bool.false_and]
          exact (Except.ok.inj haccepted).symm
      case ok.true =>
        have haccepted := (hpasses true rfl).symm
        obtain ⟨truth, htruth, hquestion⟩ :=
          Follows.question verdict number count result
        have hbelow := update_below verdict count truth
        refine ⟨Function.update verdict count truth, ?_, ?_⟩
        · rw [questions_succ, ← questions_congr hbelow, ← passes_congr hbelow,
            haccepted, if_pos rfl]
          exact hcarries.append ⟨_, .asked hrendition hfilter hrun .nil, hquestion⟩
        · intro accepted hresult
          rw [passes_succ, ← passes_congr hbelow, haccepted, Bool.true_and,
            Function.update_self]
          exact (htruth accepted hresult).symm

/-- What is done for one rendition. -/
theorem carriesOut_visit (hrendition : fanOut.renditions[number]? = some rendition)
    {invoked : Nat} {result : Except ActionError Nat}
    (hrun : Action.forRendition fanOut.repository fanOut.scope fanOut.filters
      (fanOut.action.apply fanOut.repository fanOut.scope fanOut.path) rendition invoked
      before = (result, after)) :
    ∃ verdict,
      fanOut.CarriesOut (visit verdict fanOut.filters.length number) before
        (Job.failure? result) after ∧
      ∀ total, result = .ok total →
        total = invoked + if passes verdict fanOut.filters.length then 1 else 0 := by
  rcases hasked : Filter.acceptsAll fanOut.repository fanOut.scope fanOut.filters
      rendition.path before
    with ⟨verdict?, middle⟩
  have hquestions : Filter.acceptsAll fanOut.repository fanOut.scope
      (fanOut.filters.take fanOut.filters.length) rendition.path before =
        (verdict?, middle) := by
    rw [List.take_length]
    exact hasked
  obtain ⟨verdict, hcarries, hpasses⟩ :=
    carriesOut_questions hrendition (Nat.le_refl _) hquestions
  refine ⟨verdict, ?_⟩
  rw [Action.forRendition, Job.bind_apply, hasked] at hrun
  rcases verdict? with error | _ | _
  case error =>
    obtain ⟨rfl, rfl⟩ := Prod.mk.inj hrun
    exact ⟨hcarries.stop _, nofun⟩
  case ok.false =>
    have hrejected := (hpasses false rfl).symm
    obtain ⟨rfl, rfl⟩ := Prod.mk.inj hrun
    rw [visit, hrejected, if_neg Bool.false_ne_true, if_neg Bool.false_ne_true,
      List.append_nil]
    exact ⟨hcarries, fun _ htotal => (Except.ok.inj htotal).symm⟩
  case ok.true =>
    have haccepted := (hpasses true rfl).symm
    rcases happlied :
        fanOut.action.apply fanOut.repository fanOut.scope fanOut.path middle
      with ⟨outcome, applied⟩
    have hvisit : fanOut.CarriesOut (visit verdict fanOut.filters.length number) before
        (Job.failure? outcome) applied := by
      rw [visit, haccepted, if_pos rfl]
      exact hcarries.append ⟨_, .applied hrendition happlied .nil,
        .application number outcome⟩
    simp only [if_true, Job.bind_apply, happlied] at hrun
    rw [haccepted, if_pos rfl]
    cases outcome with
    | error error =>
        obtain ⟨rfl, rfl⟩ := Prod.mk.inj hrun
        exact ⟨hvisit, nofun⟩
    | ok value =>
        obtain ⟨rfl, rfl⟩ := Prod.mk.inj hrun
        exact ⟨hvisit, fun _ htotal => (Except.ok.inj htotal).symm⟩

/-- What is done for the first renditions of a snapshot. -/
theorem carriesOut_course (hcount : count ≤ fanOut.renditions.length) {invoked : Nat}
    {result : Except ActionError Nat}
    (hrun : Action.forRenditions fanOut.repository fanOut.scope fanOut.filters
      (fanOut.action.apply fanOut.repository fanOut.scope fanOut.path)
      (fanOut.renditions.take count) invoked before = (result, after)) :
    ∃ verdicts,
      fanOut.CarriesOut (course verdicts fanOut.filters.length count) before
        (Job.failure? result) after ∧
      ∀ total, result = .ok total →
        total = invoked + passing verdicts fanOut.filters.length count := by
  induction count generalizing after result with
  | zero =>
      obtain ⟨rfl, rfl⟩ := Prod.mk.inj hrun
      exact ⟨fun _ _ => true, .nil before, fun _ h => (Except.ok.inj h).symm⟩
  | succ count ih =>
      have hrendition : fanOut.renditions[count]? = some fanOut.renditions[count] :=
        List.getElem?_eq_getElem hcount
      rw [← List.take_append_getElem hcount, Action.forRenditions_concat,
        Job.bind_apply] at hrun
      rcases hfirst : Action.forRenditions fanOut.repository fanOut.scope fanOut.filters
        (fanOut.action.apply fanOut.repository fanOut.scope fanOut.path)
          (fanOut.renditions.take count) invoked
        before with ⟨first, middle⟩
      obtain ⟨verdicts, hcarries, htotal⟩ := ih (Nat.le_of_succ_le hcount) hfirst
      rw [hfirst] at hrun
      cases first with
      | error error =>
          obtain ⟨rfl, rfl⟩ := Prod.mk.inj hrun
          refine ⟨verdicts, ?_, nofun⟩
          rw [course_succ]
          exact hcarries.stop _
      | ok done =>
          obtain ⟨verdict, hvisit, hinvoked⟩ := carriesOut_visit hrendition hrun
          have hbelow := update_below verdicts count verdict
          refine ⟨Function.update verdicts count verdict, ?_, ?_⟩
          · rw [course_succ, ← course_congr hbelow, Function.update_self]
            exact hcarries.append hvisit
          · intro total hresult
            rw [passing_succ, ← passing_congr hbelow, Function.update_self,
              hinvoked total hresult, htotal done rfl, Nat.add_assoc]

/-- What is done for all renditions of a snapshot. -/
theorem carriesOut_all (fanOut : FanOut σ) {result : Except ActionError Nat}
    (hrun : Action.forRenditions fanOut.repository fanOut.scope fanOut.filters
      (fanOut.action.apply fanOut.repository fanOut.scope fanOut.path) fanOut.renditions
      0 before = (result, after)) :
    ∃ verdicts,
      fanOut.CarriesOut
        (course verdicts fanOut.filters.length fanOut.renditions.length) before
        (Job.failure? result) after ∧
      ∀ total, result = .ok total →
        total = passing verdicts fanOut.filters.length fanOut.renditions.length := by
  rw [← List.take_length (l := fanOut.renditions)] at hrun
  obtain ⟨verdicts, hcarries, htotal⟩ := carriesOut_course (Nat.le_refl _) hrun
  exact ⟨verdicts, hcarries,
    fun total hresult => (htotal total hresult).trans (Nat.zero_add _)⟩

end FanOut

namespace Action

/-- All that a fan-out does.  It asks for the asset once, and does nothing else if there
is no answer or no asset.  Otherwise it makes the steps of the course that the filters
determine when they are asked, and nothing in between.  If one of them fails, its error
is the result, and no step is made after it.  If none fails, the action was applied as
often as there are renditions that all filters accept, and this is reported. -/
theorem withAllRenditions_in_order (action : Action σ) (filters : List (Filter σ))
    (repository : Repository σ) (scope : Scope) (path : String) (batch : Batch σ) :
    let span := Span.onItem Operation.withAllRenditions path
    let run :=
      (Action.withAllRenditions action filters).apply repository scope path batch
    ∃ found asked,
      Job.ask repository (.resolve path) (Job.note (.span span scope) batch).2 =
        (found, asked) ∧
      match found with
      | .error error => run = (.error error, asked)
      | .ok none => run = (.error (.assetNotFound path), asked)
      | .ok (some asset) =>
        let fanOut : FanOut σ :=
          ⟨repository, some span, filters, action, path, asset.renditions⟩
        ∃ verdicts left,
          let course := FanOut.course verdicts filters.length asset.renditions.length
          let passing := FanOut.passing verdicts filters.length asset.renditions.length
          (∃ error, fanOut.CarriesOut course asked (some error) left ∧
            run = (.error error, left)) ∨
          fanOut.CarriesOut course asked none left ∧
          course.countP FanOut.Step.applies = passing ∧
            run = (.ok (),
              (Job.emit (some span)
                (.fannedOut path asset.renditions.length passing) left).2) := by
  intro span run
  rcases hasked :
      Job.ask repository (.resolve path) (Job.note (.span span scope) batch).2
    with ⟨found, asked⟩
  refine ⟨found, asked, rfl, ?_⟩
  have hrun : run = fanOut repository (some span) filters
      (action.apply repository (some span) path) path
      (Job.note (.span span scope) batch).2 := rfl
  rw [fanOut, Job.bind_apply, resolveAsset, Job.bind_apply, hasked] at hrun
  rcases found with error | _ | asset
  · exact hrun
  · exact hrun
  · rcases hdone : forRenditions repository (some span) filters
        (action.apply repository (some span) path)
      asset.renditions 0 asked with ⟨result, left⟩
    let fanOut : FanOut σ :=
      ⟨repository, some span, filters, action, path, asset.renditions⟩
    obtain ⟨verdicts, hcarries, htotal⟩ := fanOut.carriesOut_all hdone
    refine ⟨verdicts, left, ?_⟩
    simp only [Job.pure_apply, Job.bind_apply, hdone] at hrun
    cases result with
    | error error => exact .inl ⟨error, hcarries, hrun⟩
    | ok total =>
        refine .inr ⟨hcarries,
          FanOut.countP_course verdicts filters.length asset.renditions.length, ?_⟩
        rw [hrun, htotal total rfl]
        rfl

end Action

end ContentBatch
