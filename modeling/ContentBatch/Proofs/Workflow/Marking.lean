import ContentBatch.Proofs.Journal.Added
import ContentBatch.Proofs.Retry.Binding
import ContentBatch.Proofs.Retry.Invariant
import ContentBatch.Proofs.Retry.Staging
import Mathlib.Data.List.Basic

/-!
# Workflows run on marked sessions

Before a workflow is executed, the session is marked, so that what the workflow changes
is known.  A rollback may drop the mark, hence every application of a workflow marks the
session anew, in each attempt of each retry and for each rendition of each fan-out
around it.

`Marked` is the grammar of journals in which this is so: the execution of a workflow
stands right behind a mark of the session, and apart from that a journal may hold
anything.  Lines of that kind can be strung together, and what a retry writes itself is
no execution.  So the induction over compositions needs to look at the application of a
workflow only.

`RunsMarked` says what the grammar means for the executions and the marks of a journal.

## Main results

* `Marked.runsMarked`: what the grammar means.
* `Action.adds_runWorkflow`: the application of a workflow, however its calls come out.
* `HeldWork.workflows_run_marked`: all compositions whose closures execute nothing
  themselves.
-/

namespace ContentBatch

/-! ## Journals in which only marked sessions run workflows -/

/-- Whether an entry is the execution of a workflow. -/
def Entry.executes : Entry → Bool
  | call asked _ => asked.executes
  | _ => false

/-- Lines in which every execution of a workflow stands right behind a mark of the
session that succeeded, and has a path and a model that are configured. -/
inductive Marked (Configured : String → WorkflowModel → Prop) : List Entry → Prop where
  | nil : Marked Configured []
  | other {entry : Entry} {lines : List Entry} :
      entry.executes = false → Marked Configured lines →
      Marked Configured (entry :: lines)
  | workflow {path : String} {model : WorkflowModel} {failure : Option ActionError}
      {lines : List Entry} :
      Configured path model → Marked Configured lines →
      Marked Configured (.call (.setUserData workflowMarker) none ::
        .call (.execute path model false false) failure :: lines)

/-- What is known of the workflows that are run and of the marks before them.  `<:+`
reads "ends". -/
structure RunsMarked (Configured : String → WorkflowModel → Prop)
    (lines : List Entry) : Prop where
  /-- Right before every execution the session was marked.  What is executed is
  configured, and it neither saves nor refreshes the session by itself. -/
  executed : ∀ past path model autoSave autoRefresh failure future,
    lines = past ++ .call (.execute path model autoSave autoRefresh) failure :: future →
      [.call (.setUserData workflowMarker) none] <:+ past ∧ Configured path model ∧
        autoSave = false ∧ autoRefresh = false
  /-- Between a mark that fails and the next execution there is one that succeeds. -/
  marked_again :
      ∀ past marker error between path model autoSave autoRefresh failure future,
    lines = past ++ .call (.setUserData marker) (some error) ::
        (between ++ .call (.execute path model autoSave autoRefresh) failure ::
          future) →
      .call (.setUserData workflowMarker) none ∈ between

namespace Marked

variable {Configured : String → WorkflowModel → Prop}
  {lines others past future : List Entry}

/-- Lines that execute nothing. -/
theorem of_others (h : ∀ entry ∈ lines, entry.executes = false) :
    Marked Configured lines := by
  induction lines with
  | nil => exact .nil
  | cons entry lines ih =>
      obtain ⟨hentry, hlines⟩ := List.forall_mem_cons.1 h
      exact .other hentry (ih hlines)

theorem single {entry : Entry}
    (h : entry.executes = false) : Marked Configured [entry] :=
  .other h .nil

theorem append (h : Marked Configured lines) (hothers : Marked Configured others) :
    Marked Configured (lines ++ others) := by
  induction h with
  | nil => exact hothers
  | other hentry _ ih => exact .other hentry ih
  | workflow hconfigured _ ih => exact .workflow hconfigured ih

/-- What stands before an execution, and what is executed. -/
theorem before_execution {path : String} {model : WorkflowModel}
    {autoSave autoRefresh : Bool} {failure : Option ActionError}
    (h : Marked Configured lines)
    (hlines : lines = past ++
      .call (.execute path model autoSave autoRefresh) failure :: future) :
    [.call (.setUserData workflowMarker) none] <:+ past ∧ Configured path model ∧
      autoSave = false ∧ autoRefresh = false := by
  induction h generalizing past with
  | nil =>
    exact absurd hlines.symm
      (List.append_ne_nil_of_right_ne_nil past (List.cons_ne_nil _ _))
  | other hentry _ ih =>
      cases past with
      | nil =>
          cases hlines
          cases hentry
      | cons line past =>
          obtain ⟨hmark, hexecuted⟩ := ih (List.cons.inj hlines).2
          exact ⟨hmark.trans (List.suffix_cons line past), hexecuted⟩
  | workflow hconfigured _ ih =>
      -- the execution is not the mark; it is the one behind it, or a later one
      rcases past with _ | ⟨mark, _ | ⟨line, past⟩⟩
      case nil => cases hlines
      case cons.nil =>
        cases hlines
        exact ⟨List.suffix_refl _, hconfigured, rfl, rfl⟩
      case cons.cons =>
        obtain ⟨hmark, hexecuted⟩ := ih (List.cons.inj (List.cons.inj hlines).2).2
        have hlater : past <:+ mark :: line :: past :=
          (List.suffix_cons line past).trans (List.suffix_cons _ _)
        exact ⟨hmark.trans hlater, hexecuted⟩

/-- The grammar says it all. -/
theorem runsMarked (h : Marked Configured lines) : RunsMarked Configured lines where
  executed _ _ _ _ _ _ _ hlines := h.before_execution hlines
  marked_again past marker error between path model autoSave autoRefresh failure
    future hlines := by
    rw [← List.cons_append, ← List.append_assoc] at hlines
    obtain ⟨⟨earlier, hmark⟩, _⟩ := h.before_execution hlines
    have hlast :
        (past ++ .call (.setUserData marker) (some error) :: between).getLast? =
        some (.call (.setUserData workflowMarker) none) := by
      rw [← hmark, List.getLast?_concat]
    rw [List.getLast?_append_cons, List.getLast?_cons] at hlast
    -- the last line before the execution is a success, so it is not the failure itself
    cases hbetween : between.getLast? with
    | none =>
        rw [hbetween] at hlast
        cases hlast
    | some last =>
        rw [hbetween] at hlast
        obtain rfl : last = .call (.setUserData workflowMarker) none :=
          Option.some.inj hlast
        exact List.mem_of_getLast? hbetween

end Marked

/-! ## Jobs -/

namespace Job

variable {σ α : Type}

/-- The job executes no workflow. -/
def ExecutesNothing (job : Job σ α) : Prop :=
  job.Adds fun _ lines => ∀ entry ∈ lines, entry.executes = false

theorem ExecutesNothing.respects_marked {job : Job σ α} (hjob : job.ExecutesNothing)
    (Configured : String → WorkflowModel → Prop) :
    job.Respects (Added (Marked Configured)) :=
  hjob.mono fun _ _ => Marked.of_others

variable (repository : Repository σ) (Configured : String → WorkflowModel → Prop)

theorem composable_marked :
    Composable repository (fun call => call.executes = false)
      (Added (Marked Configured)) :=
  composable_added .nil (fun _ _ => Marked.append) (fun _ _ => .single rfl)
    (fun _ _ => .single rfl)
    (fun _ _ hcall => .single hcall)

theorem retryable_marked : Retry.Retryable repository (Added (Marked Configured)) where
  revert := (composable_marked repository Configured).call .revert rfl
  refresh := (composable_marked repository Configured).call .refresh rfl
  sleep _ _ := ⟨[], (List.append_nil _).symm, .nil⟩
  sleepUnless _ _ _ := ⟨[], (List.append_nil _).symm, .nil⟩
  note entry hentry batch := by
    refine ⟨[entry], Array.toList_push, .single ?_⟩
    cases entry with
    | call asked failure => cases hentry
    | _ => rfl

end Job

open Job

variable {σ : Type} {Configured : String → WorkflowModel → Prop}

/-- The application of a workflow marks the session and, only if that succeeds, executes
the workflow. -/
theorem Action.adds_runWorkflow (repository : Repository σ) (scope : Scope)
    {path : String} {model : WorkflowModel} (hconfigured : Configured path model) :
    (runWorkflow repository scope model path).Adds fun _ lines =>
      Marked Configured lines := by
  refine adds_bind (adds_call repository (.setUserData workflowMarker)) ?_ ?_
  · rintro ⟨⟩ _ rfl
    refine adds_bind (adds_call repository (.execute path model false false)) ?_ ?_
    · rintro ⟨⟩ _ rfl
      exact adds_emit (.workflow hconfigured (.single rfl))
    · rintro error _ rfl
      exact .workflow hconfigured .nil
  · rintro error _ rfl
    exact .single rfl

/-- Work marks the session before each workflow, if its closures do so as well. -/
theorem Work.respects_marked (repository : Repository σ) (scope : Scope) (work : Work σ)
    (hconfigured : ∀ path model, work.workflow? = some (path, model) →
      Configured path model)
    (hclosures : work.Closures fun _ job => job.Respects (Added (Marked Configured))) :
    (work.run repository scope).Respects (Added (Marked Configured)) := by
  have hR := composable_marked repository Configured
  refine work.inherits_of_workflow (hR.inherited fun _ => rfl)
    (fun _ _ hcall => hcall) hclosures ?_ ?_ scope
  · intro path model hmodel scope
    exact hR.within
      (Action.adds_runWorkflow repository _ (hconfigured path model hmodel))
  · intro retry scope span subject job hjob
    exact Retry.perform_respects hR
      (retryable_marked repository Configured) retry scope span subject hjob

namespace HeldWork

/-- No workflow runs on an unmarked session.  However deeply a workflow is nested in
retries, fan-outs and holders, and whatever the repository answers, each of its
executions in the lines of a run stands right behind a mark of the session that
succeeded, at the path and with the model that it was made for.  Closures may do
anything but execute workflows. -/
theorem workflows_run_marked (repository : Repository σ) (scope : Scope)
    (work : HeldWork σ)
    (hclosures : work.bare.Closures fun _ job => job.ExecutesNothing)
    (batch : Batch σ) :
    ∃ lines, (work.run repository scope batch).2.journal.toList =
      batch.journal.toList ++ lines ∧
      RunsMarked (fun path model =>
        work.bare.workflow? = some (path, model)) lines := by
  have hmarked := hclosures.mono fun _ _ hjob => hjob.respects_marked fun path model =>
    work.bare.workflow? = some (path, model)
  obtain ⟨lines, hjournal, hlines⟩ :=
    work.bare.respects_marked repository scope
      (fun _ _ hworkflow => hworkflow) hmarked batch
  rw [work.alike_bare.run_eq repository scope batch]
  exact ⟨lines, hjournal, hlines.runsMarked⟩

/-- A workflow in a retry in a fan-out over two renditions in a retry, with holders in
between.  At first the session cannot be marked, then the workflow fails, and then all
goes well, in a second fan-out. -/
theorem workflow_in_second_fanOut_is_marked :
    let start : Batch Ledger := { store := { script := [false, true, false] } }
    let twice : Retry := ⟨⟨2, 0, by decide⟩, .retryAll, none⟩
    let filter : Filter Ledger :=
      .custom "probe" fun path =>
        Job.ask Ledger.repository (.hostQuestion "probe" [path] true)
    let workflow : HeldAction Ledger :=
      .held .shared (.plain (.startWorkflow { id := "/models/m" }))
    let work : HeldWork Ledger :=
      .retry twice (.held .owned
        (.bound (.withAllRenditions (.retry twice workflow) [filter]) "/a"))
    (work.bare.Closures fun _ job => job.ExecutesNothing) ∧
      (∃ lines, (work.run Ledger.repository none start).2.journal.toList =
        start.journal.toList ++ lines ∧
        RunsMarked (fun path model => work.bare.workflow? = some (path, model)) lines) ∧
      ((work.run Ledger.repository none start).2.journal.toList.filter
        Entry.executes).length = 3 := by
  intro start twice filter workflow work
  have hfilter : filter.Closures fun _ job => job.ExecutesNothing := by
    intro path
    refine Job.adds_ask ?_
    intro answer entry hentry
    rw [List.mem_singleton.1 hentry]
    rfl
  have hclosures : work.bare.Closures fun _ job => job.ExecutesNothing :=
    ⟨trivial, List.forall_mem_singleton.2 hfilter⟩
  refine ⟨hclosures, workflows_run_marked Ledger.repository none work hclosures start,
    ?_⟩
  decide +kernel

end HeldWork

end ContentBatch
