import ContentBatch.Proofs.Composition
import ContentBatch.Proofs.Retry.Binding
import ContentBatch.Proofs.Retry.Protocol
import ContentBatch.Proofs.Retry.Written
import ContentBatch.Rehearsal.World

/-!
# Only retries roll back

Everything that is built from the actions of this library, from retries and from
closures that leave the rollback alone keeps to the session protocol, however deeply it
is nested and however the repository answers.

`Job.Ordered` is the protocol as a relation: what was added to the journal is a run of
the machine from any state with nothing left to do back to that state.  Single steps
respect it because they add at most one harmless line, closures because they are
`Quiet`, and retries because of what is written for their courses.

## Main results

* `Retry.ordered_perform`: a retry keeps to the protocol if what it retries does.
* `HeldWork.run_keeps_protocol`: all compositions of quiet parts keep to the protocol.
-/

namespace ContentBatch

open Protocol Rehearsal

/-! ## Orderly jobs -/

namespace Job

variable {σ α β : Type}

/-- What was added to the journal keeps to the protocol and leaves nothing to do. -/
def Ordered (before after : Batch σ) : Prop :=
  ∃ entries, after.journal.toList = before.journal.toList ++ entries ∧
    ∀ running, Run ⟨running, .clear⟩ entries ⟨running, .clear⟩

/-- The job adds only messages and calls that do not roll back, as a closure does that
is no retry. -/
def Quiet (job : Job σ α) : Prop :=
  job.Adds fun _ entries => ∀ entry ∈ entries,
    entry.isMessage = true ∨
    ∃ call failure, entry = .call call failure ∧ call.rollsBack = false

theorem Quiet.ordered {job : Job σ α} (hjob : job.Quiet) : job.Respects Ordered := by
  intro batch
  obtain ⟨entries, hjournal, hquiet⟩ := hjob batch
  refine ⟨entries, hjournal, ?_⟩
  intro running
  clear hjournal
  induction entries with
  | nil => exact .nil
  | cons entry entries ih =>
      rw [List.forall_mem_cons] at hquiet
      rcases hquiet.1 with hmessage | ⟨call, failure, rfl, hcall⟩
      · exact .cons (.message hmessage) (ih hquiet.2)
      · exact .cons (.call hcall) (ih hquiet.2)

theorem quiet_ask (repository : Repository σ) {call : Call}
    (hcall : call.rollsBack = false) :
    (ask repository call).Quiet := by
  refine adds_ask ?_
  intro answer entry hentry
  rw [List.mem_singleton] at hentry
  exact .inr ⟨call, failure? answer, hentry, hcall⟩

/-- What is orderly can be done one after the other. -/
theorem composable_ordered (repository : Repository σ) :
    Composable repository (fun call => call.rollsBack = false) Ordered := by
  show Composable repository _ (Added fun entries =>
    ∀ running, Run ⟨running, .clear⟩ entries ⟨running, .clear⟩)
  refine composable_added ?nil ?append ?span ?event ?call
  case nil =>
    intro running
    exact .nil
  case append =>
    intro entries others hrun hrest running
    exact (hrun running).append (hrest running)
  case span =>
    intro span scope running
    exact .single (.message rfl)
  case event =>
    intro event scope running
    exact .single (.message rfl)
  case call =>
    intro call failure hcall running
    exact .single (.call hcall)

end Job

/-! ## Retries -/

namespace Retry

/-- The phase after the last attempt. -/
def Ending.phase (number : Nat) : Ending → Phase
  | succeeded => .succeeded
  | revertFailed _ rollback => .broken rollback
  | refreshFailed _ rollback => .broken rollback
  | exhausted error => .rolledBack number error
  | notRetryable error => .rolledBack number error
  | interrupted error => .rolledBack number error

variable {σ : Type} {retry : Retry} {repository : Repository σ} {scope : Scope}
  {span : Span} {subject : String} {number : Nat} {errors : List ActionError}
  {ending : Ending} {entries inner : List Entry} {running : List Nat} {phase : Phase}

/-- An attempt begins where it may, and ends as its result says. -/
theorem run_attemptEntries (result : Except ActionError Unit) {after : State}
    (hbegin : Protocol.Step ⟨running, phase⟩ (.attempt number)
      ⟨number :: running, .clear⟩)
    (hinner : Run ⟨number :: running, .clear⟩ inner ⟨number :: running, .clear⟩)
    (hend : Protocol.Step ⟨number :: running, .clear⟩
      (.attempted number (Job.failure? result)) after) :
    Run ⟨running, phase⟩ (attemptEntries number result inner) after :=
  .cons hbegin (hinner.append (.single hend))

/-- The lines after the last attempt lead to its phase. -/
theorem Ending.run_closing (retry : Retry) (scope : Scope) (subject : String)
    (number : Nat) (ending : Ending) (running : List Nat) :
    ∃ failed, Protocol.Step ⟨number :: running, .clear⟩
        (.attempted number (Job.failure? ending.attempted)) failed ∧
      Run failed (ending.closing retry scope subject number)
        ⟨running, ending.phase number⟩ := by
  cases ending with
  | succeeded =>
      refine ⟨⟨running, .succeeded⟩, .succeed, ?_⟩
      unfold closing
      by_cases hlater : 1 < number
      · rw [if_pos hlater]
        exact .single (.message rfl)
      · rw [if_neg hlater]
        exact .nil
  | revertFailed error rollback =>
      exact ⟨⟨running, .failed number error⟩, .fail,
        .cons .revertFails (.single (.message rfl))⟩
  | refreshFailed error rollback =>
      exact ⟨⟨running, .failed number error⟩, .fail,
        .cons .revert (.cons .refreshFails (.single (.message rfl)))⟩
  | exhausted error =>
      exact ⟨⟨running, .failed number error⟩, .fail,
        .cons .revert (.cons .refresh (.single (.message rfl)))⟩
  | notRetryable error =>
      exact ⟨⟨running, .failed number error⟩, .fail,
        .cons .revert (.cons .refresh (.cons .decide (.single (.message rfl))))⟩
  | interrupted error =>
      exact ⟨⟨running, .failed number error⟩, .fail,
        .cons .revert (.cons .refresh (.cons .decide (.cons (.message rfl)
          (.cons .wait (.single (.message rfl))))))⟩

/-- What is written for a course keeps to the protocol, if the job does and the first
attempt may begin. -/
theorem Written.run
    (hwritten : Written retry scope subject (fun _ entries => ∀ running,
      Run ⟨running, .clear⟩ entries ⟨running, .clear⟩) number errors ending entries)
    (hbegin : Protocol.Step ⟨running, phase⟩ (.attempt number)
      ⟨number :: running, .clear⟩) :
    Run ⟨running, phase⟩ entries ⟨running, ending.phase (number + errors.length)⟩ := by
  induction hwritten generalizing phase with
  | @ends number ending inner hinner =>
      obtain ⟨failed, hend, hclosing⟩ :=
        ending.run_closing retry scope subject number running
      exact (run_attemptEntries _ hbegin (hinner _) hend).append hclosing
  | @continues number error errors ending inner entries hinner _ ih =>
      have hround : Run ⟨running, phase⟩
          (retry.roundEntries scope subject number error inner)
          ⟨running, .rolledBack number error⟩ :=
        (run_attemptEntries _ hbegin (hinner _) .fail).append
          (.cons .revert
            (.cons .refresh (.cons .decide (.cons (.message rfl) (.single .wait)))))
      have hlast : number + (error :: errors).length = number + 1 + errors.length := by
        rw [List.length_cons]
        omega
      rw [hlast]
      exact hround.append (ih .again)

/-- A retry returns from the phase of its ending with the result of the ending. -/
theorem Ending.step_result (number : Nat) (ending : Ending) (running : List Nat) :
    Protocol.Step ⟨running, ending.phase number⟩
      (.retried (Job.failure? (ending.result number))) ⟨running, .clear⟩ := by
  cases ending with
  | succeeded => exact .returnSuccess
  | revertFailed error rollback => exact .returnRollback
  | refreshFailed error rollback => exact .returnRollback
  | exhausted error => exact .returnError (.inl rfl)
  | notRetryable error => exact .returnError (.inl rfl)
  | interrupted error => exact .returnError (.inr rfl)

/-- A retry of an orderly job is orderly. -/
theorem ordered_perform {job : Scope → Job σ Unit}
    (hjob : (job (some span)).Respects Job.Ordered) :
    (retry.perform repository scope span subject job).Respects Job.Ordered := by
  intro batch
  have hadds : (job (some span)).Adds fun _ entries =>
      ∀ running, Run ⟨running, .clear⟩ entries ⟨running, .clear⟩ := hjob
  obtain ⟨entries, hjournal, errors, ending, lines, hwritten, _, _, hresult, rfl⟩ :=
    (adds_perform hadds) batch
  refine ⟨_, hjournal, ?_⟩
  intro running
  rw [hresult]
  have hlines :
      Run ⟨running, .clear⟩ lines ⟨running, ending.phase (1 + errors.length)⟩ :=
    hwritten.run .begin
  rw [Nat.add_comm] at hlines
  exact .cons (.message rfl) (hlines.append (.single (ending.step_result _ running)))

end Retry

/-! ## Work -/

/-- All that is composed of quiet parts is orderly. -/
theorem Work.ordered {σ : Type} (repository : Repository σ) (work : Work σ)
    (hwork : work.Closures fun _ job => job.Quiet) (scope : Scope) :
    (work.run repository scope).Respects Job.Ordered :=
  work.respects (Job.composable_ordered repository)
    (Closures.mono (fun _ _ hquiet => hquiet.ordered) hwork)
    (fun _ _ _ _ _ hjob => Retry.ordered_perform hjob) scope

namespace HeldWork

variable {σ : Type}

/-- The session protocol of every composition, with holders or without: a run adds
entries to the journal that the machine reads from the beginning to the beginning, and
the moves among them are lawful. -/
theorem run_keeps_protocol (repository : Repository σ) (scope : Scope)
    (work : HeldWork σ) (hwork : work.bare.Closures fun _ job => job.Quiet)
    (batch : Batch σ) :
    ∃ entries, (work.run repository scope batch).2.journal.toList
        = batch.journal.toList ++ entries ∧
      Run ⟨[], .clear⟩ entries ⟨[], .clear⟩ ∧ Lawful (entries.filter Entry.isMove) := by
  obtain ⟨entries, hjournal, hrun⟩ := work.bare.ordered repository hwork scope batch
  refine ⟨entries, ?_, hrun [], (hrun []).lawful rfl rfl⟩
  rw [work.alike_bare.run_eq]
  exact hjournal

/-- A retry around a fan-out of a retried closure, in holders, on an asset with one
rendition that a filter asks about, while the closure fails once. -/
theorem nested_retries_keep_protocol :
    let world : World :=
      { queues := [(.step, [{ error := some (.session "conflict") }])]
        working := [⟨"/a", "/a", [⟨"web", "/a/web", .epoch⟩]⟩] }
    let closure : Action World :=
      .custom "close" fun path => Job.ask World.repository (.hostStep "close" [path])
    let filter : Filter World :=
      .custom "probe" fun path =>
        Job.ask World.repository (.hostQuestion "probe" [path] true)
    let retried : HeldAction World :=
      .retry ⟨.standard, .retryAll, none⟩ (.held .owned (.plain closure))
    let work : HeldWork World :=
      .held .shared (.retry ⟨.standard, .retryAll, none⟩
        (.bound
          (.withAllRenditions (.held .shared retried) [.held .owned filter]) "/a"))
    (work.bare.Closures fun _ job => job.Quiet) ∧ ∃ entries,
      (work.run World.repository none { store := world }).2.journal.toList =
        [] ++ entries ∧
        Run ⟨[], .clear⟩ entries ⟨[], .clear⟩ ∧
        Lawful (entries.filter Entry.isMove) := by
  intro world closure filter retried work
  have hclosure : closure.Closures fun _ job => job.Quiet :=
    fun _ => Job.quiet_ask World.repository rfl
  have hfilter : filter.Closures fun _ job => job.Quiet :=
    fun _ => Job.quiet_ask World.repository rfl
  have hwork : work.bare.Closures fun _ job => job.Quiet :=
    ⟨hclosure, List.forall_mem_singleton.2 hfilter⟩
  exact ⟨hwork, run_keeps_protocol World.repository none work hwork { store := world }⟩

end HeldWork

end ContentBatch
