import ContentBatch.Proofs.Retry.Completion
import ContentBatch.Proofs.Retry.Diary
import ContentBatch.Rehearsal.World

/-!
# What the reports of a retry tell

Whoever reads the events of a retry wants to know from them how often its job was
invoked and how the run ended.  This module says that they tell.  `Tells` lists what the
diary of a run accounts for, and `Documented` is the run of a retry with its course, its
lines and its diary.

The messages tell the reports apart, the last report tells how the run ended, and the
verdicts on failed attempts count these.

## Main results

* `Report.told_by_message`: what a message tells of the report.
* `tells_courseDiary`: the diary of every course tells.
* `reports_account_for_attempts`: the reports of retried actions and of retried work.
-/

namespace ContentBatch

/-! ## Messages -/

namespace Report

/-- What the message of a failed attempt begins with, if another one is allowed. -/
def failedMessage : String :=
  "Error during attempt, retry count is "

theorem ne_failedMessage {text : String}
    (h : text.toList.take 7 ≠ failedMessage.toList.take 7) :
    ¬ ∃ remaining : Nat, text = failedMessage ++ toString remaining := by
  rintro ⟨remaining, rfl⟩
  have hlong : 7 ≤ failedMessage.toList.length := by decide +kernel
  rw [String.toList_append, List.take_append_of_le_length hlong] at h
  exact h rfl

/-- What the message of a report tells of it: whether it is the verdict on a failed
attempt, whether another attempt is allowed, and whether it is one of the other two. -/
structure ToldByMessage (report : Report) : Prop where
  verdict : report.verdict?.isSome ↔
    report.message ∈ ["Rollback failed after attempt error", "Retry budget exhausted",
      "Error classified as not retryable"] ∨
    ∃ remaining : Nat, report.message = failedMessage ++ toString remaining
  failed : (∃ remaining error, report = .failed remaining error) ↔
    ∃ remaining : Nat, report.message = failedMessage ++ toString remaining
  succeeded : (∃ attempts, report = .succeeded attempts) ↔
      report.message = "Succeeded after retry"
  interrupted : (∃ attempts, report = .interrupted attempts) ↔
      report.message = "Retry interrupted during delay"

/-- Reports are told from each other by their messages. -/
theorem told_by_message (report : Report) : report.ToldByMessage := by
  have hsucceeded := @ne_failedMessage "Succeeded after retry" (by decide +kernel)
  have hinterrupted :=
    @ne_failedMessage "Retry interrupted during delay" (by decide +kernel)
  have hrollbackFailed :=
    @ne_failedMessage "Rollback failed after attempt error" (by decide +kernel)
  have hexhausted := @ne_failedMessage "Retry budget exhausted" (by decide +kernel)
  have hnotRetryable :=
    @ne_failedMessage "Error classified as not retryable" (by decide +kernel)
  cases report with
  | failed remaining error =>
      have hmessage : (Report.failed remaining error).message =
          failedMessage ++ toString remaining := rfl
      refine ⟨?_, ?_, ?_, ?_⟩
      all_goals rw [hmessage]
      · exact iff_of_true rfl (.inr ⟨remaining, rfl⟩)
      · exact iff_of_true ⟨_, _, rfl⟩ ⟨remaining, rfl⟩
      · exact iff_of_false nofun fun h => hsucceeded ⟨remaining, h.symm⟩
      · exact iff_of_false nofun fun h => hinterrupted ⟨remaining, h.symm⟩
  | _ =>
      refine ⟨?_, ?_, ?_, ?_⟩
      all_goals
        dsimp only [message, verdict?]
        simp_all

end Report

namespace Retry

open Levels

variable {budget number : Nat} {errors : List ActionError} {ending : Ending}
  {retry : Retry}

/-! ## Reading the reports -/

/-- How a run ends, as far as the reports have to tell. -/
inductive Conclusion where
  | succeeded
  | rollbackFailed
  | exhausted
  | notRetryable
  | interrupted
  deriving DecidableEq, Repr

/-- The way in which an ending ends a run. -/
def Ending.conclusion : Ending → Conclusion
  | succeeded => .succeeded
  | revertFailed _ _ => .rollbackFailed
  | refreshFailed _ _ => .rollbackFailed
  | exhausted _ => .exhausted
  | notRetryable _ => .notRetryable
  | interrupted _ => .interrupted

/-- The number of failed attempts, read from the reports. -/
def failuresRead (reports : List Report) : Nat :=
  reports.countP fun report => report.verdict?.isSome

/-- The conclusion of a run, read from its reports: it is in the last of them, and a run
without reports succeeded at once. -/
def conclusionRead? (reports : List Report) : Option Conclusion :=
  match reports.getLast? with
  | none => some .succeeded
  | some (.succeeded _) => some .succeeded
  | some (.rollbackFailed _ _ _) => some .rollbackFailed
  | some (.exhausted _ _) => some .exhausted
  | some (.notRetryable _ _ _) => some .notRetryable
  | some (.failed _ _) => none
  | some (.interrupted _) => some .interrupted

theorem outcomes_told (budget number : Nat) (errors : List ActionError) :
    (told budget number errors).filterMap Mark.outcome? = errors.map some := by
  induction errors generalizing number with
  | nil => rfl
  | cons error errors ih =>
      rw [told, List.filterMap_append, ih]
      rfl

theorem outcomes_reported (reports : List Report) :
    (reports.map Mark.reported).filterMap Mark.outcome? = [] := by
  rw [List.filterMap_map]
  exact List.filterMap_eq_nil_iff.2 fun _ _ => rfl

theorem outcomes_courseDiary (retry : Retry) (errors : List ActionError)
    (ending : Ending) :
    (courseDiary retry errors ending).filterMap Mark.outcome? =
      errors.map some ++ [Job.failure? ending.attempted] := by
  rw [courseDiary, List.filterMap_append, outcomes_told, Ending.told,
    List.filterMap_cons, outcomes_reported]
  rfl

theorem reportsIn_courseDiary (retry : Retry) (errors : List ActionError)
    (ending : Ending) :
    reportsIn (courseDiary retry errors ending) =
      reportsIn (told retry.policy.maxAttempts.toNat 1 errors) ++
        ending.reports retry (errors.length + 1) := by
  have hending : reportsIn (ending.told retry (errors.length + 1)) =
      ending.reports retry (errors.length + 1) := by
    show ((ending.reports retry (errors.length + 1)).map Mark.reported).filterMap
        Mark.report? = _
    rw [List.filterMap_map]
    exact List.filterMap_some
  rw [← hending]
  exact List.filterMap_append

theorem failed_of_mem_told {report : Report}
    (h : report ∈ reportsIn (told budget number errors)) :
    ∃ remaining error, report = .failed remaining error := by
  induction errors generalizing number with
  | nil => cases h
  | cons error errors ih =>
      rcases List.mem_cons.1 h with rfl | hlater
      case inl => exact ⟨_, _, rfl⟩
      case inr => exact ih hlater

/-- Until the last attempt, there is nothing but the report that another one is
allowed. -/
theorem mem_reportsIn_courseDiary_iff {report : Report}
    (hreport : ∀ remaining error, report ≠ .failed remaining error) :
    report ∈ reportsIn (courseDiary retry errors ending) ↔
      report ∈ ending.reports retry (errors.length + 1) := by
  rw [reportsIn_courseDiary, List.mem_append, or_iff_right]
  intro htold
  obtain ⟨remaining, error, rfl⟩ := failed_of_mem_told htold
  exact hreport remaining error rfl

theorem failuresRead_told (budget number : Nat) (errors : List ActionError) :
    failuresRead (reportsIn (told budget number errors)) =
      (errors.map some).countP Option.isSome := by
  induction errors generalizing number with
  | nil => rfl
  | cons error errors ih =>
      show failuresRead (.failed (budget - number) error ::
          reportsIn (told budget (number + 1) errors)) = _
      rw [failuresRead, List.countP_cons_of_pos rfl, List.map_cons,
        List.countP_cons_of_pos rfl]
      exact congrArg Nat.succ (ih (number + 1))

theorem failuresRead_reports (retry : Retry) (number : Nat) (ending : Ending) :
    failuresRead (ending.reports retry number) =
      [Job.failure? ending.attempted].countP Option.isSome := by
  cases ending with
  | succeeded =>
      by_cases hlater : 1 < number
      · rw [Ending.reports, if_pos hlater]
        rfl
      · rw [Ending.reports, if_neg hlater]
        rfl
  | _ => rfl

/-- The verdicts count the failed attempts. -/
theorem failuresRead_courseDiary (retry : Retry) (errors : List ActionError)
    (ending : Ending) :
    failuresRead (reportsIn (courseDiary retry errors ending)) =
      ((courseDiary retry errors ending).filterMap Mark.outcome?).countP
        Option.isSome := by
  rw [outcomes_courseDiary,
    List.countP_append, ← failuresRead_told retry.policy.maxAttempts.toNat 1,
    ← failuresRead_reports retry (errors.length + 1), reportsIn_courseDiary]
  exact List.countP_append

/-- The last report tells the conclusion. -/
theorem conclusionRead?_courseDiary (retry : Retry) (errors : List ActionError)
    (ending : Ending) :
    conclusionRead? (reportsIn (courseDiary retry errors ending)) =
      some ending.conclusion := by
  unfold conclusionRead?
  rw [reportsIn_courseDiary, List.getLast?_append]
  cases ending with
  | succeeded =>
      -- the success is reported exactly if there is a failure before it
      cases errors with
      | nil => rfl
      | cons error errors =>
          have hlater : 1 < (error :: errors).length + 1 :=
            Nat.succ_lt_succ (Nat.zero_lt_succ _)
          rw [Ending.reports, if_pos hlater]
          rfl
  | _ => rfl

/-- The diary of a run in which attempts failed with `errors` and the one after them
came to `ending`: what the reports in it account for. -/
structure Tells (retry : Retry) (errors : List ActionError) (ending : Ending)
    (marks : List Mark) : Prop where
  /-- The invocations of the run. -/
  invocations : marks.filterMap Mark.outcome? =
      errors.map some ++ [Job.failure? ending.attempted]
  /-- Right after a failed attempt comes the verdict on it. -/
  verdict : ∀ past error future, marks = past ++ .invoked (some error) :: future →
    ∃ report later, future = .reported report :: later ∧ report.verdict? = some error
  /-- There are no other verdicts. -/
  failure : ∀ past report error future, marks = past ++ .reported report :: future →
    report.verdict? = some error → past.getLast? = some (.invoked (some error))
  /-- Something follows only after a verdict that allows another attempt. -/
  allowed : ∀ past report next future,
      marks = past ++ .reported report :: next :: future →
    ∃ remaining error, report = .failed remaining error
  /-- All attempts but the first one follow such a verdict. -/
  again : ∀ past failure future, marks = past ++ .invoked failure :: future →
    past = [] ∨ ∃ remaining error,
      past.getLast? = some (.reported (.failed remaining error))
  /-- Attempts are counted by the invocations so far. -/
  attempts : ∀ past report future subject value,
      marks = past ++ .reported report :: future →
    ("attempts", value) ∈ (Event.retry subject report).fields →
    value = .number (invocationsIn past)
  /-- What remains is what these leave of the budget. -/
  remaining : ∀ past left error future subject value,
      marks = past ++ .reported (.failed left error) :: future →
    invocationsIn past < retry.policy.maxAttempts.toNat ∧
      (("remaining", value) ∈ (Event.retry subject (.failed left error)).fields ↔
        value = .number (retry.policy.maxAttempts.toNat - invocationsIn past))
  /-- An interruption is reported if and only if the retry itself ends with it. -/
  interrupted : (∃ attempts, .interrupted attempts ∈ reportsIn marks) ↔
      ∃ error, ending = .interrupted error
  /-- A success is reported if and only if it comes after failures. -/
  succeeded : (∃ attempts, .succeeded attempts ∈ reportsIn marks) ↔
    ending.result (errors.length + 1) = .ok () ∧ errors ≠ []
  /-- The reports tell how many attempts failed. -/
  failures : failuresRead (reportsIn marks) =
      (marks.filterMap Mark.outcome?).countP Option.isSome
  /-- They tell how the run ended. -/
  conclusion : conclusionRead? (reportsIn marks) = some ending.conclusion

theorem Ending.reports_ne_nil (retry : Retry) (number : Nat) {error : ActionError}
    (h : Job.failure? ending.attempted = some error) :
    ending.reports retry number ≠ [] := by
  cases ending with
  | succeeded => cases h
  | _ => exact List.cons_ne_nil _ _

/-- A diary does not end with a failed attempt: the verdict is still to come. -/
theorem courseDiary_getLast?_ne (retry : Retry) (errors : List ActionError)
    (ending : Ending) (error : ActionError) :
    (courseDiary retry errors ending).getLast? ≠ some (.invoked (some error)) := by
  intro hlast
  rw [courseDiary, Ending.told, List.append_cons] at hlast
  rcases List.eq_nil_or_concat (ending.reports retry (errors.length + 1)) with
    hnone | ⟨reports, report, hreports⟩
  case inl =>
    rw [hnone, List.map_nil, List.append_nil, List.getLast?_concat] at hlast
    have hfailure : Job.failure? ending.attempted = some error :=
      Mark.invoked.inj (Option.some.inj hlast)
    exact ending.reports_ne_nil retry _ hfailure hnone
  case inr =>
    rw [hreports, List.concat_eq_append, List.map_append,
      List.map_singleton, ← List.append_assoc, List.getLast?_concat] at hlast
    cases hlast

theorem mem_reports_interrupted_iff (retry : Retry) (number : Nat) (ending : Ending) :
    (∃ attempts, .interrupted attempts ∈ ending.reports retry number) ↔
      ∃ error, ending = .interrupted error := by
  cases ending with
  | succeeded =>
      by_cases hlater : 1 < number
      · simp [Ending.reports, hlater]
      · simp [Ending.reports, hlater]
  | _ => simp [Ending.reports]

theorem mem_reports_succeeded_iff (retry : Retry) (errors : List ActionError)
    (ending : Ending) :
    (∃ attempts, .succeeded attempts ∈ ending.reports retry (errors.length + 1)) ↔
      ending.result (errors.length + 1) = .ok () ∧ errors ≠ [] := by
  cases ending with
  | succeeded => cases errors <;> simp [Ending.reports, Ending.result]
  | _ => simp [Ending.reports, Ending.result]

/-- The diary of every course tells. -/
theorem tells_courseDiary (hlength : errors.length + 1 ≤ retry.policy.maxAttempts.toNat)
    (hwithin : ending.Within retry.policy.maxAttempts.toNat (errors.length + 1)) :
    Tells retry errors ending (courseDiary retry errors ending) := by
  have hkept := kept_diary hlength hwithin
  refine
    { invocations := outcomes_courseDiary retry errors ending
      verdict := ?verdict
      failure :=
        fun _ _ _ _ hmarks hverdict => hkept.failure_before_verdict hmarks hverdict
      allowed := fun _ _ _ _ hmarks => hkept.failed_of_later hmarks
      again := fun _ _ _ hmarks => hkept.failed_before_invocation hmarks
      attempts := fun _ _ _ _ _ hmarks hvalue => hkept.attempts_eq hmarks hvalue
      remaining := ?remaining
      interrupted := ?interrupted
      succeeded := ?succeeded
      failures := failuresRead_courseDiary retry errors ending
      conclusion := conclusionRead?_courseDiary retry errors ending }
  case verdict =>
    intro past error future hmarks
    cases future with
    | nil =>
        refine absurd ?_ (courseDiary_getLast?_ne retry errors ending error)
        rw [hmarks, List.getLast?_concat]
    | cons next later =>
        obtain ⟨report, rfl, hverdict⟩ := hkept.verdict_after_failure hmarks
        exact ⟨report, later, rfl, hverdict⟩
  case remaining =>
    intro past left error future subject value hmarks
    obtain ⟨hspare, rfl⟩ := hkept.remaining_eq hmarks
    exact ⟨hspare, by simp [Event.fields, Report.fields]⟩
  case interrupted =>
    rw [← mem_reports_interrupted_iff retry (errors.length + 1)]
    refine exists_congr fun attempts => mem_reportsIn_courseDiary_iff ?_
    intro remaining error hfailed
    cases hfailed
  case succeeded =>
    rw [← mem_reports_succeeded_iff retry]
    refine exists_congr fun attempts => mem_reportsIn_courseDiary_iff ?_
    intro remaining error hfailed
    cases hfailed

/-! ## Retried actions and work -/

variable {σ : Type} {repository : Repository σ} {batch : Batch σ}

/-- The run of a retry from a batch to its outcome, with its course and the lines
between its span and its result. What the retry does itself is within its span and about
its subject, and its diary tells of the course. -/
def Documented (retry : Retry) (repository : Repository σ) (scope : Scope) (span : Span)
    (subject : String) (job : Job σ Unit) (batch : Batch σ)
    (outcome : Except ActionError Unit × Batch σ) : Prop :=
  ∃ errors ending final lines,
    (retry.surroundings repository (some span) subject job).Course retry.policy.delay
        retry.policy.maxAttempts.toNat 1
          (Job.note (.span span scope) batch).2 errors ending final ∧
      outcome.1 = ending.result (errors.length + 1) ∧
      outcome.2.journal.toList =
        batch.journal.toList ++ .span span scope ::
          (lines ++ [.retried (Job.failure? outcome.1)]) ∧
      (∀ entry ∈ layer 0 lines, Own (some span) subject entry) ∧
      Tells retry errors ending (diary lines)

/-- A retry of a job that leaves no mark without its counterpart is documented. -/
theorem perform_documented (retry : Retry) (repository : Repository σ) (scope : Scope)
    (span : Span) (subject : String) (job : Scope → Job σ Unit) (batch : Batch σ)
    (hjob : (job (some span)).Adds fun _ entries => Balanced entries) :
    retry.Documented repository scope span subject (job (some span)) batch
      (retry.perform repository scope span subject job batch) := by
  obtain ⟨errors, ending, final, hcourse, hlength, houtcome, _, _⟩ :=
    retry.perform_completes repository scope span subject job batch
  obtain ⟨lines, hwritten, hjournal⟩ := hcourse.written hjob
  have hwithin : ending.Within retry.policy.maxAttempts.toNat (errors.length + 1) := by
    obtain ⟨begun, _, hends⟩ := hcourse.reaches
    rw [Nat.add_comm]
    exact hends.within
  rw [houtcome]
  refine ⟨errors, ending, final, lines, hcourse, rfl, ?_,
    hwritten.own fun _ _ => id, ?_⟩
  · show (final.journal.push _).toList = _
    rw [Array.toList_push, hjournal]
    show (batch.journal.push _).toList ++ lines ++ _ = _
    rw [Array.toList_push, List.append_assoc, List.append_assoc]
    rfl
  · rw [hwritten.diary_eq fun _ _ => id, Nat.add_comm 1]
    exact tells_courseDiary hlength hwithin

/-- The reports of every retried action and of every retried piece of work account for
its attempts, whatever the policy, the classifier, the token and the repository are, and
however deep it is nested.  The messages tell the reports apart. -/
theorem reports_account_for_attempts (retry : Retry) (repository : Repository σ)
    (scope : Scope) (batch : Batch σ) :
    (∀ report : Report, report.ToldByMessage) ∧
    (∀ (action : Action σ) (path : String),
      (action.Closures fun _ job => job.Adds fun _ entries => Balanced entries) →
      let span := Span.onItem Operation.retry path
      retry.Documented repository scope span path
        (action.apply repository (some span) path) batch
        ((Action.retry retry action).apply repository scope path batch)) ∧
    ∀ work : Work σ,
      (work.Closures fun _ job => job.Adds fun _ entries => Balanced entries) →
      let span := work.retrySpan
      retry.Documented repository scope span work.name
        (work.run repository (some span)) batch
        ((Work.retry retry work).run repository scope batch) := by
  refine ⟨Report.told_by_message, ?_, ?_⟩
  · intro action path hclosures span
    have hbalanced := (Work.bound action path).balanced repository hclosures (some span)
    exact perform_documented retry repository scope span path
      (fun scope => action.apply repository scope path) batch hbalanced
  · intro work hclosures span
    exact perform_documented retry repository scope span work.name
      (fun scope => work.run repository scope) batch
        (work.balanced repository hclosures (some span))

open Rehearsal

/-- A budget of three around a budget of two around a replication that fails four times.
The last failure cancels the token of the outer retry, so that it does not come to its
third attempt.  What it reports stands between the reports of the inner one. -/
theorem interrupted_around_exhausted :
    let failing : Turn := { error := some (.session "conflict") }
    let world : World :=
      { queues := [(.replicate,
        [failing, failing, failing, { failing with cancel := some "shutdown" }])] }
    let outer : Retry := ⟨⟨3, 1000, by decide⟩, .retryAll, some "shutdown"⟩
    let inner : Retry := ⟨⟨2, 0, by decide⟩, .retryAll, none⟩
    let work : Work World := .bound (.retry inner (.replicate .activate .platform)) "/a"
    let run := (Work.retry outer work).run World.repository none { store := world }
    (work.Closures fun _ job => job.Adds fun _ entries => Balanced entries) ∧
      outer.Documented World.repository none work.retrySpan work.name
        (work.run World.repository (some work.retrySpan)) { store := world } run ∧
      Job.failure? run.1 = some (.interrupted 2) ∧
      run.2.journal.events.map (fun line => line.1.message) =
        ["Error during attempt, retry count is 1", "Retry budget exhausted",
          "Error during attempt, retry count is 2",
          "Error during attempt, retry count is 1", "Retry budget exhausted",
          "Error during attempt, retry count is 1",
          "Retry interrupted during delay"] := by
  intro failing world outer inner work run
  have hdocumented := (reports_account_for_attempts outer World.repository none
    { store := world }).2.2 work trivial
  refine ⟨trivial, hdocumented, ?_⟩
  decide +kernel

end Retry

end ContentBatch
