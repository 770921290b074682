import ContentBatch.Proofs.Journal.Added
import ContentBatch.Proofs.Retry.Course
import ContentBatch.Retry.Basic

/-!
# What a retry writes

The course of a retry of a job, as the journal shows it.  The lines of the job itself
stand between the marks of its attempt; everything else is written by the retry.

* `roundEntries` are the lines of an attempt that was followed by another one.
* `Ending.entries` are the lines of the last attempt.
* `Written` strings them together as `Course` does with the attempts.

## Main results

* `Course.written`: a course adds what is written for it.
* `adds_perform`: what a retry adds to the journal, from its span to its result.
-/

namespace ContentBatch.Retry

/-- The result of the attempt that an ending ends. -/
def Ending.attempted : Ending → Except ActionError Unit
  | succeeded => .ok ()
  | revertFailed error _ => .error error
  | refreshFailed error _ => .error error
  | exhausted error => .error error
  | notRetryable error => .error error
  | interrupted error => .error error

/-- Why attempt `number` was the last one: the budget was spent, or the classifier was
against going on. -/
def Ending.Justified (retry : Retry) (number : Nat) : Ending → Prop
  | exhausted _ => number = retry.policy.maxAttempts.toNat
  | notRetryable error => retry.classifier.classify error number = .abort
  | _ => True

/-- The lines of attempt `number`, with those of the job in between. -/
def attemptEntries (number : Nat) (result : Except ActionError Unit)
    (inner : List Entry) :
    List Entry :=
  .attempt number :: (inner ++ [.attempted number (Job.failure? result)])

section Lines

variable (retry : Retry) (scope : Scope) (subject : String) (number : Nat)

/-- The line of a report. -/
def reportEntry (scope : Scope) (subject : String) (report : Report) : Entry :=
  .event (.retry subject report) scope

/-- The lines of attempt `number` that failed with `error` and was followed by another
one. -/
def roundEntries (error : ActionError) (inner : List Entry) : List Entry :=
  attemptEntries number (.error error) inner ++
    [.call .revert none, .call .refresh none, .decision retry.classifier error number,
      reportEntry scope subject
        (.failed (retry.policy.maxAttempts.toNat - number) error),
      .pause retry.policy.delay retry.token true]

/-- The lines after the last attempt, `number`. -/
def Ending.closing : Ending → List Entry
  | succeeded =>
    if 1 < number then [reportEntry scope subject (.succeeded number)] else []
  | revertFailed error rollback =>
    [.call .revert (some rollback),
      reportEntry scope subject (.rollbackFailed number error rollback)]
  | refreshFailed error rollback =>
    [.call .revert none, .call .refresh (some rollback),
      reportEntry scope subject (.rollbackFailed number error rollback)]
  | exhausted error =>
    [.call .revert none, .call .refresh none,
      reportEntry scope subject (.exhausted number error)]
  | notRetryable error =>
    [.call .revert none, .call .refresh none, .decision retry.classifier error number,
      reportEntry scope subject (.notRetryable number retry.classifier.name error)]
  | interrupted error =>
    [.call .revert none, .call .refresh none, .decision retry.classifier error number,
      reportEntry scope subject
        (.failed (retry.policy.maxAttempts.toNat - number) error),
      .pause retry.policy.delay retry.token false,
      reportEntry scope subject (.interrupted number)]

/-- The lines of the last attempt, `number`. -/
def Ending.entries (ending : Ending) (inner : List Entry) : List Entry :=
  attemptEntries number ending.attempted inner ++
    ending.closing retry scope subject number

end Lines

/-- The lines of the attempts from `number` on, with `Good` lines of the job in each of
them. -/
inductive Written (retry : Retry) (scope : Scope) (subject : String)
    (Good : Except ActionError Unit → List Entry → Prop) :
    Nat → List ActionError → Ending → List Entry → Prop where
  | ends {number : Nat} {ending : Ending} {inner : List Entry} :
      Good ending.attempted inner →
      Written retry scope subject Good number [] ending
        (ending.entries retry scope subject number inner)
  | continues {number : Nat} {error : ActionError} {errors : List ActionError}
      {ending : Ending} {inner entries : List Entry} :
      Good (.error error) inner →
      Written retry scope subject Good (number + 1) errors ending entries →
      Written retry scope subject Good number (error :: errors) ending
        (retry.roundEntries scope subject number error inner ++ entries)

variable {σ : Type} {retry : Retry} {repository : Repository σ} {scope : Scope}
  {subject : String} {job : Job σ Unit}
  {Good : Except ActionError Unit → List Entry → Prop} {state next final : Batch σ}
  {number budget : Nat} {delay : Millis} {error : ActionError}
  {errors : List ActionError} {ending : Ending}

/-! ## Single calls -/

section Calls

variable {result : Except ActionError Unit}

theorem attempt_written (hjob : job.Adds Good)
    (hattempt : (retry.surroundings repository scope subject job).attempt number state =
      (result, next)) :
    ∃ inner, Good result inner ∧
      next.journal.toList = state.journal.toList ++
        attemptEntries number result inner := by
  obtain ⟨inner, hjournal, hgood⟩ := hjob (Job.note (.attempt number) state).2
  obtain ⟨rfl, rfl⟩ := Prod.mk.inj hattempt
  refine ⟨inner, hgood, ?_⟩
  show ((job (Job.note (.attempt number) state).2).2.journal.push _).toList = _
  rw [Array.toList_push, hjournal]
  show (state.journal.push (.attempt number)).toList ++ inner ++ _ = _
  rw [Array.toList_push, List.append_assoc, List.append_assoc]
  rfl

theorem revert_written
    (hrevert : (retry.surroundings repository scope subject job).revert state =
      (result, next)) :
    next.journal.toList = state.journal.toList ++
      [.call .revert (Job.failure? result)] := by
  obtain ⟨rfl, rfl⟩ := Prod.mk.inj hrevert
  show (state.journal.push _).toList = _
  rw [Array.toList_push]

theorem refresh_written
    (hrefresh : (retry.surroundings repository scope subject job).refresh state =
      (result, next)) :
    next.journal.toList = state.journal.toList ++
      [.call .refresh (Job.failure? result)] := by
  obtain ⟨rfl, rfl⟩ := Prod.mk.inj hrefresh
  show (state.journal.push _).toList = _
  rw [Array.toList_push]

theorem classify_written {decision : Decision}
    (hclassify : (retry.surroundings repository scope subject job).classify error number
      state = (decision, next)) :
    next.journal.toList =
      state.journal.toList ++ [.decision retry.classifier error number] := by
  obtain ⟨rfl, rfl⟩ := Prod.mk.inj hclassify
  show (state.journal.push _).toList = _
  rw [Array.toList_push]

theorem pause_written {completed : Bool}
    (hpause : (retry.surroundings repository scope subject job).pause delay state =
      (completed, next)) :
    next.journal.toList = state.journal.toList ++
      [.pause delay retry.token completed] := by
  obtain ⟨rfl, rfl⟩ := Prod.mk.inj hpause
  show (state.journal.push _).toList = _
  rw [Array.toList_push]

theorem report_written (report : Report) (state : Batch σ) :
    ((retry.surroundings repository scope subject job).report report
      state).journal.toList =
      state.journal.toList ++ [reportEntry scope subject report] := by
  show (state.journal.push _).toList = _
  rw [Array.toList_push]
  rfl

/-- What a failed attempt leaves behind once it is rolled back. -/
theorem rolledBack_written {failed reverted refreshed : Batch σ} (hjob : job.Adds Good)
    (hattempt : (retry.surroundings repository scope subject job).attempt number state =
      (.error error, failed))
    (hrevert : (retry.surroundings repository scope subject job).revert failed =
      (.ok (), reverted))
    (hrefresh : (retry.surroundings repository scope subject job).refresh reverted =
      (.ok (), refreshed)) :
    ∃ inner, Good (.error error) inner ∧
      refreshed.journal.toList = state.journal.toList ++
        (attemptEntries number (.error error) inner ++
          [.call .revert none, .call .refresh none]) := by
  obtain ⟨inner, hgood, hjournal⟩ := attempt_written hjob hattempt
  refine ⟨inner, hgood, ?_⟩
  rw [refresh_written hrefresh, revert_written hrevert, hjournal, List.append_assoc,
    List.append_assoc]
  rfl

end Calls

/-! ## Courses -/

theorem Surroundings.Ends.written (hjob : job.Adds Good)
    (hends : (retry.surroundings repository scope subject job).Ends retry.policy.delay
      retry.policy.maxAttempts.toNat number state ending final) :
    ∃ inner, Good ending.attempted inner ∧
      final.journal.toList =
        state.journal.toList ++ ending.entries retry scope subject number inner := by
  cases hends with
  | succeeded hattempt =>
      obtain ⟨inner, hgood, hjournal⟩ := attempt_written hjob hattempt
      refine ⟨inner, hgood, ?_⟩
      unfold Ending.entries Ending.closing
      by_cases hlater : 1 < number
      · rw [if_pos hlater, if_pos hlater, report_written, hjournal, List.append_assoc]
        rfl
      · rw [if_neg hlater, if_neg hlater, hjournal, List.append_nil]
        rfl
  | revertFailed hattempt hrevert =>
      obtain ⟨inner, hgood, hjournal⟩ := attempt_written hjob hattempt
      refine ⟨inner, hgood, ?_⟩
      rw [report_written, revert_written hrevert, hjournal]
      simp [Ending.entries, Ending.closing, Ending.attempted, Job.failure?]
  | refreshFailed hattempt hrevert hrefresh =>
      obtain ⟨inner, hgood, hjournal⟩ := attempt_written hjob hattempt
      refine ⟨inner, hgood, ?_⟩
      rw [report_written, refresh_written hrefresh, revert_written hrevert, hjournal]
      simp [Ending.entries, Ending.closing, Ending.attempted, Job.failure?]
  | exhausted hattempt hrevert hrefresh _ =>
      obtain ⟨inner, hgood, hjournal⟩ :=
        rolledBack_written hjob hattempt hrevert hrefresh
      refine ⟨inner, hgood, ?_⟩
      rw [report_written, hjournal]
      simp [Ending.entries, Ending.closing, Ending.attempted]
  | notRetryable hattempt hrevert hrefresh _ hclassify =>
      obtain ⟨inner, hgood, hjournal⟩ :=
        rolledBack_written hjob hattempt hrevert hrefresh
      refine ⟨inner, hgood, ?_⟩
      rw [report_written, classify_written hclassify, hjournal]
      simp [Ending.entries, Ending.closing, Ending.attempted]
      rfl
  | interrupted hattempt hrevert hrefresh _ hclassify hpause =>
      obtain ⟨inner, hgood, hjournal⟩ :=
        rolledBack_written hjob hattempt hrevert hrefresh
      refine ⟨inner, hgood, ?_⟩
      rw [report_written, pause_written hpause, report_written,
        classify_written hclassify, hjournal]
      simp [Ending.entries, Ending.closing, Ending.attempted]

theorem Surroundings.Continues.written (hjob : job.Adds Good)
    (hcontinues : (retry.surroundings repository scope subject job).Continues
      retry.policy.delay retry.policy.maxAttempts.toNat number state error next) :
    ∃ inner, Good (.error error) inner ∧
      next.journal.toList =
        state.journal.toList ++
          retry.roundEntries scope subject number error inner := by
  obtain ⟨hattempt, hrevert, hrefresh, _, hclassify, hpause⟩ := hcontinues
  obtain ⟨inner, hgood, hjournal⟩ := rolledBack_written hjob hattempt hrevert hrefresh
  refine ⟨inner, hgood, ?_⟩
  rw [pause_written hpause, report_written, classify_written hclassify, hjournal]
  simp [roundEntries]

/-- A course adds to the journal what is written for it. -/
theorem Surroundings.Course.written (hjob : job.Adds Good)
    (hcourse :
      (retry.surroundings repository scope subject job).Course retry.policy.delay
        retry.policy.maxAttempts.toNat number state errors ending final) :
    ∃ entries, Written retry scope subject Good number errors ending entries ∧
      final.journal.toList = state.journal.toList ++ entries := by
  induction hcourse with
  | ends hends =>
      obtain ⟨inner, hgood, hjournal⟩ := hends.written hjob
      exact ⟨_, .ends hgood, hjournal⟩
  | continues hcontinues _ ih =>
      obtain ⟨inner, hgood, hjournal⟩ := hcontinues.written hjob
      obtain ⟨entries, hwritten, hrest⟩ := ih
      refine ⟨_, .continues hgood hwritten, ?_⟩
      rw [hrest, hjournal, List.append_assoc]

theorem Surroundings.Ends.justified
    (hends : (retry.surroundings repository scope subject job).Ends delay
      retry.policy.maxAttempts.toNat number state ending final) :
    ending.Justified retry number := by
  cases hends with
  | exhausted _ _ _ hspent => exact hspent
  | notRetryable _ _ _ _ hclassify => exact congrArg Prod.fst hclassify
  | _ => trivial

/-- What a retry adds to the journal: its span, the lines of its course, and its
result. -/
theorem adds_perform {span : Span} {jobWithin : Scope → Job σ Unit}
    (hjob : (jobWithin (some span)).Adds Good) :
    (retry.perform repository scope span subject jobWithin).Adds fun result entries =>
      ∃ errors ending lines,
        Written retry (some span) subject Good 1 errors ending lines ∧
        errors.length + 1 ≤ retry.policy.maxAttempts.toNat ∧
        ending.Justified retry (errors.length + 1) ∧
        result = ending.result (errors.length + 1) ∧
        entries = .span span scope :: (lines ++ [.retried (Job.failure? result)]) := by
  refine Job.adds_within (Job.adds_thenNote ?_)
  intro batch
  let surroundings :=
    retry.surroundings repository (some span) subject (jobWithin (some span))
  obtain ⟨errors, ending, final, hcourse, hlength⟩ :=
    surroundings.exists_course retry.policy.delay batch retry.policy.one_le_maxAttempts
  have hrun : surroundings.run retry.policy batch =
      (ending.result (errors.length + 1), final) :=
    hcourse.run_eq
  obtain ⟨lines, hwritten, hjournal⟩ := hcourse.written hjob
  have hjustified : ending.Justified retry (errors.length + 1) := by
    obtain ⟨begun, _, hends⟩ := hcourse.reaches
    rw [Nat.add_comm]
    exact hends.justified
  refine ⟨lines, ?_, errors, ending, lines, hwritten, by omega, hjustified,
    congrArg Prod.fst hrun, rfl⟩
  rw [← hjournal]
  exact congrArg (fun outcome => outcome.2.journal.toList) hrun

end ContentBatch.Retry
