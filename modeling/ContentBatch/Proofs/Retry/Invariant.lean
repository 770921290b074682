import ContentBatch.Proofs.Composition
import ContentBatch.Proofs.Retry.Completion

/-!
# What a retry keeps

A relation that a job respects is respected by a retry of the job if the rollback, the
waits and what is written into the journal respect it as well.  This is so for a whole
run, for the attempts up to any one of them, and for each single attempt, so it can be
said of every state in which an attempt begins.

`Job.Composable` says what is known of calls, spans and events.  `Retryable` says the
rest.

## Main results

* `Surroundings.Reaches.respects`: every attempt begins in a state that is related to
  the first one.
* `perform_respects`: the run as a whole respects what its job respects.
* `perform_eq_ok`: a run that succeeds ends with an attempt that succeeds, begun in a
  related state.
-/

namespace ContentBatch

/-- Whether an entry is about a call of the repository. -/
def Entry.isCall : Entry → Bool
  | call _ _ => true
  | _ => false

namespace Retry

variable {σ : Type}

/-- What a retry does besides its attempts respects the relation: it rolls back, it
waits, and it takes notes, none of which is about a call. -/
structure Retryable (repository : Repository σ)
    (R : Batch σ → Batch σ → Prop) : Prop where
  revert : (Job.ask repository .revert).Respects R
  refresh : (Job.ask repository .refresh).Respects R
  sleep :
      ∀ delay batch, R batch { batch with store := repository.sleep delay batch.store }
  sleepUnless : ∀ token delay batch,
    R batch { batch with store := (repository.sleepUnless token delay batch.store).2 }
  note : ∀ entry, entry.isCall = false → (Job.note entry).Respects R

variable {retry : Retry} {repository : Repository σ} {allowed : Call → Prop}
  {R : Batch σ → Batch σ → Prop} {scope : Scope} {subject : String} {job : Job σ Unit}
  {number budget : Nat} {delay : Millis} {state next begun final : Batch σ}
  {error : ActionError} {errors : List ActionError} {ending : Ending}

namespace Retryable

section Report

variable (hretryable : Retryable repository R)

include hretryable

theorem report (retry : Retry) (scope : Scope) (subject : String) (job : Job σ Unit)
    (report : Report) (batch : Batch σ) :
    R batch ((retry.surroundings repository scope subject job).report report batch) :=
  hretryable.note (.event (.retry subject report) scope) rfl batch

theorem classify (retry : Retry) (scope : Scope) (subject : String) (job : Job σ Unit)
    (error : ActionError) (number : Nat) (batch : Batch σ) :
    R batch ((retry.surroundings repository scope subject job).classify error
      number batch).2 :=
  hretryable.note (.decision retry.classifier error number) rfl batch

end Report

variable (hR : Job.Composable repository allowed R)
  (hretryable : Retryable repository R)

include hR hretryable

theorem attempt (hjob : job.Respects R) (number : Nat) :
    (asAttempt number job).Respects R := by
  refine hR.bind (hretryable.note (.attempt number) rfl) ?_
  intro _ batch
  exact hR.trans _ _ _ (hjob batch)
    (hretryable.note (.attempted number _) rfl (job batch).2)

theorem pause (retry : Retry) (scope : Scope) (subject : String) (job : Job σ Unit)
    (delay : Millis) (batch : Batch σ) :
    R batch
      ((retry.surroundings repository scope subject job).pause delay batch).2 := by
  have hwait :
      R batch { batch with store := (retry.wait repository delay batch.store).2 } := by
    unfold wait
    cases retry.token with
    | none => exact hretryable.sleep delay batch
    | some token => exact hretryable.sleepUnless token delay batch
  exact hR.trans _ _ _ hwait (hretryable.note (.pause delay retry.token _) rfl _)

end Retryable

section Run

variable (hR : Job.Composable repository allowed R)
  (hretryable : Retryable repository R) (hjob : job.Respects R)

include hR hretryable hjob

/-- A failed attempt and what was done of the rollback after it. -/
theorem reverted_respects {failed reverted : Batch σ}
    {outcome : Except ActionError Unit}
    (hattempt : (retry.surroundings repository scope subject job).attempt number state =
      (.error error, failed))
    (hrevert : (retry.surroundings repository scope subject job).revert failed =
      (outcome, reverted)) :
    R state reverted := by
  obtain ⟨_, rfl⟩ := Prod.mk.inj hattempt
  obtain ⟨_, rfl⟩ := Prod.mk.inj hrevert
  exact hR.trans _ _ _ (hretryable.attempt hR hjob number state) (hretryable.revert _)

/-- A failed attempt and the rollback after it. -/
theorem refreshed_respects {failed reverted refreshed : Batch σ}
    {outcome : Except ActionError Unit}
    (hattempt : (retry.surroundings repository scope subject job).attempt number state =
      (.error error, failed))
    (hrevert : (retry.surroundings repository scope subject job).revert failed =
      (.ok (), reverted))
    (hrefresh : (retry.surroundings repository scope subject job).refresh reverted =
      (outcome, refreshed)) :
    R state refreshed := by
  obtain ⟨_, rfl⟩ := Prod.mk.inj hrefresh
  exact hR.trans _ _ _ (reverted_respects hR hretryable hjob hattempt hrevert)
    (hretryable.refresh _)

/-- A failed attempt, the rollback, the verdict on the error and the wait. -/
theorem paused_respects {failed reverted refreshed judged paused : Batch σ}
    {decision : Decision} {completed : Bool} {report : Report}
    (hattempt : (retry.surroundings repository scope subject job).attempt number state =
      (.error error, failed))
    (hrevert : (retry.surroundings repository scope subject job).revert failed =
      (.ok (), reverted))
    (hrefresh : (retry.surroundings repository scope subject job).refresh reverted =
      (.ok (), refreshed))
    (hclassify : (retry.surroundings repository scope subject job).classify error number
      refreshed = (decision, judged))
    (hpause : (retry.surroundings repository scope subject job).pause delay
      ((retry.surroundings repository scope subject job).report report judged) =
      (completed, paused)) :
    R state paused := by
  have hrefreshed := refreshed_respects hR hretryable hjob hattempt hrevert hrefresh
  have hjudged := hretryable.classify retry scope subject job error number refreshed
  rw [hclassify] at hjudged
  have hreported := hretryable.report retry scope subject job report judged
  have hpaused := hretryable.pause hR retry scope subject job delay
    ((retry.surroundings repository scope subject job).report report judged)
  rw [hpause] at hpaused
  exact hR.trans _ _ _ hrefreshed
    (hR.trans _ _ _ hjudged (hR.trans _ _ _ hreported hpaused))

theorem Surroundings.Continues.respects
    (hcontinues : (retry.surroundings repository scope subject job).Continues delay
      budget number state error next) :
    R state next := by
  obtain ⟨hattempt, hrevert, hrefresh, _, hclassify, hpause⟩ := hcontinues
  exact paused_respects hR hretryable hjob hattempt hrevert hrefresh hclassify hpause

theorem Surroundings.Ends.respects
    (hends : (retry.surroundings repository scope subject job).Ends delay budget number
      state ending final) :
    R state final := by
  have hreport := hretryable.report retry scope subject job
  cases hends with
  | @succeeded done hattempt =>
      obtain ⟨_, rfl⟩ := Prod.mk.inj hattempt
      have hdone := hretryable.attempt hR hjob number state
      by_cases hlater : 1 < number
      · rw [if_pos hlater]
        exact hR.trans _ _ _ hdone (hreport _ _)
      · rw [if_neg hlater]
        exact hdone
  | revertFailed hattempt hrevert =>
      exact hR.trans _ _ _ (reverted_respects hR hretryable hjob hattempt hrevert)
        (hreport _ _)
  | refreshFailed hattempt hrevert hrefresh =>
      exact hR.trans _ _ _
        (refreshed_respects hR hretryable hjob hattempt hrevert hrefresh)
        (hreport _ _)
  | exhausted hattempt hrevert hrefresh _ =>
      exact hR.trans _ _ _
        (refreshed_respects hR hretryable hjob hattempt hrevert hrefresh)
        (hreport _ _)
  | @notRetryable error _ _ refreshed _ hattempt hrevert hrefresh _ hclassify =>
      have hjudged := hretryable.classify retry scope subject job error number refreshed
      rw [hclassify] at hjudged
      exact hR.trans _ _ _
        (refreshed_respects hR hretryable hjob hattempt hrevert hrefresh)
        (hR.trans _ _ _ hjudged (hreport _ _))
  | interrupted hattempt hrevert hrefresh _ hclassify hpause =>
      exact hR.trans _ _ _
        (paused_respects hR hretryable hjob hattempt hrevert hrefresh hclassify hpause)
          (hreport _ _)

/-- Every attempt begins in a state that is related to the one in which the first
attempt began. -/
theorem Surroundings.Reaches.respects
    (hreaches : (retry.surroundings repository scope subject job).Reaches delay budget
      number state errors begun) :
    R state begun := by
  induction hreaches with
  | here => exact hR.refl _
  | continues hcontinues _ ih =>
      exact hR.trans _ _ _ (hcontinues.respects hR hretryable hjob) ih

end Run

/-- A retry respects what its job respects. -/
theorem perform_respects (hR : Job.Composable repository allowed R)
    (hretryable : Retryable repository R) (retry : Retry) (scope : Scope) (span : Span)
    (subject : String) {job : Scope → Job σ Unit}
    (hjob : (job (some span)).Respects R) :
    (retry.perform repository scope span subject job).Respects R := by
  intro batch
  obtain ⟨errors, ending, final, hcourse, _, houtcome, _⟩ :=
    perform_completes retry repository scope span subject job batch
  obtain ⟨begun, hreaches, hends⟩ := hcourse.reaches
  rw [houtcome]
  have hopened := hR.span span scope batch
  have hbegun := hreaches.respects hR hretryable hjob
  have hfinal := hends.respects hR hretryable hjob
  have hnoted := hretryable.note
    (.retried (Job.failure? (ending.result (errors.length + 1)))) rfl final
  exact hR.trans _ _ _ hopened (hR.trans _ _ _ hbegun (hR.trans _ _ _ hfinal hnoted))

/-- A retry that succeeds does so with an attempt that is begun in a related state, and
leaves the store as that attempt does. -/
theorem perform_eq_ok (hR : Job.Composable repository allowed R)
    (hretryable : Retryable repository R) {span : Span} {job : Scope → Job σ Unit}
    (hjob : (job (some span)).Respects R)
    (hok : retry.perform repository scope span subject job state = (.ok (), final)) :
    ∃ begun done, R state begun ∧ job (some span) begun = (.ok (), done) ∧
      final.store = done.store := by
  obtain ⟨errors, ending, last, hcourse, _, houtcome, _⟩ :=
    perform_completes retry repository scope span subject job state
  rw [hok] at houtcome
  obtain ⟨hresult, rfl⟩ := Prod.mk.inj houtcome
  obtain ⟨begun, hreaches, hends⟩ := hcourse.reaches
  have hopened := hR.span span scope state
  have hbegun := hreaches.respects hR hretryable hjob
  have hnoted := hretryable.note (.attempt (1 + errors.length)) rfl begun
  cases hends with
  | @succeeded attempted hattempt =>
      obtain ⟨hanswer, rfl⟩ := Prod.mk.inj hattempt
      have hdone : job (some span) (Job.note (.attempt (1 + errors.length)) begun).2 =
          (.ok (),
            (job (some span) (Job.note (.attempt (1 + errors.length)) begun).2).2) :=
        Prod.ext hanswer rfl
      refine ⟨_, _, hR.trans _ _ _ hopened (hR.trans _ _ _ hbegun hnoted), hdone, ?_⟩
      by_cases hlater : 1 < 1 + errors.length
      · rw [if_pos hlater]
        rfl
      · rw [if_neg hlater]
        rfl
  | _ => cases hresult

end Retry

end ContentBatch
