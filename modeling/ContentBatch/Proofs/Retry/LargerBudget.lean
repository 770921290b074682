import ContentBatch.Proofs.Composition
import ContentBatch.Proofs.Retry.Completion
import ContentBatch.Proofs.Retry.Staging

/-!
# Larger budgets

A retry with a larger budget, and with the same settings otherwise, makes the same calls
as one with a smaller budget until the smaller one is used up.  If something else ends
the run before that, the larger budget makes no difference, so it never turns a success
into a failure.

How many attempts are left is told in reports.  States that are the same up to what was
reported are related by `Same`, and surroundings *go by* it if calls give the same
answers in such states and lead to such states again, whatever is reported in between.
What the surroundings do may depend on everything else that has happened.

On batches, reports are lines of the journal.  The steps of this library read the store
and the turns of rotations alone, so retries go by these if the closures of the host do.

## Main results

* `Surroundings.Course.raise`: what becomes of a course if the budget is raised.
* `Surroundings.run_of_larger_budget`: two runs compared.
* `Work.tracks_run`: work goes by the store and the turns of rotations.
-/

namespace ContentBatch

/-- In states that are the same the step gives the same answer, and leads to states that
are the same. -/
def Tracks {τ α : Type} (Same : τ → τ → Prop) (step : τ → α × τ) : Prop :=
  ∀ state other, Same state other →
    (step other).1 = (step state).1 ∧ Same (step state).2 (step other).2

theorem Tracks.exists_eq {τ α : Type} {Same : τ → τ → Prop} {step : τ → α × τ}
    {state other next : τ} {answer : α} (h : Tracks Same step)
    (hsame : Same state other) (hstep : step state = (answer, next)) :
    ∃ otherNext, step other = (answer, otherNext) ∧ Same next otherNext := by
  obtain ⟨hanswer, hnext⟩ := h state other hsame
  rw [hstep] at hanswer hnext
  exact ⟨(step other).2, Prod.ext hanswer rfl, hnext⟩

namespace Retry

/-- The calls of a course: those of its rounds, and then those of its last attempt. -/
def calls (delay : Millis) (number : Nat) (errors : List ActionError)
    (ending : Ending) : List Step :=
  rounds delay number errors ++ ending.steps delay (number + errors.length)

theorem calls_cons (delay : Millis) (number : Nat) (error : ActionError)
    (errors : List ActionError) (ending : Ending) :
    calls delay number (error :: errors) ending =
      rounds delay number [error] ++ calls delay (number + 1) errors ending := by
  have hlast : number + (error :: errors).length = number + 1 + errors.length := by
    rw [List.length_cons]
    omega
  rw [calls, calls, hlast]
  simp [rounds]

namespace Surroundings

variable {τ : Type} {surroundings : Surroundings τ} {Same : τ → τ → Prop}
  {delay : Millis} {budget larger number : Nat} {state other next final : τ}
  {error : ActionError} {errors : List ActionError} {ending : Ending}

/-- What the surroundings do depends on what `Same` compares, and not on reports. -/
structure GoesBy (surroundings : Surroundings τ) (Same : τ → τ → Prop) : Prop where
  attempt : ∀ number, Tracks Same (surroundings.attempt number)
  revert : Tracks Same surroundings.revert
  refresh : Tracks Same surroundings.refresh
  classify : ∀ error number, Tracks Same (surroundings.classify error number)
  pause : ∀ delay, Tracks Same (surroundings.pause delay)
  report : ∀ first second state other, Same state other →
    Same (surroundings.report first state) (surroundings.report second other)

/-! ## One attempt -/

/-- An attempt that failed and was rolled back, in a state that is the same. -/
theorem GoesBy.rolledBack {failed reverted refreshed : τ} (h : surroundings.GoesBy Same)
    (hsame : Same state other)
    (hattempt : surroundings.attempt number state = (.error error, failed))
    (hrevert : surroundings.revert failed = (.ok (), reverted))
    (hrefresh : surroundings.refresh reverted = (.ok (), refreshed)) :
    ∃ failed' reverted' refreshed',
      surroundings.attempt number other = (.error error, failed') ∧
      surroundings.revert failed' = (.ok (), reverted') ∧
      surroundings.refresh reverted' = (.ok (), refreshed') ∧
      Same refreshed refreshed' := by
  obtain ⟨failed', hattempt', hfailed⟩ := (h.attempt number).exists_eq hsame hattempt
  obtain ⟨reverted', hrevert', hreverted⟩ := h.revert.exists_eq hfailed hrevert
  obtain ⟨refreshed', hrefresh', hrefreshed⟩ := h.refresh.exists_eq hreverted hrefresh
  exact ⟨failed', reverted', refreshed', hattempt', hrevert', hrefresh', hrefreshed⟩

/-- An attempt that failed and is to be tried again, up to the end of the wait.  The
reports before the wait differ, since more attempts are left. -/
theorem GoesBy.waited {failed reverted refreshed judged : τ} {completed : Bool}
    (h : surroundings.GoesBy Same) (budget larger : Nat) (hsame : Same state other)
    (hattempt : surroundings.attempt number state = (.error error, failed))
    (hrevert : surroundings.revert failed = (.ok (), reverted))
    (hrefresh : surroundings.refresh reverted = (.ok (), refreshed))
    (hclassify : surroundings.classify error number refreshed = (.retry, judged))
    (hpause : surroundings.pause delay (surroundings.report
      (.failed (budget - number) error) judged) = (completed, next)) :
    ∃ failed' reverted' refreshed' judged' next',
      surroundings.attempt number other = (.error error, failed') ∧
      surroundings.revert failed' = (.ok (), reverted') ∧
      surroundings.refresh reverted' = (.ok (), refreshed') ∧
      surroundings.classify error number refreshed' = (.retry, judged') ∧
      surroundings.pause delay
        (surroundings.report (.failed (larger - number) error) judged') =
        (completed, next') ∧ Same next next' := by
  obtain ⟨failed', reverted', refreshed', hattempt', hrevert', hrefresh', hrefreshed⟩ :=
    h.rolledBack hsame hattempt hrevert hrefresh
  obtain ⟨judged', hclassify', hjudged⟩ :=
    (h.classify error number).exists_eq hrefreshed hclassify
  have hreported := h.report (.failed (budget - number) error)
    (.failed (larger - number) error) _ _ hjudged
  obtain ⟨next', hpause', hnext⟩ := (h.pause delay).exists_eq hreported hpause
  exact ⟨failed', reverted', refreshed', judged', next', hattempt', hrevert',
    hrefresh', hclassify', hpause', hnext⟩

/-- An attempt that continues does so with a larger budget. -/
theorem Continues.raise (h : surroundings.GoesBy Same) (hbudget : budget ≤ larger)
    (hsame : Same state other)
    (hcontinues : surroundings.Continues delay budget number state error next) :
    ∃ otherNext, surroundings.Continues delay larger number other error otherNext ∧
      Same next otherNext := by
  obtain ⟨hattempt, hrevert, hrefresh, hspare, hclassify, hpause⟩ := hcontinues
  obtain ⟨_, _, _, _, otherNext, hattempt', hrevert', hrefresh', hclassify',
      hpause', hnext⟩ :=
    h.waited budget larger hsame hattempt hrevert hrefresh hclassify hpause
  exact ⟨otherNext, .intro hattempt' hrevert' hrefresh' (by omega) hclassify' hpause',
    hnext⟩

/-- An attempt that ends the run does so with a larger budget, unless it was the last
one of the budget. -/
theorem Ends.raise (h : surroundings.GoesBy Same) (hbudget : budget ≤ larger)
    (hspent : budget = larger ∨ ∀ error, ending ≠ .exhausted error)
    (hsame : Same state other)
    (hends : surroundings.Ends delay budget number state ending final) :
    ∃ otherFinal, surroundings.Ends delay larger number other ending otherFinal ∧
      Same final otherFinal := by
  cases hends with
  | succeeded hattempt =>
      obtain ⟨_, hattempt', hfinal⟩ := (h.attempt number).exists_eq hsame hattempt
      refine ⟨_, .succeeded hattempt', ?_⟩
      by_cases hlater : 1 < number
      · rw [if_pos hlater, if_pos hlater]
        exact h.report _ _ _ _ hfinal
      · rw [if_neg hlater, if_neg hlater]
        exact hfinal
  | revertFailed hattempt hrevert =>
      obtain ⟨_, hattempt', hfailed⟩ := (h.attempt number).exists_eq hsame hattempt
      obtain ⟨_, hrevert', hfinal⟩ := h.revert.exists_eq hfailed hrevert
      exact ⟨_, .revertFailed hattempt' hrevert', h.report _ _ _ _ hfinal⟩
  | refreshFailed hattempt hrevert hrefresh =>
      obtain ⟨_, hattempt', hfailed⟩ := (h.attempt number).exists_eq hsame hattempt
      obtain ⟨_, hrevert', hreverted⟩ := h.revert.exists_eq hfailed hrevert
      obtain ⟨_, hrefresh', hfinal⟩ := h.refresh.exists_eq hreverted hrefresh
      exact ⟨_, .refreshFailed hattempt' hrevert' hrefresh', h.report _ _ _ _ hfinal⟩
  | @exhausted error _ _ _ hattempt hrevert hrefresh hlast =>
      rcases hspent with hspent | hspent
      · obtain ⟨_, _, _, hattempt', hrevert', hrefresh', hfinal⟩ :=
          h.rolledBack hsame hattempt hrevert hrefresh
        exact ⟨_, .exhausted hattempt' hrevert' hrefresh' (hlast.trans hspent),
          h.report _ _ _ _ hfinal⟩
      · exact absurd rfl (hspent error)
  | notRetryable hattempt hrevert hrefresh hspare hclassify =>
      obtain ⟨_, _, _, hattempt', hrevert', hrefresh', hrefreshed⟩ :=
        h.rolledBack hsame hattempt hrevert hrefresh
      obtain ⟨_, hclassify', hfinal⟩ :=
        (h.classify _ number).exists_eq hrefreshed hclassify
      exact ⟨_, .notRetryable hattempt' hrevert' hrefresh' (by omega) hclassify',
        h.report _ _ _ _ hfinal⟩
  | interrupted hattempt hrevert hrefresh hspare hclassify hpause =>
      obtain ⟨_, _, _, _, _, hattempt', hrevert', hrefresh', hclassify',
          hpause', hfinal⟩ :=
        h.waited budget larger hsame hattempt hrevert hrefresh hclassify hpause
      exact ⟨_, .interrupted hattempt' hrevert' hrefresh' (by omega) hclassify' hpause',
        h.report _ _ _ _ hfinal⟩

/-- A course from an attempt that fails and is reverted begins with the calls for that,
and with a refresh. -/
theorem Course.calls_of_reverted {failed reverted : τ}
    (hattempt : surroundings.attempt number state = (.error error, failed))
    (hrevert : surroundings.revert failed = (.ok (), reverted))
    (hcourse : surroundings.Course delay budget number state errors ending final) :
    [.invoke, .revert, .refresh] <+: calls delay number errors ending := by
  cases hcourse with
  | ends hends => cases hends <;> simp_all [calls, rounds, Ending.steps]
  | continues _ _ => simp [calls, rounds]

/-! ## All attempts -/

/-- With a larger budget a course goes on with the same calls.  It is the same course if
it was not ended by its budget. -/
theorem Course.raise (h : surroundings.GoesBy Same) (hbudget : budget ≤ larger)
    (hcourse : surroundings.Course delay budget number state errors ending final)
    (hsame : Same state other) :
    ∃ others otherEnding otherFinal,
      surroundings.Course delay larger number other others otherEnding otherFinal ∧
      calls delay number errors ending <+: calls delay number others otherEnding ∧
      ((budget = larger ∨ ∀ error, ending ≠ .exhausted error) →
        others = errors ∧ otherEnding = ending ∧ Same final otherFinal) := by
  induction hcourse generalizing other with
  | @ends number state final ending hends =>
      by_cases hspent : budget = larger ∨ ∀ error, ending ≠ .exhausted error
      · obtain ⟨otherFinal, hends', hfinal⟩ := hends.raise h hbudget hspent hsame
        exact ⟨[], ending, otherFinal, .ends hends', List.prefix_rfl,
          fun _ => ⟨rfl, rfl, hfinal⟩⟩
      · obtain ⟨error, rfl⟩ : ∃ error, ending = .exhausted error := by
          apply Classical.byContradiction
          intro hother
          exact hspent (.inr fun error heq => hother ⟨error, heq⟩)
        -- the smaller budget is used up; whatever comes of the larger one, the session
        -- is rolled back first
        cases hends with
        | exhausted hattempt hrevert hrefresh hlast =>
            obtain ⟨_, hattempt', hfailed⟩ :=
              (h.attempt number).exists_eq hsame hattempt
            obtain ⟨_, hrevert', -⟩ := h.revert.exists_eq hfailed hrevert
            obtain ⟨others, otherEnding, otherFinal, hcourse, -⟩ :=
              surroundings.exists_course delay other (show number ≤ larger by omega)
            exact ⟨others, otherEnding, otherFinal, hcourse,
              hcourse.calls_of_reverted hattempt' hrevert',
              fun hnot => absurd hnot hspent⟩
  | @continues number state next final error errors ending hcontinues _ ih =>
      obtain ⟨otherNext, hcontinues', hnext⟩ := hcontinues.raise h hbudget hsame
      obtain ⟨others, otherEnding, otherFinal, hcourse, hcalls, hequal⟩ := ih hnext
      refine ⟨error :: others, otherEnding, otherFinal,
        .continues hcontinues' hcourse, ?_, ?_⟩
      · rw [calls_cons, calls_cons]
        exact (List.prefix_append_right_inj _).2 hcalls
      · intro hspent
        obtain ⟨hothers, hrest⟩ := hequal hspent
        exact ⟨congrArg (error :: ·) hothers, hrest⟩

/-- A budget is used up by as many attempts. -/
theorem Course.length_of_exhausted
    (hcourse : surroundings.Course delay budget number state errors
      (.exhausted error) final) :
    number + errors.length = budget := by
  obtain ⟨begun, -, hends⟩ := hcourse.reaches
  cases hends with
  | exhausted _ _ _ hlast => exact hlast

/-- A larger budget is seen only once the smaller one is used up. -/
theorem Course.raise_cases (h : surroundings.GoesBy Same) (hbudget : budget ≤ larger)
    (hcourse : surroundings.Course delay budget number state errors ending final)
    (hsame : Same state other) :
    ∃ others otherEnding otherFinal,
      surroundings.Course delay larger number other others otherEnding otherFinal ∧
      calls delay number errors ending <+: calls delay number others otherEnding ∧
      ((∃ error, ending = .exhausted error ∧ number + errors.length = budget) ∨
        (∀ error, ending ≠ .exhausted error) ∧
          others = errors ∧ otherEnding = ending ∧ Same final otherFinal) := by
  obtain ⟨others, otherEnding, otherFinal, hcourse', hcalls, hequal⟩ :=
    hcourse.raise h hbudget hsame
  refine ⟨others, otherEnding, otherFinal, hcourse', hcalls, ?_⟩
  by_cases hending : ∃ error, ending = .exhausted error
  · obtain ⟨error, rfl⟩ := hending
    exact .inl ⟨error, rfl, hcourse.length_of_exhausted⟩
  · have hending : ∀ error, ending ≠ .exhausted error :=
      fun error heq => hending ⟨error, heq⟩
    exact .inr ⟨hending, hequal (.inr hending)⟩

/-- The run of a course with a log: its result, its calls and the state that it
leaves. -/
theorem Course.recorded_run {policy : RetryPolicy}
    (hcourse : surroundings.Course policy.delay policy.maxAttempts.toNat 1 state
      errors ending final) :
    surroundings.recorded.run policy ([], state) =
      (ending.result (errors.length + 1),
        calls policy.delay 1 errors ending, final) := by
  rw [(hcourse.recorded []).run_eq, List.nil_append, calls]

end Surroundings

end Retry

/-! ## Batches -/

/-- Batches that differ in their journals at most. -/
structure Batch.Alike {σ : Type} (batch other : Batch σ) : Prop where
  store_eq : other.store = batch.store
  turns_eq : other.turns = batch.turns

namespace Job

variable {σ α β : Type} {scope : Scope} {span : Span}

theorem tracks_pure (value : α) : Tracks Batch.Alike (pure value : Job σ α) :=
  fun _ _ halike => ⟨rfl, halike⟩

theorem tracks_note (entry : Entry) : Tracks Batch.Alike (note entry : Job σ Unit) :=
  fun _ _ halike => ⟨rfl, halike.store_eq, halike.turns_eq⟩

theorem tracks_bind {first : Job σ α} {next : α → Job σ β}
    (hfirst : Tracks Batch.Alike first)
    (hnext : ∀ value, Tracks Batch.Alike (next value)) :
    Tracks Batch.Alike (first >>= next) := by
  intro batch other halike
  rw [bind_apply, bind_apply]
  rcases hresult : first batch with ⟨error | value, middle⟩
  all_goals
    obtain ⟨otherMiddle, hother, hmiddle⟩ := hfirst.exists_eq halike hresult
    rw [hother]
  case error => exact ⟨rfl, hmiddle⟩
  case ok => exact hnext value middle otherMiddle hmiddle

theorem tracks_ask (repository : Repository σ) (call : Call) :
    Tracks Batch.Alike (ask repository call) := by
  intro batch other halike
  unfold ask
  rw [halike.store_eq]
  exact ⟨rfl, rfl, halike.turns_eq⟩

theorem tracks_within {steps : Scope → Job σ α}
    (hsteps : Tracks Batch.Alike (steps (some span))) :
    Tracks Batch.Alike (within scope span steps) :=
  tracks_bind (tracks_note _) fun _ => hsteps

theorem tracks_thenNote {steps : Job σ α} (hsteps : Tracks Batch.Alike steps)
    (entry : Except ActionError α → Entry) :
    Tracks Batch.Alike (thenNote steps entry) := by
  intro batch other halike
  obtain ⟨hresult, hfinal⟩ := hsteps batch other halike
  exact ⟨hresult, hfinal.store_eq, hfinal.turns_eq⟩

/-- No step of this library reads the journal. -/
theorem inherited_tracks (repository : Repository σ) (allowed : Call → Prop) :
    Inherited repository allowed fun _ job => Tracks Batch.Alike job where
  pure := tracks_pure
  bind := tracks_bind
  emit _ _ := tracks_note _
  draw rotation batch other halike := by
    unfold draw
    rw [halike.turns_eq]
    exact ⟨rfl, halike.store_eq, rfl⟩
  call call _ := tracks_ask repository call
  within _ := tracks_within
  withinAsset _ hrest := by
    refine tracks_within (tracks_bind (tracks_bind (tracks_ask repository _) ?_) hrest)
    intro found
    cases found with
    | none => exact fun _ _ halike => ⟨rfl, halike⟩
    | some asset => exact tracks_pure asset

end Job

namespace Retry

variable {σ : Type}

/-- A retry goes by the store and the turns of rotations, if its job does. -/
theorem surroundings_goesBy (retry : Retry) (repository : Repository σ) (scope : Scope)
    (subject : String) {job : Job σ Unit} (hjob : Tracks Batch.Alike job) :
    (retry.surroundings repository scope subject job).GoesBy Batch.Alike where
  attempt _ := Job.tracks_bind (Job.tracks_note _) fun _ => Job.tracks_thenNote hjob _
  revert := Job.tracks_ask repository .revert
  refresh := Job.tracks_ask repository .refresh
  classify _ _ _ _ halike := ⟨rfl, halike.store_eq, halike.turns_eq⟩
  pause delay batch other halike := by
    unfold surroundings
    simp only [halike.store_eq, true_and]
    exact ⟨rfl, halike.turns_eq⟩
  report _ _ _ _ halike := ⟨halike.store_eq, halike.turns_eq⟩

/-- A retry is a step that goes by the store and the turns of rotations. -/
theorem tracks_perform (retry : Retry) (repository : Repository σ) (scope : Scope)
    (span : Span) (subject : String) {job : Scope → Job σ Unit}
    (hjob : Tracks Batch.Alike (job (some span))) :
    Tracks Batch.Alike (retry.perform repository scope span subject job) := by
  refine Job.tracks_within (Job.tracks_thenNote ?_ _)
  intro batch other halike
  have hgoes := retry.surroundings_goesBy repository (some span) subject hjob
  obtain ⟨errors, ending, final, hcourse, -⟩ :=
    (retry.surroundings repository (some span) subject (job (some span))).exists_course
      retry.policy.delay batch retry.policy.one_le_maxAttempts
  obtain ⟨others, otherEnding, otherFinal, hcourse', -, hequal⟩ :=
    hcourse.raise hgoes (Nat.le_refl _) halike
  obtain ⟨rfl, rfl, hfinal⟩ := hequal (.inl rfl)
  rw [hcourse.run_eq, hcourse'.run_eq]
  exact ⟨rfl, hfinal⟩

end Retry

/-- Work goes by the store and the turns of rotations, if the closures of the host
do. -/
theorem Work.tracks_run {σ : Type} (repository : Repository σ) (work : Work σ)
    (hclosures : work.Closures fun _ job => Tracks Batch.Alike job) (scope : Scope) :
    Tracks Batch.Alike (work.run repository scope) := by
  apply work.inherits (Job.inherited_tracks repository _) hclosures
  intro retry scope span subject job hjob
  exact retry.tracks_perform repository scope span subject hjob

/-! ## Two runs -/

/-- Two runs, the second with a budget that is at least as large, and with the same
delay.  The calls of the first are the first calls of the second, and if the first
succeeds, so does the second.  Either the budget of the first was used up, or its
result, its calls and the state that it leaves are those of the second. -/
theorem Retry.Surroundings.run_of_larger_budget {τ : Type}
    {surroundings : Retry.Surroundings τ} {Same : τ → τ → Prop} {state other : τ}
    (h : surroundings.GoesBy Same) {smaller larger : RetryPolicy}
    (hdelay : larger.delay = smaller.delay)
    (hbudget : smaller.maxAttempts ≤ larger.maxAttempts) (hsame : Same state other) :
    let short := surroundings.recorded.run smaller ([], state)
    let long := surroundings.recorded.run larger ([], other)
    short.2.1 <+: long.2.1 ∧ (short.1 = .ok () → long.1 = .ok ()) ∧
      ∃ errors ending final,
        surroundings.Course smaller.delay smaller.maxAttempts.toNat 1 state
          errors ending final ∧
        ((∃ error, ending = .exhausted error ∧
          errors.length + 1 = smaller.maxAttempts.toNat) ∨
          (∀ error, ending ≠ .exhausted error) ∧
            long.1 = short.1 ∧ long.2.1 = short.2.1 ∧ Same short.2.2 long.2.2) := by
  intro short long
  obtain ⟨errors, ending, final, hcourse, -⟩ :=
    surroundings.exists_course smaller.delay state smaller.one_le_maxAttempts
  obtain ⟨others, otherEnding, otherFinal, hcourse', hcalls, hcases⟩ :=
    hcourse.raise_cases h (UInt32.le_iff_toNat_le.1 hbudget) hsame
  rw [← hdelay] at hcourse'
  have hshort : short = _ := hcourse.recorded_run
  have hlong : long = _ := hcourse'.recorded_run
  rw [hshort, hlong, hdelay]
  rcases hcases with ⟨error, rfl, hlast⟩ | ⟨hending, rfl, rfl, hfinal⟩
  · have hfails : Ending.result (errors.length + 1) (.exhausted error) ≠ .ok () := nofun
    exact ⟨hcalls, fun hok => absurd hok hfails, errors,
      .exhausted error, final, hcourse, .inl ⟨error, rfl, by omega⟩⟩
  · exact ⟨hcalls, id, others, otherEnding, final, hcourse,
      .inr ⟨hending, rfl, rfl, hfinal⟩⟩

/-- An activation that fails twice, with budgets of two and of four attempts.  The
second run begins with the calls of the first one, and goes on to succeed. -/
theorem Ledger.activation_of_larger_budget :
    let action : Action Ledger := .replicate .activate .platform
    let smaller : RetryPolicy := ⟨2, 0, by decide⟩
    let larger : RetryPolicy := ⟨4, 0, by decide⟩
    let retry : Retry := { policy := smaller }
    let surroundings :=
      retry.surroundings repository none "/a" (action.apply repository none "/a")
    let start : Batch Ledger := { store := { script := [false, false, true] } }
    let short := surroundings.recorded.run smaller ([], start)
    let long := surroundings.recorded.run larger ([], start)
    (surroundings.GoesBy Batch.Alike ∧ larger.delay = smaller.delay ∧
        smaller.maxAttempts ≤ larger.maxAttempts ∧ start.Alike start) ∧
      short.2.1 <+: long.2.1 ∧ short.2.1.length = 8 ∧ long.2.1.length = 11 ∧
      Job.failure? short.1 = some (.session "conflict") ∧
      Job.failure? long.1 = none := by
  intro action smaller larger retry surroundings start
  have hjob := Work.tracks_run repository (.bound action "/a") trivial none
  have hgoes : surroundings.GoesBy Batch.Alike :=
    retry.surroundings_goesBy repository none "/a" hjob
  have hdelay : larger.delay = smaller.delay := rfl
  have hbudget : smaller.maxAttempts ≤ larger.maxAttempts := by decide
  have halike : start.Alike start := ⟨rfl, rfl⟩
  have hrun := Retry.Surroundings.run_of_larger_budget hgoes hdelay hbudget halike
  refine ⟨⟨hgoes, hdelay, hbudget, halike⟩, hrun.1, ?_⟩
  decide +kernel

end ContentBatch
