import ContentBatch.Retry.Attempts

/-!
# The course of a retry

A retry calls its surroundings in a fixed order until one of six things ends it.  This
module says which calls a run makes and how it ends, once and for all surroundings;
everything else about retries is read off from here.

* `Ending` lists the six ways in which the last attempt can end a run, with the result
  and the calls that belong to each.
* `Ends` and `Continues` are the two things that an attempt can do, stated on the states
  it goes through. `ends_or_continues` says that there is no third.
* `Course` strings attempts together: all but the last continue, and the last one ends
  the run.

The calls are observed through `recorded`, which lifts surroundings to states with a
log.  The log is out of reach of what is tried, so what it holds is what the retry
itself asked for.

## Main results

* `exists_course`: within the budget every run has a course.
* `Course.attemptsFrom_eq`, `Course.run_eq`: the course determines result and final
  state.
* `Course.recorded`: the log of a course is the concatenation of its rounds and of its
  last calls.
-/

namespace ContentBatch.Retry

/-! ## Calls and endings -/

/-- What a retry asks of its surroundings. -/
inductive Step where
  | invoke
  | revert
  | refresh
  | classify (error : ActionError) (attempt : Nat)
  | pause (delay : Millis)
  deriving DecidableEq

/-- How the last attempt ends a run.  `error` is always the error of that attempt
itself. -/
inductive Ending where
  | succeeded
  | revertFailed (error rollback : ActionError)
  | refreshFailed (error rollback : ActionError)
  | exhausted (error : ActionError)
  | notRetryable (error : ActionError)
  | interrupted (error : ActionError)
  deriving DecidableEq

namespace Ending

/-- The result of a run whose attempt `number` was the last one. -/
def result (number : Nat) : Ending → Except ActionError Unit
  | succeeded => .ok ()
  | revertFailed _ rollback => .error rollback
  | refreshFailed _ rollback => .error rollback
  | exhausted error => .error error
  | notRetryable error => .error error
  | interrupted _ => .error (.interrupted number)

/-- The calls made for the last attempt. -/
def steps (delay : Millis) (number : Nat) : Ending → List Step
  | succeeded => [.invoke]
  | revertFailed _ _ => [.invoke, .revert]
  | refreshFailed _ _ => [.invoke, .revert, .refresh]
  | exhausted _ => [.invoke, .revert, .refresh]
  | notRetryable error => [.invoke, .revert, .refresh, .classify error number]
  | interrupted error =>
    [.invoke, .revert, .refresh, .classify error number, .pause delay]

end Ending

/-- The calls made for failed attempts that were followed by another one, the first of
them numbered `number`. -/
def rounds (delay : Millis) (number : Nat) : List ActionError → List Step
  | [] => []
  | error :: errors =>
    [.invoke, .revert, .refresh, .classify error number, .pause delay]
      ++ rounds delay (number + 1) errors

namespace Surroundings

variable {τ : Type}

/-! ## Surroundings with a log -/

/-- A call that is written into a log. -/
def record {α : Type} (step : Step) (call : τ → α × τ) (state : List Step × τ) :
    α × (List Step × τ) :=
  match call state.2 with
  | (answer, next) => (answer, state.1 ++ [step], next)

/-- The same surroundings, with a log of the calls that are made to them. -/
def recorded (surroundings : Surroundings τ) : Surroundings (List Step × τ) where
  attempt number := record .invoke (surroundings.attempt number)
  revert := record .revert surroundings.revert
  refresh := record .refresh surroundings.refresh
  classify error attempt :=
    record (.classify error attempt) (surroundings.classify error attempt)
  classifierName := surroundings.classifierName
  pause delay := record (.pause delay) (surroundings.pause delay)
  report report state := (state.1, surroundings.report report state.2)

theorem record_eq {α : Type} {call : τ → α × τ} {state next : τ} {answer : α}
    (step : Step) (h : call state = (answer, next)) (log : List Step) :
    record step call (log, state) = (answer, log ++ [step], next) := by
  show (match call state with | (answer, next) => (answer, log ++ [step], next)) = _
  rw [h]

/-! ## One attempt -/

section Attempt

variable (surroundings : Surroundings τ) (delay : Millis) (budget : Nat)

/-- Attempt `number`, begun in `state`, ends the run.  The conditions are tested in the
order of the constructors, each one on the state that the calls before it have left. -/
inductive Ends (number : Nat) (state : τ) : Ending → τ → Prop where
  | succeeded {final : τ} :
      surroundings.attempt number state = (.ok (), final) →
      Ends number state .succeeded
        (if 1 < number then surroundings.report (.succeeded number) final else final)
  | revertFailed {error rollback : ActionError} {failed final : τ} :
      surroundings.attempt number state = (.error error, failed) →
      surroundings.revert failed = (.error rollback, final) →
      Ends number state (.revertFailed error rollback)
        (surroundings.report (.rollbackFailed number error rollback) final)
  | refreshFailed {error rollback : ActionError} {failed reverted final : τ} :
      surroundings.attempt number state = (.error error, failed) →
      surroundings.revert failed = (.ok (), reverted) →
      surroundings.refresh reverted = (.error rollback, final) →
      Ends number state (.refreshFailed error rollback)
        (surroundings.report (.rollbackFailed number error rollback) final)
  | exhausted {error : ActionError} {failed reverted final : τ} :
      surroundings.attempt number state = (.error error, failed) →
      surroundings.revert failed = (.ok (), reverted) →
      surroundings.refresh reverted = (.ok (), final) →
      number = budget →
      Ends number state (.exhausted error)
        (surroundings.report (.exhausted number error) final)
  | notRetryable {error : ActionError} {failed reverted refreshed final : τ} :
      surroundings.attempt number state = (.error error, failed) →
      surroundings.revert failed = (.ok (), reverted) →
      surroundings.refresh reverted = (.ok (), refreshed) →
      number < budget →
      surroundings.classify error number refreshed = (.abort, final) →
      Ends number state (.notRetryable error)
        (surroundings.report
          (.notRetryable number surroundings.classifierName error) final)
  | interrupted {error : ActionError} {failed reverted refreshed judged final : τ} :
      surroundings.attempt number state = (.error error, failed) →
      surroundings.revert failed = (.ok (), reverted) →
      surroundings.refresh reverted = (.ok (), refreshed) →
      number < budget →
      surroundings.classify error number refreshed = (.retry, judged) →
      surroundings.pause delay
        (surroundings.report (.failed (budget - number) error) judged)
        = (false, final) →
      Ends number state (.interrupted error)
        (surroundings.report (.interrupted number) final)

/-- Attempt `number`, begun in `state`, fails with `error`, and the next one begins in
`next`: the session was rolled back, there is budget left, the classifier goes on and
the wait was completed. -/
inductive Continues (number : Nat) (state : τ) (error : ActionError)
    (next : τ) : Prop where
  | intro {failed reverted refreshed judged : τ} :
      surroundings.attempt number state = (.error error, failed) →
      surroundings.revert failed = (.ok (), reverted) →
      surroundings.refresh reverted = (.ok (), refreshed) →
      number < budget →
      surroundings.classify error number refreshed = (.retry, judged) →
      surroundings.pause delay
        (surroundings.report (.failed (budget - number) error) judged)
        = (true, next) →
      Continues number state error next

/-- The attempts from `number` on, begun in `state`: those before the last one fail with
`errors`, and the last one ends the run in `final`. -/
inductive Course : Nat → τ → List ActionError → Ending → τ → Prop where
  | ends {number : Nat} {state final : τ} {ending : Ending} :
      surroundings.Ends delay budget number state ending final →
      Course number state [] ending final
  | continues {number : Nat} {state next final : τ} {error : ActionError}
      {errors : List ActionError} {ending : Ending} :
      surroundings.Continues delay budget number state error next →
      Course (number + 1) next errors ending final →
      Course number state (error :: errors) ending final

/-- The attempts from `number` on, begun in `state`, up to one that begins in `begun`:
all before it fail with `errors`. -/
inductive Reaches : Nat → τ → List ActionError → τ → Prop where
  | here {number : Nat} {state : τ} : Reaches number state [] state
  | continues {number : Nat} {state next begun : τ} {error : ActionError}
      {errors : List ActionError} :
      surroundings.Continues delay budget number state error next →
      Reaches (number + 1) next errors begun →
      Reaches number state (error :: errors) begun

end Attempt

variable {surroundings : Surroundings τ} {delay : Millis} {budget number spare : Nat}
  {state next final : τ} {error : ActionError} {errors : List ActionError}
  {ending : Ending}

/-- An attempt within the budget ends the run or is followed by another one. -/
theorem ends_or_continues (surroundings : Surroundings τ) (delay : Millis) (state : τ)
    (hnumber : number ≤ budget) :
    (∃ ending final, surroundings.Ends delay budget number state ending final) ∨
      ∃ error next, surroundings.Continues delay budget number state error next := by
  rcases hattempt : surroundings.attempt number state with ⟨_ | _, failed⟩
  case ok => exact .inl ⟨_, _, .succeeded hattempt⟩
  rcases hrevert : surroundings.revert failed with ⟨_ | _, reverted⟩
  case error.error => exact .inl ⟨_, _, .revertFailed hattempt hrevert⟩
  rcases hrefresh : surroundings.refresh reverted with ⟨_ | _, refreshed⟩
  case error.ok.error => exact .inl ⟨_, _, .refreshFailed hattempt hrevert hrefresh⟩
  rename_i error _ _
  rcases Nat.lt_or_eq_of_le hnumber with hspare | hspent
  case inr => exact .inl ⟨_, _, .exhausted hattempt hrevert hrefresh hspent⟩
  rcases hclassify : surroundings.classify error number refreshed with ⟨_ | _, judged⟩
  case abort =>
    exact .inl ⟨_, _, .notRetryable hattempt hrevert hrefresh hspare hclassify⟩
  rcases hpause : surroundings.pause delay
      (surroundings.report (.failed (budget - number) error) judged) with ⟨_ | _, next⟩
  case false =>
    exact .inl ⟨_, _, .interrupted hattempt hrevert hrefresh hspare hclassify hpause⟩
  exact .inr ⟨_, _, .intro hattempt hrevert hrefresh hspare hclassify hpause⟩

/-- An attempt ends the run in one way at most. -/
theorem Ends.unique {other : Ending} {otherFinal : τ}
    (hends : surroundings.Ends delay budget number state ending final)
    (hother : surroundings.Ends delay budget number state other otherFinal) :
    ending = other ∧ final = otherFinal := by
  cases hends <;> cases hother <;> simp_all

/-- An attempt that ends the run is not followed by another one. -/
theorem Ends.not_continues
    (hends : surroundings.Ends delay budget number state ending final) :
    ¬ surroundings.Continues delay budget number state error next := by
  rintro ⟨⟩
  cases hends <;> simp_all

theorem Continues.unique {other : ActionError} {otherNext : τ}
    (hcontinues : surroundings.Continues delay budget number state error next)
    (hother : surroundings.Continues delay budget number state other otherNext) :
    error = other ∧ next = otherNext := by
  cases hcontinues
  cases hother
  simp_all

theorem attemptsFrom_of_ends (hbudget : number + spare = budget)
    (hends : surroundings.Ends delay budget number state ending final) :
    surroundings.attemptsFrom delay spare number state =
      (ending.result number, final) := by
  cases hends with
  | succeeded hattempt =>
      unfold attemptsFrom
      rw [hattempt]
      rfl
  | revertFailed hattempt hrevert =>
      unfold attemptsFrom
      simp only [hattempt, rollBack, hrevert]
      rfl
  | refreshFailed hattempt hrevert hrefresh =>
      unfold attemptsFrom
      simp only [hattempt, rollBack, hrevert, hrefresh]
      rfl
  | exhausted hattempt hrevert hrefresh hspent =>
      obtain rfl : spare = 0 := by omega
      unfold attemptsFrom
      simp only [hattempt, rollBack, hrevert, hrefresh]
      rfl
  | notRetryable hattempt hrevert hrefresh hspare hclassify =>
      obtain ⟨spare, rfl⟩ : ∃ rest, spare = rest + 1 := ⟨spare - 1, by omega⟩
      unfold attemptsFrom
      simp only [hattempt, rollBack, hrevert, hrefresh, hclassify]
      rfl
  | interrupted hattempt hrevert hrefresh hspare hclassify hpause =>
      obtain ⟨spare, rfl⟩ : ∃ rest, spare = rest + 1 := ⟨spare - 1, by omega⟩
      have hremaining : budget - number = spare + 1 := by omega
      rw [hremaining] at hpause
      unfold attemptsFrom
      simp only [hattempt, rollBack, hrevert, hrefresh, hclassify, hpause]
      rfl

theorem attemptsFrom_of_continues (hbudget : number + (spare + 1) = budget)
    (hcontinues : surroundings.Continues delay budget number state error next) :
    surroundings.attemptsFrom delay (spare + 1) number state =
      surroundings.attemptsFrom delay spare (number + 1) next := by
  obtain ⟨hattempt, hrevert, hrefresh, _, hclassify, hpause⟩ := hcontinues
  have hremaining : budget - number = spare + 1 := by omega
  rw [hremaining] at hpause
  rw [attemptsFrom]
  simp only [hattempt, rollBack, hrevert, hrefresh, hclassify, hpause]

/-! ## All attempts -/

/-- Within the budget every run has a course, and the course stays within the budget. -/
theorem exists_course (surroundings : Surroundings τ) (delay : Millis) (state : τ)
    (hnumber : number ≤ budget) :
    ∃ errors ending final,
      surroundings.Course delay budget number state errors ending final ∧
      number + errors.length ≤ budget := by
  -- the budget left decreases with every attempt that continues
  induction hspare : budget - number generalizing number state with
  | zero =>
      rcases surroundings.ends_or_continues delay state hnumber with
        ⟨ending, final, hends⟩ | ⟨error, next, hcontinues⟩
      · exact ⟨[], ending, final, .ends hends, hnumber⟩
      · obtain ⟨_, _, _, hbelow, _, _⟩ := hcontinues
        omega
  | succ spare ih =>
      rcases surroundings.ends_or_continues delay state hnumber with
        ⟨ending, final, hends⟩ | ⟨error, next, hcontinues⟩
      · exact ⟨[], ending, final, .ends hends, hnumber⟩
      · obtain ⟨errors, ending, final, hcourse, hlength⟩ :=
          ih next (show number + 1 ≤ budget by omega) (by omega)
        refine ⟨error :: errors, ending, final, .continues hcontinues hcourse, ?_⟩
        rw [List.length_cons]
        omega

/-- A run has one course only. -/
theorem Course.unique {others : List ActionError} {other : Ending} {otherFinal : τ}
    (hcourse : surroundings.Course delay budget number state errors ending final)
    (hother : surroundings.Course delay budget number state others other otherFinal) :
    errors = others ∧ ending = other ∧ final = otherFinal := by
  induction hcourse generalizing others with
  | ends hends =>
      cases hother with
      | ends hends' => exact ⟨rfl, hends.unique hends'⟩
      | continues hcontinues' _ => exact absurd hcontinues' hends.not_continues
  | continues hcontinues hcourse ih =>
      cases hother with
      | ends hends' => exact absurd hcontinues hends'.not_continues
      | continues hcontinues' hcourse' =>
          obtain ⟨rfl, rfl⟩ := hcontinues.unique hcontinues'
          obtain ⟨rfl, hlast⟩ := ih hcourse'
          exact ⟨rfl, hlast⟩

/-- The course of a run determines its result and the state that it leaves. -/
theorem Course.attemptsFrom_eq
    (hcourse : surroundings.Course delay budget number state errors ending final)
    (hbudget : number + spare = budget) :
    surroundings.attemptsFrom delay spare number state =
      (ending.result (number + errors.length), final) := by
  induction hcourse generalizing spare with
  | ends hends => exact attemptsFrom_of_ends hbudget hends
  | @continues number state next final error errors ending hcontinues hcourse ih =>
      have hbelow : number < budget := by
        obtain ⟨_, _, _, hbelow, _, _⟩ := hcontinues
        exact hbelow
      obtain ⟨spare, rfl⟩ : ∃ rest, spare = rest + 1 := ⟨spare - 1, by omega⟩
      rw [attemptsFrom_of_continues hbudget hcontinues, ih (by omega), List.length_cons]
      congr 2
      omega

/-- The course of the attempts that a policy allows is the course of the run. -/
theorem Course.run_eq {policy : RetryPolicy}
    (hcourse : surroundings.Course policy.delay policy.maxAttempts.toNat 1 state
      errors ending final) :
    surroundings.run policy state = (ending.result (errors.length + 1), final) := by
  have hbudget : 1 + (policy.maxAttempts.toNat - 1) = policy.maxAttempts.toNat := by
    have hpos := policy.one_le_maxAttempts
    omega
  unfold run
  rw [hcourse.attemptsFrom_eq hbudget, Nat.add_comm 1]

/-- A course reaches its last attempt, which ends the run. -/
theorem Course.reaches
    (hcourse : surroundings.Course delay budget number state errors ending final) :
    ∃ begun, surroundings.Reaches delay budget number state errors begun ∧
      surroundings.Ends delay budget (number + errors.length) begun ending final := by
  induction hcourse with
  | @ends number state final ending hends => exact ⟨state, .here, hends⟩
  | @continues number state next final error errors ending hcontinues _ ih =>
      obtain ⟨begun, hreaches, hends⟩ := ih
      have hlast : number + (error :: errors).length = number + 1 + errors.length := by
        rw [List.length_cons]
        omega
      rw [hlast]
      exact ⟨begun, .continues hcontinues hreaches, hends⟩

/-! ## What is logged -/

/-- With a log, the last attempt goes as without one, and its calls are logged. -/
theorem Ends.recorded (hends : surroundings.Ends delay budget number state ending final)
    (log : List Step) :
    surroundings.recorded.Ends delay budget number (log, state) ending
      (log ++ ending.steps delay number, final) := by
  cases hends with
  | succeeded hattempt =>
      have hstep :
          surroundings.recorded.Ends delay budget number (log, state) .succeeded _ :=
        .succeeded (record_eq .invoke hattempt log)
      by_cases hlater : 1 < number
      · rw [if_pos hlater] at hstep ⊢
        exact hstep
      · rw [if_neg hlater] at hstep ⊢
        exact hstep
  | @revertFailed error rollback _ _ hattempt hrevert =>
      have hlog : log ++ (Ending.revertFailed error rollback).steps delay number =
          log ++ [.invoke] ++ [.revert] := by
        simp [Ending.steps]
      rw [hlog]
      show surroundings.recorded.Ends _ _ _ _ _ (surroundings.recorded.report _ (_, _))
      exact .revertFailed (record_eq _ hattempt _) (record_eq _ hrevert _)
  | @refreshFailed error rollback _ _ _ hattempt hrevert hrefresh =>
      have hlog : log ++ (Ending.refreshFailed error rollback).steps delay number =
          log ++ [.invoke] ++ [.revert] ++ [.refresh] := by
        simp [Ending.steps]
      rw [hlog]
      show surroundings.recorded.Ends _ _ _ _ _ (surroundings.recorded.report _ (_, _))
      exact .refreshFailed (record_eq _ hattempt _) (record_eq _ hrevert _)
        (record_eq _ hrefresh _)
  | @exhausted error _ _ _ hattempt hrevert hrefresh hspent =>
      have hlog : log ++ (Ending.exhausted error).steps delay number =
          log ++ [.invoke] ++ [.revert] ++ [.refresh] := by
        simp [Ending.steps]
      rw [hlog]
      show surroundings.recorded.Ends _ _ _ _ _ (surroundings.recorded.report _ (_, _))
      exact .exhausted (record_eq _ hattempt _) (record_eq _ hrevert _)
        (record_eq _ hrefresh _)
        hspent
  | @notRetryable error _ _ _ _ hattempt hrevert hrefresh hspare hclassify =>
      have hlog : log ++ (Ending.notRetryable error).steps delay number =
          log ++ [.invoke] ++ [.revert] ++ [.refresh] ++ [.classify error number] := by
        simp [Ending.steps]
      rw [hlog]
      show surroundings.recorded.Ends _ _ _ _ _ (surroundings.recorded.report _ (_, _))
      exact .notRetryable (record_eq _ hattempt _) (record_eq _ hrevert _)
        (record_eq _ hrefresh _)
        hspare (record_eq _ hclassify _)
  | @interrupted error _ _ _ _ _ hattempt hrevert hrefresh hspare hclassify hpause =>
      have hlog : log ++ (Ending.interrupted error).steps delay number =
          log ++ [.invoke] ++ [.revert] ++ [.refresh] ++ [.classify error number]
            ++ [.pause delay] := by
        simp [Ending.steps]
      rw [hlog]
      show surroundings.recorded.Ends _ _ _ _ _ (surroundings.recorded.report _ (_, _))
      refine .interrupted (record_eq _ hattempt _) (record_eq _ hrevert _)
        (record_eq _ hrefresh _)
        hspare (record_eq _ hclassify _) ?_
      exact record_eq _ hpause _

/-- With a log, an attempt that continues goes as without one, and its calls are
logged. -/
theorem Continues.recorded
    (hcontinues : surroundings.Continues delay budget number state error next)
    (log : List Step) :
    surroundings.recorded.Continues delay budget number (log, state) error
      (log ++ rounds delay number [error], next) := by
  obtain ⟨hattempt, hrevert, hrefresh, hspare, hclassify, hpause⟩ := hcontinues
  have hlog : log ++ rounds delay number [error] =
      log ++ [.invoke] ++ [.revert] ++ [.refresh] ++ [.classify error number]
        ++ [.pause delay] := by
    simp [rounds]
  rw [hlog]
  refine .intro (record_eq _ hattempt _) (record_eq _ hrevert _)
    (record_eq _ hrefresh _) hspare
    (record_eq _ hclassify _) ?_
  exact record_eq _ hpause _

/-- The log of a course: the calls of its rounds, and then those of its last attempt. -/
theorem Course.recorded
    (hcourse : surroundings.Course delay budget number state errors ending final)
    (log : List Step) :
    surroundings.recorded.Course delay budget number (log, state) errors ending
      (log ++ rounds delay number errors ++
        ending.steps delay (number + errors.length), final) := by
  induction hcourse generalizing log with
  | ends hends =>
      have hlast := hends.recorded log
      rw [rounds, List.append_nil]
      exact .ends hlast
  | @continues number state next final error errors ending hcontinues hcourse ih =>
      have hrest := ih (log ++ rounds delay number [error])
      have hlog : log ++ rounds delay number (error :: errors) =
          log ++ rounds delay number [error] ++ rounds delay (number + 1) errors := by
        simp [rounds]
      have hlast : number + (error :: errors).length = number + 1 + errors.length := by
        rw [List.length_cons]
        omega
      rw [hlog, hlast]
      exact .continues (hcontinues.recorded log) hrest

end Surroundings

end ContentBatch.Retry
