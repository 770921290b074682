import ContentBatch.Proofs.Retry.Course
import ContentBatch.Proofs.Retry.Diary

/-!
# The counters of a retry

`attemptsFrom` counts attempts with natural numbers and is given how many may still
follow.  The attempts can also be counted with two machine words, as a loop does that
knows nothing of either bound: one word goes up at the head of an iteration, before the
attempt, and the other goes down after the rollback.  Both steps are checked here, and
an iteration that would leave the range of a word has no outcome but `overflows`.

The words move in opposite directions and at different points, so their sum is the
budget only at the head of an iteration.  That sum, with at least one attempt remaining,
is the invariant `Counters.Within`: it keeps the first word below the budget, which is a
word itself, and the second one above zero.

* `iterate` is one iteration, and `loop` repeats it until it ends.
* `AtHead` tells with which words an iteration begins.

## Main results

* `iterate_of_ends`, `iterate_of_continues`: within the budget, an iteration does what
  the attempt does.
* `AtHead.within`: the invariant, at the head of every iteration.
* `exists_last_iteration`: some iteration ends the run, and the loop with checked words
  is the run.
* `counters_within_budget`: the counters of all runs of all policies.
-/

namespace ContentBatch.Retry

/-! ## Words with checked steps -/

/-- The next word, unless this is the greatest one. -/
def succ? (word : UInt32) : Option UInt32 :=
  if word.toNat + 1 < UInt32.size then some (word + 1) else none

/-- The word before, unless this is zero. -/
def pred? (word : UInt32) : Option UInt32 :=
  if 0 < word then some (word - 1) else none

theorem succ?_eq_some {word : UInt32} (h : word.toNat + 1 < UInt32.size) :
    ∃ next, succ? word = some next ∧ next.toNat = word.toNat + 1 := by
  refine ⟨word + 1, if_pos h, ?_⟩
  rw [UInt32.toNat_add]
  exact Nat.mod_eq_of_lt h

theorem pred?_eq_some {word : UInt32} (h : 1 ≤ word.toNat) :
    ∃ before, pred? word = some before ∧ before.toNat + 1 = word.toNat := by
  have hpos : 0 < word := UInt32.lt_iff_toNat_lt.2 h
  have hle : 1 ≤ word := UInt32.le_iff_toNat_le.2 h
  refine ⟨word - 1, if_pos hpos, ?_⟩
  rw [UInt32.toNat_sub_of_le word 1 hle]
  exact Nat.sub_add_cancel h

/-- A step down leads to a smaller word. -/
theorem toNat_lt_of_pred?_eq_some {word before : UInt32}
    (h : pred? word = some before) :
    before.toNat < word.toNat := by
  by_cases hpos : 0 < word
  · have hone : 1 ≤ word.toNat := UInt32.lt_iff_toNat_lt.1 hpos
    obtain ⟨other, hother, hnext⟩ := pred?_eq_some hone
    rw [h] at hother
    cases hother
    omega
  · rw [pred?, if_neg hpos] at h
    cases h

/-! ## The loop -/

/-- The words at the head of an iteration: the attempts made so far, and those that
remain. -/
structure Counters where
  attempts : UInt32
  remaining : UInt32

/-- What an iteration comes to.  A word leaves its range, or the attempt ends the run,
or another iteration begins. -/
inductive Iteration (τ : Type) where
  | overflows
  | ends (attempts : UInt32) (ending : Ending) (final : τ)
  | repeats (counters : Counters) (next : τ)

namespace Surroundings

variable {τ : Type}

/-- The end of an iteration whose attempt failed with `error` and was rolled back, with
both words stepped. -/
def settle (surroundings : Surroundings τ) (delay : Millis) (counters : Counters)
    (error : ActionError) (state : τ) : Iteration τ :=
  let attempts := counters.attempts.toNat
  if counters.remaining = 0 then
    .ends counters.attempts (.exhausted error)
      (surroundings.report (.exhausted attempts error) state)
  else
    match surroundings.classify error attempts state with
    | (.abort, state) =>
      .ends counters.attempts (.notRetryable error)
        (surroundings.report
          (.notRetryable attempts surroundings.classifierName error) state)
    | (.retry, state) =>
      match surroundings.pause delay
          (surroundings.report (.failed counters.remaining.toNat error) state) with
      | (true, state) => .repeats counters state
      | (false, state) =>
        .ends counters.attempts (.interrupted error)
          (surroundings.report (.interrupted attempts) state)

/-- One iteration, with the words as they are at its head. -/
def iterate (surroundings : Surroundings τ) (delay : Millis) (counters : Counters)
    (state : τ) :
    Iteration τ :=
  match succ? counters.attempts with
  | none => .overflows
  | some attempts =>
    match surroundings.attempt attempts.toNat state with
    | (.ok (), state) =>
      .ends attempts .succeeded
        (if 1 < attempts.toNat then
          surroundings.report (.succeeded attempts.toNat) state else state)
    | (.error error, state) =>
      match surroundings.revert state with
      | (.error rollback, state) =>
        .ends attempts (.revertFailed error rollback)
          (surroundings.report (.rollbackFailed attempts.toNat error rollback) state)
      | (.ok (), state) =>
        match surroundings.refresh state with
        | (.error rollback, state) =>
          .ends attempts (.refreshFailed error rollback)
            (surroundings.report (.rollbackFailed attempts.toNat error rollback) state)
        | (.ok (), state) =>
          match pred? counters.remaining with
          | none => .overflows
          | some remaining =>
            surroundings.settle delay ⟨attempts, remaining⟩ error state

variable {surroundings : Surroundings τ} {delay : Millis} {counters later : Counters}
  {error : ActionError} {errors : List ActionError} {ending : Ending}
  {state next final : τ} {attempts budget : UInt32}

theorem eq_of_settle_eq_repeats
    (h : surroundings.settle delay counters error state = .repeats later next) :
    later = counters := by
  unfold settle at h
  dsimp only at h
  split at h
  · cases h
  · split at h
    · cases h
    · split at h
      · cases h
        rfl
      · cases h

/-- An iteration that is followed by another one has left fewer attempts to it. -/
theorem remaining_lt_of_iterate_eq_repeats
    (h : surroundings.iterate delay counters state = .repeats later next) :
    later.remaining.toNat < counters.remaining.toNat := by
  unfold iterate at h
  split at h
  · cases h
  · split at h
    · cases h
    · split at h
      · cases h
      · split at h
        · cases h
        · split at h
          · cases h
          · rename_i hremaining
            rw [eq_of_settle_eq_repeats h]
            exact toNat_lt_of_pred?_eq_some hremaining

/-- Iterations until one of them ends the run.  There is no result if a word leaves its
range. -/
def loop (surroundings : Surroundings τ) (delay : Millis) (counters : Counters)
    (state : τ) :
    Option (Except ActionError Unit × τ) :=
  match _ : surroundings.iterate delay counters state with
  | .overflows => none
  | .ends attempts ending final => some (ending.result attempts.toNat, final)
  | .repeats later next => surroundings.loop delay later next
termination_by counters.remaining.toNat
decreasing_by exact remaining_lt_of_iterate_eq_repeats ‹_›

theorem loop_of_ends
    (h : surroundings.iterate delay counters state = .ends attempts ending final) :
    surroundings.loop delay counters state =
      some (ending.result attempts.toNat, final) := by
  unfold loop
  split <;> simp_all

theorem loop_of_repeats
    (h : surroundings.iterate delay counters state = .repeats later next) :
    surroundings.loop delay counters state = surroundings.loop delay later next := by
  rw [loop]
  split <;> simp_all

end Surroundings

/-! ## The invariant -/

/-- At the head of an iteration, the attempts made and those that remain are the whole
budget, and there is one that remains. -/
structure Counters.Within (budget : UInt32) (counters : Counters) : Prop where
  total : counters.attempts.toNat + counters.remaining.toNat = budget.toNat
  spare : 1 ≤ counters.remaining.toNat

namespace Counters

variable {counters : Counters} {budget : UInt32}

/-- Before the first iteration, the whole budget remains. -/
def start (policy : RetryPolicy) : Counters :=
  ⟨0, policy.maxAttempts⟩

theorem within_start (policy : RetryPolicy) :
    (start policy).Within policy.maxAttempts where
  total := Nat.zero_add _
  spare := policy.one_le_maxAttempts

/-- Both words can be stepped: what is counted stays within the budget, which is a word,
and one attempt less can remain.  After both steps they add up to the budget again. -/
theorem Within.step (h : counters.Within budget) :
    ∃ attempts remaining, succ? counters.attempts = some attempts ∧
      pred? counters.remaining = some remaining ∧
      attempts.toNat = counters.attempts.toNat + 1 ∧
      attempts.toNat + remaining.toNat = budget.toNat := by
  have hbudget : budget.toNat < UInt32.size := budget.toNat_lt_size
  have htotal := h.total
  have hspare := h.spare
  obtain ⟨attempts, hsucc, hattempts⟩ :=
    succ?_eq_some (show counters.attempts.toNat + 1 < UInt32.size by omega)
  obtain ⟨remaining, hpred, hremaining⟩ := pred?_eq_some hspare
  exact ⟨attempts, remaining, hsucc, hpred, hattempts, by omega⟩

end Counters

namespace Surroundings

variable {τ : Type} {surroundings : Surroundings τ} {delay : Millis}
  {counters later : Counters} {error : ActionError} {errors : List ActionError}
  {ending : Ending} {state next final : τ} {attempts budget : UInt32}

/-- Within the budget, an iteration whose attempt ends the run ends in the same way. -/
theorem iterate_of_ends (h : counters.Within budget)
    (hends : surroundings.Ends delay budget.toNat
      (counters.attempts.toNat + 1) state ending final) :
    ∃ attempts, attempts.toNat = counters.attempts.toNat + 1 ∧
      surroundings.iterate delay counters state = .ends attempts ending final := by
  obtain ⟨attempts, remaining, hsucc, hpred, hattempts, htotal⟩ := h.step
  have hzero : remaining = 0 ↔ attempts.toNat = budget.toNat := by
    rw [← UInt32.toNat_inj, UInt32.toNat_zero]
    omega
  have hrest : budget.toNat - attempts.toNat = remaining.toNat := by omega
  refine ⟨attempts, hattempts, ?_⟩
  rw [← hattempts] at hends
  unfold iterate
  cases hends with
  | succeeded hattempt => simp only [hsucc, hattempt]
  | revertFailed hattempt hrevert => simp only [hsucc, hattempt, hrevert]
  | refreshFailed hattempt hrevert hrefresh =>
    simp only [hsucc, hattempt, hrevert, hrefresh]
  | exhausted hattempt hrevert hrefresh hspent =>
      simp only [hsucc, hattempt, hrevert, hrefresh, hpred, settle,
        if_pos (hzero.2 hspent)]
  | notRetryable hattempt hrevert hrefresh hspare hclassify =>
      have hsome : remaining ≠ 0 := fun hnone => Nat.ne_of_lt hspare (hzero.1 hnone)
      simp only [hsucc, hattempt, hrevert, hrefresh, hpred, settle,
        if_neg hsome, hclassify]
  | interrupted hattempt hrevert hrefresh hspare hclassify hpause =>
      have hsome : remaining ≠ 0 := fun hnone => Nat.ne_of_lt hspare (hzero.1 hnone)
      rw [hrest] at hpause
      simp only [hsucc, hattempt, hrevert, hrefresh, hpred, settle, if_neg hsome,
        hclassify, hpause]

/-- Within the budget, an iteration whose attempt is followed by another one is followed
by another one, with the words stepped. -/
theorem iterate_of_continues (h : counters.Within budget)
    (hcontinues : surroundings.Continues delay budget.toNat
      (counters.attempts.toNat + 1) state error next) :
    ∃ later, surroundings.iterate delay counters state = .repeats later next ∧
      later.attempts.toNat = counters.attempts.toNat + 1 ∧ later.Within budget := by
  obtain ⟨attempts, remaining, hsucc, hpred, hattempts, htotal⟩ := h.step
  rw [← hattempts] at hcontinues ⊢
  obtain ⟨hattempt, hrevert, hrefresh, hspare, hclassify, hpause⟩ := hcontinues
  have hone : 1 ≤ remaining.toNat := by omega
  have hsome : remaining ≠ 0 := by
    rintro rfl
    cases hone
  have hrest : budget.toNat - attempts.toNat = remaining.toNat := by omega
  rw [hrest] at hpause
  refine ⟨⟨attempts, remaining⟩, ?_, rfl, htotal, hone⟩
  unfold iterate
  simp only [hsucc, hattempt, hrevert, hrefresh, hpred, settle, if_neg hsome,
    hclassify, hpause]

/-- What an iteration does within the budget: it ends the run, or steps both words and
keeps to the budget. -/
theorem iterate_cases (surroundings : Surroundings τ) (delay : Millis) (state : τ)
    (h : counters.Within budget) :
    (∃ attempts ending final,
      surroundings.iterate delay counters state = .ends attempts ending final ∧
      attempts.toNat = counters.attempts.toNat + 1 ∧
      ending.Within budget.toNat attempts.toNat) ∨
    ∃ later next, surroundings.iterate delay counters state = .repeats later next ∧
      later.attempts.toNat = counters.attempts.toNat + 1 ∧ later.Within budget := by
  have hnumber : counters.attempts.toNat + 1 ≤ budget.toNat := by
    have htotal := h.total
    have hspare := h.spare
    omega
  obtain ⟨ending, final, hends⟩ | ⟨error, next, hcontinues⟩ :=
    surroundings.ends_or_continues delay state hnumber
  · obtain ⟨attempts, hattempts, hiterate⟩ := iterate_of_ends h hends
    have hwithin := hends.within
    rw [← hattempts] at hwithin
    exact .inl ⟨attempts, ending, final, hiterate, hattempts, hwithin⟩
  · obtain ⟨later, hiterate, hlater⟩ := iterate_of_continues h hcontinues
    exact .inr ⟨later, next, hiterate, hlater⟩

theorem iterate_ne_overflows (h : counters.Within budget) :
    surroundings.iterate delay counters state ≠ .overflows := by
  intro hoverflows
  obtain ⟨_, _, _, hends, _⟩ | ⟨_, _, hrepeats, _⟩ :=
    surroundings.iterate_cases delay state h
  · rw [hoverflows] at hends
    cases hends
  · rw [hoverflows] at hrepeats
    cases hrepeats

theorem within_of_iterate_eq_ends (h : counters.Within budget)
    (hends : surroundings.iterate delay counters state = .ends attempts ending final) :
    attempts.toNat = counters.attempts.toNat + 1 ∧
    ending.Within budget.toNat attempts.toNat := by
  obtain ⟨_, _, _, hother, hwithin⟩ | ⟨_, _, hrepeats, _⟩ :=
    surroundings.iterate_cases delay state h
  · rw [hends] at hother
    cases hother
    exact hwithin
  · rw [hends] at hrepeats
    cases hrepeats

theorem within_of_iterate_eq_repeats (h : counters.Within budget)
    (hrepeats : surroundings.iterate delay counters state = .repeats later next) :
    later.attempts.toNat = counters.attempts.toNat + 1 ∧ later.Within budget := by
  obtain ⟨_, _, _, hends, _⟩ | ⟨_, _, hother, hwithin⟩ :=
    surroundings.iterate_cases delay state h
  · rw [hrepeats] at hends
    cases hends
  · rw [hrepeats] at hother
    cases hother
    exact hwithin

/-! ## Whole runs -/

/-- After `index` iterations, another one begins in `state` with these words. -/
inductive AtHead (surroundings : Surroundings τ) (policy : RetryPolicy) (begun : τ) :
    Nat → Counters → τ → Prop where
  | first : AtHead surroundings policy begun 0 (.start policy) begun
  | later {index : Nat} {counters later : Counters} {state next : τ} :
      AtHead surroundings policy begun index counters state →
      surroundings.iterate policy.delay counters state = .repeats later next →
      AtHead surroundings policy begun (index + 1) later next

variable {policy : RetryPolicy} {begun : τ} {index : Nat}

/-- The invariant holds at the head of every iteration, and the word of attempts is the
number of iterations. -/
theorem AtHead.within (h : surroundings.AtHead policy begun index counters state) :
    counters.attempts.toNat = index ∧ counters.Within policy.maxAttempts := by
  induction h with
  | first => exact ⟨rfl, Counters.within_start policy⟩
  | @later index counters later state next _ hrepeats ih =>
      obtain ⟨hindex, hwithin⟩ := ih
      obtain ⟨hattempts, hlater⟩ := within_of_iterate_eq_repeats hwithin hrepeats
      exact ⟨by omega, hlater⟩

/-- The loop goes through a course: it reaches an iteration that ends with the ending of
the course. -/
theorem exists_last_of_course (hwithin : counters.Within policy.maxAttempts)
    (hcourse : surroundings.Course policy.delay policy.maxAttempts.toNat
      (counters.attempts.toNat + 1) state errors ending final)
    (hhead : surroundings.AtHead policy begun index counters state) :
    ∃ last lastCounters lastState attempts,
      surroundings.AtHead policy begun last lastCounters lastState ∧
      surroundings.iterate policy.delay lastCounters lastState =
        .ends attempts ending final ∧
      attempts.toNat = counters.attempts.toNat + 1 + errors.length ∧
      surroundings.loop policy.delay counters state =
        some (ending.result attempts.toNat, final) := by
  -- along the course, with the words that each of its attempts begins with
  generalize hnumber : counters.attempts.toNat + 1 = number at hcourse
  induction hcourse generalizing index counters with
  | ends hends =>
      rw [← hnumber] at hends
      obtain ⟨attempts, hattempts, hiterate⟩ := iterate_of_ends hwithin hends
      exact ⟨index, counters, _, attempts, hhead, hiterate,
        by rw [hattempts, hnumber]; rfl, loop_of_ends hiterate⟩
  | @continues number state next final error errors ending hcontinues _ ih =>
      rw [← hnumber] at hcontinues
      obtain ⟨later, hiterate, hattempts, hlater⟩ :=
        iterate_of_continues hwithin hcontinues
      obtain ⟨last, lastCounters, lastState, attempts, hlast, hends, hcount, hloop⟩ :=
        ih hlater (hhead.later hiterate) (by omega)
      refine ⟨last, lastCounters, lastState, attempts, hlast, hends, ?_, ?_⟩
      · rw [hcount, List.length_cons]
        omega
      · rw [loop_of_repeats hiterate, hloop]

/-- The loop with checked words is the run: it comes to an iteration that ends, and ends
as the run does. -/
theorem exists_last_iteration (surroundings : Surroundings τ) (policy : RetryPolicy)
    (begun : τ) :
    ∃ last counters state attempts ending final,
      surroundings.AtHead policy begun last counters state ∧
      surroundings.iterate policy.delay counters state = .ends attempts ending final ∧
      surroundings.run policy begun = (ending.result attempts.toNat, final) ∧
      surroundings.loop policy.delay (.start policy) begun =
        some (surroundings.run policy begun) := by
  obtain ⟨errors, ending, final, hcourse, _⟩ :=
    surroundings.exists_course policy.delay begun policy.one_le_maxAttempts
  have hrun := hcourse.run_eq
  obtain ⟨last, counters, state, attempts, hlast, hends, hcount, hloop⟩ :=
    exists_last_of_course (Counters.within_start policy) hcourse .first
  have hattempts : attempts.toNat = errors.length + 1 := by
    rw [hcount, Nat.add_comm]
    rfl
  rw [← hattempts] at hrun
  exact ⟨last, counters, state, attempts, ending, final, hlast, hends,
    hrun, by rw [hloop, hrun]⟩

end Surroundings

/-! ## Attempt numbers -/

variable {delay : Millis} {number first : Nat} {error : ActionError}
  {errors : List ActionError} {ending : Ending}

/-- Before the last attempt, the classifier is told the number of the attempt that
failed. -/
theorem of_classify_mem_rounds
    (h : .classify error number ∈ rounds delay first errors) :
    first ≤ number ∧ number < first + errors.length := by
  induction errors generalizing first with
  | nil => cases h
  | cons other errors ih =>
      rw [rounds, List.mem_append] at h
      rw [List.length_cons]
      obtain h | h := h
      · simp only [List.mem_cons, reduceCtorEq, Step.classify.injEq, List.not_mem_nil,
          or_self, or_false, false_or] at h
        omega
      · have hlater := ih h
        omega

/-- After the last attempt the classifier is told its number, and is asked only if that
is below the budget. -/
theorem Ending.of_classify_mem_steps {last budget : Nat}
    (hwithin : ending.Within budget last)
    (h : .classify error number ∈ ending.steps delay last) :
    number = last ∧ last < budget := by
  cases ending with
  | notRetryable =>
      simp only [steps, List.mem_cons, reduceCtorEq, Step.classify.injEq,
        List.not_mem_nil, or_false, false_or] at h
      exact ⟨h.2, hwithin⟩
  | interrupted =>
      simp only [steps, List.mem_cons, reduceCtorEq, Step.classify.injEq,
        List.not_mem_nil, or_self, or_false, false_or] at h
      exact ⟨h.2, hwithin⟩
  | _ => simp [steps] at h

/-- The numbers that the classifier is told are numbers of attempts after which another
one is possible. -/
theorem Surroundings.of_classify_mem_recorded {τ : Type} {surroundings : Surroundings τ}
    {policy : RetryPolicy} {begun : τ}
    (h : .classify error number ∈ (surroundings.recorded.run policy ([], begun)).2.1) :
    1 ≤ number ∧ number < policy.maxAttempts.toNat := by
  obtain ⟨errors, ending, final, hcourse, hlength⟩ :=
    surroundings.exists_course policy.delay begun policy.one_le_maxAttempts
  rw [(hcourse.recorded []).run_eq, List.nil_append, List.mem_append] at h
  obtain h | h := h
  · have hrounds := of_classify_mem_rounds h
    omega
  · obtain ⟨_, _, hends⟩ := hcourse.reaches
    have hlast := Ending.of_classify_mem_steps hends.within h
    omega

/-- The counters of a retry, for every policy and whatever is tried, judged and waited
for.

* At the head of an iteration the two words add up to the budget, and at least one
  attempt remains; so neither step of the iteration leaves the range of a word.
* If that iteration is interrupted, its attempt is not the last one of the budget.
* Some iteration ends the run, with its result and final state, and the loop with
  checked words is the run.
* The classifier is told attempt numbers from one up to one below the budget. -/
theorem counters_within_budget {τ : Type} (surroundings : Surroundings τ)
    (policy : RetryPolicy) (begun : τ) :
    (∀ index counters state, surroundings.AtHead policy begun index counters state →
      counters.attempts.toNat + counters.remaining.toNat = policy.maxAttempts.toNat ∧
      1 ≤ counters.remaining.toNat ∧
      counters.attempts.toNat + 1 < UInt32.size ∧
      surroundings.iterate policy.delay counters state ≠ .overflows ∧
      index + 1 ≤ policy.maxAttempts.toNat ∧
      ∀ attempts error final,
        surroundings.iterate policy.delay counters state =
          .ends attempts (.interrupted error) final →
        1 ≤ attempts.toNat ∧ attempts.toNat < policy.maxAttempts.toNat) ∧
    (∃ last counters state attempts ending final,
      surroundings.AtHead policy begun last counters state ∧
      surroundings.iterate policy.delay counters state = .ends attempts ending final ∧
      surroundings.run policy begun = (ending.result attempts.toNat, final) ∧
      surroundings.loop policy.delay (.start policy) begun =
        some (surroundings.run policy begun)) ∧
    ∀ error number,
      .classify error number ∈ (surroundings.recorded.run policy ([], begun)).2.1 →
      1 ≤ number ∧ number < policy.maxAttempts.toNat := by
  refine ⟨?_, surroundings.exists_last_iteration policy begun, ?_⟩
  · intro index counters state hhead
    obtain ⟨hindex, hwithin⟩ := hhead.within
    have htotal := hwithin.total
    have hspare := hwithin.spare
    have hbudget : policy.maxAttempts.toNat < UInt32.size :=
      policy.maxAttempts.toNat_lt_size
    refine ⟨htotal, hspare, by omega, Surroundings.iterate_ne_overflows hwithin,
      by omega, ?_⟩
    intro attempts error final hinterrupted
    obtain ⟨hattempts, hlast⟩ :=
      Surroundings.within_of_iterate_eq_ends hwithin hinterrupted
    exact ⟨by omega, hlast⟩
  · intro error number hclassify
    exact Surroundings.of_classify_mem_recorded hclassify

end ContentBatch.Retry
