import ContentBatch.Proofs.Retry.Binding
import ContentBatch.Proofs.Retry.Levels
import ContentBatch.Proofs.Retry.Protocol
import ContentBatch.Rehearsal.World
import Mathlib.Algebra.BigOperators.Group.List.Basic
import Mathlib.Data.Nat.ModEq

/-!
# What nested retries cost

Retries around each other multiply: an outer attempt is a whole run of the inner retry.
While nothing but the innermost job fails, the failures of its invocations are counted
like the strokes of an odometer.  Each level has a wheel whose size is the product of
the budgets inside of it, and rolls back whenever the wheel comes round.  So the
rollbacks of a level are a quotient, whether the run succeeds in the end or spends all
budgets.

`Account` says this of the lines of a run.  It is kept for as many attempts as are left,
so that it goes from the last attempt of a course backwards: one attempt is a budget of
one, and every attempt before it adds one.

* `Series` tells how the invocations come out: they fail until one succeeds or the limit
  is reached.
* `RollsBack` counts the rollbacks of a level.
* `Undisturbed` is what is assumed: rollbacks succeed, and no wait is cancelled.

## Main results

* `Account.attempt`, `Account.after`: the account of an attempt, and of an attempt
  before others.
* `Written.account`: the account of a course.
* `HeldWork.nested_retries_multiply`: results, invocations and rollbacks on all levels
  of any nesting.
-/

namespace ContentBatch

open Levels Rehearsal

namespace Entry

/-- Whether an entry is a call of `refresh`. -/
def isRefresh : Entry → Bool
  | .call .refresh _ => true
  | _ => false

/-- Whether an entry is a rollback that failed or a wait that was cancelled. -/
def isSetback : Entry → Bool
  | .call .revert (some _) => true
  | .call .refresh (some _) => true
  | .pause _ _ completed => !completed
  | _ => false

end Entry

namespace Levels

variable {level : Int} {count more number limit depth spare : Nat} {budgets : List Nat}
  {failures others : List ActionError} {error : ActionError}
  {result : Except ActionError Unit} {seen rest : List (Option ActionError)}
  {entries later inner : List Entry}

/-! ## Rollbacks -/

/-- A level rolls back `count` times: that often it reverts, and that often it
refreshes. -/
def RollsBack (level : Int) (count : Nat) (entries : List Entry) : Prop :=
  (layer level entries).countP Entry.isRevert = count ∧
  (layer level entries).countP Entry.isRefresh = count

theorem RollsBack.append (hentries : Balanced entries)
    (h : RollsBack level count entries) (hlater : RollsBack level more later) :
    RollsBack level (count + more) (entries ++ later) := by
  unfold RollsBack
  rw [hentries.layer_append, List.countP_append, List.countP_append, h.1, h.2,
    hlater.1, hlater.2]
  exact ⟨rfl, rfl⟩

/-- Lines on a single level are no rollbacks of any other. -/
theorem RollsBack.below (h : Flat entries) (hlevel : level ≠ 0) :
    RollsBack level 0 entries := by
  unfold RollsBack
  rw [h.layer_eq_nil hlevel]
  exact ⟨rfl, rfl⟩

theorem RollsBack.single {entry : Entry} (hflat : entry.descent = 0)
    (hrevert : entry.isRevert = false) (hrefresh : entry.isRefresh = false)
    (level : Int) : RollsBack level 0 [entry] := by
  by_cases hlevel : level = 0
  · unfold RollsBack
    rw [hlevel, (Flat.single hflat).layer_zero]
    simp [hrevert, hrefresh]
  · exact .below (.single hflat) hlevel

/-- On the first `depth` levels, all rollbacks succeed and all waits are completed. -/
def Undisturbed (depth : Nat) (entries : List Entry) : Prop :=
  ∀ level : Nat, level < depth → ∀ entry ∈ layer level entries, entry.isSetback = false

instance (depth : Nat) (entries : List Entry) : Decidable (Undisturbed depth entries) :=
  inferInstanceAs
      (Decidable (∀ level : Nat, level < depth → ∀ entry ∈ layer level entries, _))

namespace Undisturbed

theorem of_append (hentries : Balanced entries)
    (h : Undisturbed depth (entries ++ later)) :
    Undisturbed depth entries ∧ Undisturbed depth later := by
  constructor
  · intro level hlevel entry hentry
    refine h level hlevel entry ?_
    rw [hentries.layer_append]
    exact List.mem_append_left _ hentry
  · intro level hlevel entry hentry
    refine h level hlevel entry ?_
    rw [hentries.layer_append]
    exact List.mem_append_right _ hentry

/-- If an attempt is not disturbed, what is done in it is not disturbed either. -/
theorem inside (hinner : Balanced inner)
    (h : Undisturbed (depth + 1) (Retry.attemptEntries number result inner)) :
    Undisturbed depth inner := by
  intro level hlevel entry hentry
  refine h (level + 1) (by omega) entry ?_
  rw [layer_attemptEntries_succ hinner]
  exact hentry

theorem of_flat (hflat : Flat entries) (h : Undisturbed (depth + 1) entries) :
    ∀ entry ∈ entries, entry.isSetback = false := by
  intro entry hentry
  refine h 0 (by omega) entry ?_
  show entry ∈ layer 0 entries
  rw [hflat.layer_zero]
  exact hentry

end Undisturbed

/-! ## Invocations -/

/-- Invocations that fail with `failures`, one after another.  The next one succeeds,
and so does the run, or there is no next one because `limit` invocations were made, and
the run fails with the last failure. -/
inductive Series (limit : Nat) :
    List ActionError → Except ActionError Unit → List (Option ActionError) → Prop where
  | succeeds {failures : List ActionError} :
      failures.length < limit →
      Series limit failures (.ok ()) (failures.map some ++ [none])
  | fails {failures : List ActionError} {error : ActionError} :
      (failures ++ [error]).length = limit →
      Series limit (failures ++ [error]) (.error error) ((failures ++ [error]).map some)

namespace Series

theorem of_ok (h : Series limit failures (.ok ()) seen) :
    failures.length < limit ∧ seen = failures.map some ++ [none] := by
  cases h with
  | succeeds hlimit => exact ⟨hlimit, rfl⟩

theorem of_error (h : Series limit failures (.error error) seen) :
    failures.length = limit ∧ failures.getLast? = some error ∧
    seen = failures.map some := by
  cases h with
  | fails hlimit => exact ⟨hlimit, List.getLast?_concat, rfl⟩

/-- With a higher limit, invocations that end with a success go on as before. -/
theorem widen (h : Series limit failures (.ok ()) seen) {higher : Nat}
    (hlimit : limit ≤ higher) :
    Series higher failures (.ok ()) seen := by
  obtain ⟨hlength, rfl⟩ := h.of_ok
  exact .succeeds (by omega)

/-- Invocations that fail up to the limit, and then others. -/
theorem after (h : Series limit failures (.error error) seen) {further : Nat}
    (hrest : Series further others result rest) :
    Series (limit + further) (failures ++ others) result (seen ++ rest) := by
  obtain ⟨rfl, _, rfl⟩ := h.of_error
  cases hrest with
  | @succeeds others hlimit =>
      rw [← List.append_assoc, ← List.map_append]
      refine .succeeds ?_
      rw [List.length_append]
      omega
  | @fails others error hlimit =>
      rw [← List.map_append, ← List.append_assoc]
      refine .fails ?_
      rw [List.append_assoc, List.length_append, hlimit]

end Series

/-! ## Accounts -/

/-- The account of a run with retries of these budgets around its core: how the
invocations come out, and how often each level rolls back. -/
structure Account (budgets : List Nat) (failures : List ActionError)
    (result : Except ActionError Unit) (entries : List Entry) : Prop where
  series :
      Series budgets.prod failures result (invocations budgets.length result entries)
  rollbacks : ∀ level : Nat, level < budgets.length →
    RollsBack level (failures.length / (budgets.drop (level + 1)).prod) entries

/-- The lines of a run are balanced, and there is an account of them if nothing disturbs
it. -/
def Accounted (budgets : List Nat) (result : Except ActionError Unit)
    (entries : List Entry) : Prop :=
  Balanced entries ∧ (Undisturbed budgets.length entries →
    ∃ failures, Account budgets failures result entries)

namespace Account

/-- An attempt is a retry with a budget of one. -/
theorem attempt (h : Account budgets failures result inner) (hbalanced : Balanced inner)
    (number : Nat) {closing : List Entry} (hclosing : Flat closing)
    (hcount : RollsBack 0 count closing)
    (hfailures : failures.length / budgets.prod = count) :
    Account (1 :: budgets) failures result
      (Retry.attemptEntries number result inner ++ closing) where
  series := by
    show Series (1 :: budgets).prod failures result (outcomes budgets.length _)
    rw [(balanced_attemptEntries hbalanced number result).outcomes_append,
      hclosing.outcomes_eq_nil, List.append_nil, outcomes_attemptEntries hbalanced,
      List.prod_cons, Nat.one_mul]
    exact h.series
  rollbacks := by
    intro level hlevel
    rw [List.drop_succ_cons]
    have hattempt := balanced_attemptEntries hbalanced number result
    cases level with
    | zero =>
        have hmarks : RollsBack 0 0 (Retry.attemptEntries number result inner) := by
          unfold RollsBack
          rw [layer_attemptEntries_zero hbalanced]
          exact ⟨rfl, rfl⟩
        rw [List.drop_zero, hfailures, ← Nat.zero_add count]
        exact hmarks.append hattempt hcount
    | succ level =>
        have hinner : RollsBack ((level + 1 : Nat) : Int)
            (failures.length / (budgets.drop (level + 1)).prod)
            (Retry.attemptEntries number result inner) := by
          unfold RollsBack
          rw [layer_attemptEntries_succ hbalanced]
          exact h.rollbacks level (Nat.lt_of_succ_lt_succ hlevel)
        exact hinner.append hattempt (.below hclosing (by omega))

/-- With budget to spare, a run that succeeds goes as without. -/
theorem widen (h : Account (1 :: budgets) failures (.ok ()) entries) (spare : Nat) :
    Account ((spare + 1) :: budgets) failures (.ok ()) entries where
  series := by
    refine h.series.widen ?_
    rw [List.prod_cons, List.prod_cons]
    exact Nat.mul_le_mul_right _ (Nat.le_add_left 1 spare)
  rollbacks := h.rollbacks

/-- An attempt that fails, and then the others: every wheel inside has come round
without a rest. -/
theorem after (h : Account (1 :: budgets) failures (.error error) entries)
    (hentries : Balanced entries) {attempts : Nat}
    (hlater : Account (attempts :: budgets) others result later) :
    Account ((attempts + 1) :: budgets) (failures ++ others) result
      (entries ++ later) where
  series := by
    show Series ((attempts + 1) :: budgets).prod _ result (outcomes budgets.length _)
    have hlimit : ((attempts + 1) :: budgets).prod =
        (1 :: budgets).prod + (attempts :: budgets).prod := by
      rw [List.prod_cons, List.prod_cons, List.prod_cons, Nat.succ_mul,
        Nat.one_mul, Nat.add_comm]
    rw [hentries.outcomes_append, hlimit]
    exact h.series.after hlater.series
  rollbacks := by
    intro level hlevel
    have hdivides : (budgets.drop level).prod ∣ failures.length := by
      rw [h.series.of_error.1, List.prod_cons, Nat.one_mul]
      exact ⟨_,
        (List.prod_take_mul_prod_drop budgets level).symm.trans (Nat.mul_comm _ _)⟩
    rw [List.drop_succ_cons, List.length_append, Nat.add_div_of_dvd_right hdivides]
    exact (h.rollbacks level hlevel).append hentries (hlater.rollbacks level hlevel)

/-- The span before the attempts and the result after them are not accounted for. -/
theorem framed {attempts : Nat}
    (h : Account (attempts :: budgets) failures result entries)
    (hentries : Balanced entries) (span : Span) (scope : Scope)
    (failure : Option ActionError) :
    Account (attempts :: budgets) failures result
      (.span span scope :: (entries ++ [.retried failure])) where
  series := by
    show Series (attempts :: budgets).prod _ result (outcomes budgets.length _)
    rw [hentries.outcomes_framed]
    exact h.series
  rollbacks := by
    intro level hlevel
    have hspan : RollsBack level 0 [.span span scope] := .single rfl rfl rfl level
    have hretried : RollsBack level 0 [.retried failure] := .single rfl rfl rfl level
    have hframed :=
      hspan.append (.single rfl) ((h.rollbacks level hlevel).append hentries hretried)
    rw [Nat.zero_add] at hframed
    exact hframed

end Account

/-- The first `failing` outcomes are failures, and all others are successes. -/
def FailsThenSucceeds (failing : Nat) (outcomes : List (Option ActionError)) : Prop :=
  (∀ outcome ∈ outcomes.take failing, outcome.isSome = true) ∧
    ∀ outcome ∈ outcomes.drop failing, outcome.isNone = true

instance (failing : Nat) (outcomes : List (Option ActionError)) :
    Decidable (FailsThenSucceeds failing outcomes) :=
  inferInstanceAs (Decidable (_ ∧ _))

/-- A series that ends with a success failed as often as it had to. -/
theorem FailsThenSucceeds.length_eq {failing : Nat}
    (h : FailsThenSucceeds failing (failures.map some ++ [none])) :
    failures.length = failing := by
  rcases Nat.lt_trichotomy failures.length failing with hless | heq | hmore
  · have hnone : none ∈ (failures.map some ++ [none]).take failing := by
      rw [List.take_of_length_le (by simp; omega)]
      exact List.mem_append_right _ (List.mem_singleton_self _)
    cases h.1 _ hnone
  · exact heq
  · have hsome : some failures[failing] ∈
        (failures.map some ++ [none]).drop failing := by
      rw [List.mem_drop_iff_getElem]
      exact ⟨0, by simp; omega, by simp [hmore]⟩
    cases h.2 _ hsome

/-- A series of failures failed at most as often as it had to. -/
theorem FailsThenSucceeds.length_le {failing : Nat}
    (h : FailsThenSucceeds failing (failures.map some)) :
    failures.length ≤ failing := by
  rcases Nat.lt_or_ge failing failures.length with hmore | hless
  · have hsome : some failures[failing] ∈ (failures.map some).drop failing := by
      rw [List.mem_drop_iff_getElem]
      exact ⟨0, by simp; omega, by simp⟩
    cases h.2 _ hsome
  · exact hless

end Levels

/-! ## Retries -/

namespace Retry

/-- How many attempts a retry makes at most. -/
def budget (retry : Retry) : Nat :=
  retry.policy.maxAttempts.toNat

theorem prod_budgets_pos (retries : List Retry) : 0 < (retries.map budget).prod := by
  induction retries with
  | nil => exact Nat.one_pos
  | cons retry retries ih =>
      rw [List.map_cons, List.prod_cons]
      exact Nat.mul_pos retry.policy.one_le_maxAttempts ih

variable {σ : Type} {retry : Retry} {repository : Repository σ} {scope : Scope}
  {span : Span} {subject : String} {number spare : Nat} {budgets : List Nat}
  {errors : List ActionError} {ending : Ending} {entries inner : List Entry}
  {error : ActionError}

/-- A last attempt that nothing disturbs succeeds, or it spends the budget. -/
theorem Ending.account (hclassifier : retry.classifier = .retryAll)
    (hinner : Accounted budgets ending.attempted inner)
    (hjustified : ending.Justified retry number)
    (hbudget : number + spare = retry.policy.maxAttempts.toNat)
    (hpositive : 0 < budgets.prod)
    (hundisturbed : Undisturbed (budgets.length + 1)
      (ending.entries retry scope subject number inner)) :
    ∃ failures, Account ((spare + 1) :: budgets) failures (ending.result number)
      (ending.entries retry scope subject number inner) := by
  obtain ⟨hbalanced, haccount⟩ := hinner
  have hattempt := balanced_attemptEntries hbalanced number ending.attempted
  have hclosing := ending.flat_closing retry scope subject number
  obtain ⟨hinside, hafter⟩ := hundisturbed.of_append hattempt
  obtain ⟨failures, haccount⟩ := haccount (hinside.inside hbalanced)
  have hsetback := hafter.of_flat hclosing
  cases ending with
  | succeeded =>
      have hfailures : failures.length / budgets.prod = 0 :=
        Nat.div_eq_of_lt haccount.series.of_ok.1
      have hcount : RollsBack 0 0 (closing retry scope subject number succeeded) := by
        unfold RollsBack
        rw [hclosing.layer_zero, closing]
        by_cases hlater : 1 < number
        · rw [if_pos hlater]
          exact ⟨rfl, rfl⟩
        · rw [if_neg hlater]
          exact ⟨rfl, rfl⟩
      exact ⟨failures,
        (haccount.attempt hbalanced number hclosing hcount hfailures).widen spare⟩
  | exhausted error =>
      obtain rfl : spare = 0 := by
        have hspent : number = retry.policy.maxAttempts.toNat := hjustified
        omega
      have hfailures : failures.length / budgets.prod = 1 := by
        rw [haccount.series.of_error.1, Nat.div_self hpositive]
      have hcount :
          RollsBack 0 1 (closing retry scope subject number (exhausted error)) := by
        unfold RollsBack
        rw [hclosing.layer_zero]
        exact ⟨rfl, rfl⟩
      exact ⟨failures, haccount.attempt hbalanced number hclosing hcount hfailures⟩
  | notRetryable error =>
      have habort : retry.classifier.classify error number = .abort := hjustified
      rw [hclassifier] at habort
      cases habort
  | revertFailed error rollback =>
    cases hsetback (.call .revert (some rollback)) (by simp [closing])
  | refreshFailed error rollback =>
    cases hsetback (.call .refresh (some rollback)) (by simp [closing])
  | interrupted error =>
      cases hsetback (.pause retry.policy.delay retry.token false) (by simp [closing])

/-- A round is an attempt that fails, and one rollback. -/
theorem roundEntries_account (hinner : Accounted budgets (.error error) inner)
    (hpositive : 0 < budgets.prod)
    (hundisturbed : Undisturbed (budgets.length + 1)
      (retry.roundEntries scope subject number error inner)) :
    ∃ failures, Account (1 :: budgets) failures (.error error)
      (retry.roundEntries scope subject number error inner) := by
  obtain ⟨hbalanced, haccount⟩ := hinner
  rw [roundEntries_eq] at hundisturbed ⊢
  obtain ⟨hinside, _⟩ :=
    hundisturbed.of_append (balanced_attemptEntries hbalanced number _)
  obtain ⟨failures, haccount⟩ := haccount (hinside.inside hbalanced)
  have hclosing := retry.flat_betweenAttempts scope subject number error
  have hfailures : failures.length / budgets.prod = 1 := by
    rw [haccount.series.of_error.1, Nat.div_self hpositive]
  have hcount : RollsBack 0 1 (retry.betweenAttempts scope subject number error) := by
    unfold RollsBack
    rw [hclosing.layer_zero]
    exact ⟨rfl, rfl⟩
  exact ⟨failures, haccount.attempt hbalanced number hclosing hcount hfailures⟩

/-- The account of a course that nothing disturbs, from its last attempt backwards. -/
theorem Written.account (hclassifier : retry.classifier = .retryAll)
    (hwritten : Written retry scope subject
      (Accounted budgets) number errors ending entries)
    (hjustified : ending.Justified retry (number + errors.length))
    (hbudget : number + spare = retry.policy.maxAttempts.toNat)
    (hspare : errors.length ≤ spare) (hpositive : 0 < budgets.prod)
    (hundisturbed : Undisturbed (budgets.length + 1) entries) :
    ∃ failures,
      Account ((spare + 1) :: budgets) failures (ending.result (number + errors.length))
      entries := by
  induction hwritten generalizing spare with
  | ends hinner =>
    exact Ending.account hclassifier hinner hjustified hbudget hpositive hundisturbed
  | @continues number error errors ending inner entries hinner _ ih =>
      rw [List.length_cons] at hspare
      obtain ⟨spare, rfl⟩ : ∃ rest, spare = rest + 1 := ⟨spare - 1, by omega⟩
      have hlast : number + (error :: errors).length = number + 1 + errors.length := by
        rw [List.length_cons]
        omega
      rw [hlast] at hjustified ⊢
      have hround : Balanced (retry.roundEntries scope subject number error inner) :=
        balanced_roundEntries hinner.1 error
      obtain ⟨hfirst, hrest⟩ := hundisturbed.of_append hround
      obtain ⟨failures, haccount⟩ := roundEntries_account hinner hpositive hfirst
      have hnext : number + 1 + spare = retry.policy.maxAttempts.toNat := by omega
      obtain ⟨others, hothers⟩ := ih hjustified hnext (by omega) hrest
      exact ⟨failures ++ others, haccount.after hround hothers⟩

/-- A retry accounts for its lines if its job does. -/
theorem accounted_perform (hclassifier : retry.classifier = .retryAll)
    (hpositive : 0 < budgets.prod) {job : Scope → Job σ Unit}
    (hjob : (job (some span)).Adds (Accounted budgets)) :
    (retry.perform repository scope span subject job).Adds
      (Accounted (retry.budget :: budgets)) := by
  refine (adds_perform hjob).mono ?_
  rintro result entries ⟨errors, ending, lines, hwritten, hlength, hjustified, rfl, rfl⟩
  have hlines : Balanced lines := hwritten.balanced fun _ _ => And.left
  refine ⟨hlines.framed span scope _, ?_⟩
  intro hundisturbed
  have hspan : Balanced [.span span scope] := .single rfl
  obtain ⟨_, hinside⟩ := hundisturbed.of_append hspan
  obtain ⟨hinside, _⟩ := hinside.of_append hlines
  rw [Nat.add_comm] at hjustified
  have hbudget : 1 + (retry.policy.maxAttempts.toNat - 1) =
      retry.policy.maxAttempts.toNat := by
    have hpos := retry.policy.one_le_maxAttempts
    omega
  obtain ⟨failures, haccount⟩ :=
    hwritten.account hclassifier hjustified hbudget (by omega) hpositive hinside
  rw [Nat.add_comm 1, Nat.add_comm _ 1, hbudget] at haccount
  exact ⟨failures, haccount.framed hlines span scope _⟩

end Retry

/-! ## Nested retries -/

namespace Work

variable {σ : Type} {repository : Repository σ} {core work : Work σ}
  {retries : List Retry}

/-- Nested retries that go on after every error account for their lines. -/
theorem Wrapped.accounted (hwork : Wrapped core retries work)
    (hclosures : core.Closures fun _ job => job.Adds fun _ entries => Balanced entries)
    (hclassifier : ∀ retry ∈ retries, retry.classifier = .retryAll) (scope : Scope) :
    (work.run repository scope).Adds (Accounted (retries.map Retry.budget)) := by
  have hcore (scope : Scope) : (core.run repository scope).Adds (Accounted []) := by
    refine (core.balanced repository hclosures scope).mono ?_
    intro result entries hbalanced
    refine ⟨hbalanced, fun _ => ?_⟩
    have hnone (failures : List ActionError) (level : Nat)
        (hlevel : level < ([] : List Nat).length) :
        RollsBack level (failures.length /
          (([] : List Nat).drop (level + 1)).prod) entries :=
      absurd hlevel (Nat.not_lt_zero level)
    cases result with
    | ok => exact ⟨[], .succeeds Nat.one_pos, hnone []⟩
    | error error => exact ⟨[error], @Series.fails _ [] error rfl, hnone [error]⟩
  refine hwork.induct (P := fun retries job =>
    job.Adds (Accounted (retries.map Retry.budget)))
    hclassifier hcore ?_ scope
  intro retry retries scope span subject job hretry hjob
  exact Retry.accounted_perform hretry (Retry.prod_budgets_pos retries) hjob

end Work

namespace HeldWork

variable {σ : Type} {core : Work σ} {work : HeldWork σ} {retries : List Retry}

/-- Retries that go on after every error multiply.  `failing` invocations of the core
fail, and all others succeed; rollbacks succeed, and no wait is cancelled.

If there are fewer failures than the product of all budgets, the run succeeds with the
invocation after them, and each level rolls back once for every round of the levels
inside.  If not, the run makes as many invocations as the product says and fails with
the last of them, as it is, and each level spends its budget in every attempt of the
levels around. -/
theorem nested_retries_multiply (repository : Repository σ)
    (hwork : Work.Wrapped core retries work.bare)
    (hclassifier : ∀ retry ∈ retries, retry.classifier = .retryAll)
    (hclosures : core.Closures fun _ job => job.Adds fun _ entries => Balanced entries)
    (scope : Scope) (batch : Batch σ) :
    let run := work.run repository scope batch
    let depth := retries.length
    let budgets := retries.map Retry.budget
    ∃ entries, run.2.journal.toList = batch.journal.toList ++ entries ∧
      ∀ failing, Undisturbed depth entries →
        FailsThenSucceeds failing (invocations depth run.1 entries) →
        (failing < budgets.prod →
          run.1 = .ok () ∧ (invocations depth run.1 entries).length = failing + 1 ∧
          ∀ level : Nat, level < depth →
            RollsBack level (failing / (budgets.drop (level + 1)).prod) entries) ∧
        (budgets.prod ≤ failing →
          (invocations depth run.1 entries).length = budgets.prod ∧
          (∃ error, (invocations depth run.1 entries).getLast? = some (some error) ∧
            run.1 = .error error) ∧
          ∀ level : Nat, level < depth →
            RollsBack level (budgets.take (level + 1)).prod entries) := by
  intro run depth budgets
  have hrun : run = work.bare.run repository scope batch :=
    work.alike_bare.run_eq repository scope batch
  obtain ⟨entries, hjournal, _, haccount⟩ :=
    hwork.accounted hclosures hclassifier scope batch
  rw [← hrun] at hjournal haccount
  refine ⟨entries, hjournal, ?_⟩
  intro failing hundisturbed houtcomes
  have hdepth : budgets.length = depth := List.length_map _
  rw [hdepth] at haccount
  obtain ⟨failures, hseries, hrollbacks⟩ := haccount hundisturbed
  rw [hdepth] at hseries hrollbacks
  have hpositive : 0 < budgets.prod := Retry.prod_budgets_pos retries
  change Series budgets.prod failures run.1 (invocations depth run.1 entries) at hseries
  rcases hresult : run.1 with error | ⟨⟩
  all_goals rw [hresult] at hseries houtcomes
  case error =>
    obtain ⟨hlength, hlast, hinvocations⟩ := hseries.of_error
    rw [hinvocations] at houtcomes ⊢
    have hfailing := houtcomes.length_le
    refine ⟨fun hfew => absurd hfew (by omega), fun _ => ?_⟩
    refine ⟨(List.length_map _).trans hlength, ⟨error, ?_, rfl⟩, ?_⟩
    · rw [List.getLast?_map, hlast]
      rfl
    · intro level hlevel
      have hinside : 0 < (budgets.drop (level + 1)).prod := by
        rw [← List.map_drop]
        exact Retry.prod_budgets_pos _
      have hcount := hrollbacks level hlevel
      rw [hlength, ← List.prod_take_mul_prod_drop budgets (level + 1),
        Nat.mul_div_cancel _ hinside] at hcount
      exact hcount
  case ok =>
    obtain ⟨hlength, hinvocations⟩ := hseries.of_ok
    rw [hinvocations] at houtcomes ⊢
    obtain rfl := houtcomes.length_eq
    refine ⟨fun _ => ⟨rfl, ?_, hrollbacks⟩, fun hmany => absurd hmany (by omega)⟩
    rw [List.length_append, List.length_map]
    rfl

/-- A budget of two around a budget of three, with holders around and between them,
while the first four replications fail: three in the first attempt of the outer retry,
and one in the second. -/
theorem four_failures_in_two_by_three :
    let world : World :=
      { queues := [(.replicate,
        List.replicate 4 { error := some (.session "conflict") })] }
    let outer : Retry := ⟨⟨2, 0, by decide⟩, .retryAll, none⟩
    let inner : Retry := ⟨⟨3, 250, by decide⟩, .retryAll, none⟩
    let retries := [outer, inner]
    let replication : Action World := .replicate .activate .platform
    let work : HeldWork World :=
      .held .shared
        (.retry outer (.bound (.held .owned (.retry inner (.plain replication))) "/a"))
    let batch : Batch World := { store := world }
    Work.Wrapped (.bound replication "/a") retries work.bare ∧
      (∀ retry ∈ retries, retry.classifier = .retryAll) ∧
      ∃ entries,
        (work.run World.repository none batch).2.journal.toList = [] ++ entries ∧
        Undisturbed retries.length entries ∧
        FailsThenSucceeds 4
          (invocations retries.length
            (work.run World.repository none batch).1 entries) ∧
        (work.run World.repository none batch).1 = .ok () ∧
        (invocations retries.length
          (work.run World.repository none batch).1 entries).length = 5 ∧
        RollsBack (0 : Nat) 1 entries ∧ RollsBack (1 : Nat) 4 entries := by
  intro world outer inner retries replication work batch
  have hwork : Work.Wrapped (.bound replication "/a") retries work.bare :=
    .work (.action .core)
  have hclassifier : ∀ retry ∈ retries, retry.classifier = .retryAll := by
    simp [retries, outer, inner]
  obtain ⟨entries, hjournal, haccount⟩ :=
    nested_retries_multiply World.repository hwork hclassifier trivial none batch
  have hundisturbed : Undisturbed retries.length entries := by
    rw [← List.nil_append entries, ← hjournal]
    decide +kernel
  have houtcomes : FailsThenSucceeds 4
      (invocations retries.length
        (work.run World.repository none batch).1 entries) := by
    rw [← List.nil_append entries, ← hjournal]
    decide +kernel
  have hfew : 4 < (retries.map Retry.budget).prod := by decide
  obtain ⟨hresult, hlength, hrollbacks⟩ := (haccount 4 hundisturbed houtcomes).1 hfew
  have houter : RollsBack (0 : Nat) _ entries := hrollbacks 0 (by decide)
  have hinner : RollsBack (1 : Nat) _ entries := hrollbacks 1 (by decide)
  have hrounds : 4 / ((retries.map Retry.budget).drop 1).prod = 1 := by decide
  have hfailures : 4 / ((retries.map Retry.budget).drop 2).prod = 4 := by decide
  rw [hrounds] at houter
  rw [hfailures] at hinner
  exact ⟨hwork, hclassifier, entries, hjournal, hundisturbed, houtcomes, hresult,
    hlength, houter, hinner⟩

end HeldWork

end ContentBatch
