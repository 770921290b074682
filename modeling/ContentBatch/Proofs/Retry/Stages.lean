import ContentBatch.Proofs.Retry.Completion
import ContentBatch.Proofs.Retry.Levels

/-!
# The stages of a run

What happens in nested retries is a sequence of stages: invocations of the core,
rollbacks, classifications and waits, each with the batches before and after it.
`Surroundings.staged` lets a retry keep a record of them: what happens in an attempt is
entered as the retries inside tell it, and the retry itself goes its course as ever.

Between two stages the store does not change, since spans are opened there and notes are
taken, nothing else.  So the store can be followed through all stages of a run, from its
beginning to its end.  `Leads` does this, and says of every stage what happens in it.
Once a store has a property that no stage takes away, all later stores have it.

## Main results

* `Continues.staged`, `Ends.staged`: what an attempt is entered as, and what comes after
  it.
* `Leads.append`, `Leads.kept`: stages in a row, and what is kept through them.
-/

namespace ContentBatch

/-! ## Records -/

/-- What goes on in a stage. -/
inductive StageKind where
  | invocation (failure : Option ActionError)
  | revert
  | refresh
  | classification
  | wait (completed : Bool)
  deriving DecidableEq

/-- How an invocation came out, if it was one. -/
def StageKind.outcome? : StageKind → Option (Option ActionError)
  | invocation failure => some failure
  | _ => none

/-- What goes on between two states of a run. -/
structure Stage (τ : Type) where
  kind : StageKind
  before : τ
  after : τ

namespace Stage

variable {τ : Type}

/-- How the invocations in some stages came out. -/
def invocations (stages : List (Stage τ)) : List (Option ActionError) :=
  stages.filterMap fun stage => stage.kind.outcome?

theorem invocations_append (stages others : List (Stage τ)) :
    invocations (stages ++ others) = invocations stages ++ invocations others :=
  List.filterMap_append

theorem invocations_eq_nil_iff {stages : List (Stage τ)} :
    invocations stages = [] ↔ ∀ stage ∈ stages, stage.kind.outcome? = none :=
  List.filterMap_eq_nil_iff

end Stage

namespace Retry.Surroundings

variable {τ α : Type}

/-- A call that is entered into a record of stages. -/
def enter (kind : α → StageKind) (call : τ → α × τ) (state : List (Stage τ) × τ) :
    α × (List (Stage τ) × τ) :=
  match call state.2 with
  | (answer, next) => (answer, state.1 ++ [Stage.mk (kind answer) state.2 next], next)

/-- The same surroundings, with a record of all stages.  What happens in an attempt is
told by `inside`. -/
def staged (surroundings : Surroundings τ) (inside : Nat → τ → List (Stage τ)) :
    Surroundings (List (Stage τ) × τ) where
  attempt number state :=
    match surroundings.attempt number state.2 with
    | (result, next) => (result, state.1 ++ inside number state.2, next)
  revert := enter (fun _ => .revert) surroundings.revert
  refresh := enter (fun _ => .refresh) surroundings.refresh
  classify error number :=
    enter (fun _ => .classification) (surroundings.classify error number)
  classifierName := surroundings.classifierName
  pause delay := enter .wait (surroundings.pause delay)
  report report state := (state.1, surroundings.report report state.2)

/-- The stages of a run. -/
def stages (surroundings : Surroundings τ) (inside : Nat → τ → List (Stage τ))
    (policy : RetryPolicy) (state : τ) : List (Stage τ) :=
  ((surroundings.staged inside).run policy ([], state)).2.1

variable {surroundings : Surroundings τ} {inside : Nat → τ → List (Stage τ)}
  {state next : τ}

theorem enter_eq (kind : α → StageKind) {call : τ → α × τ} {answer : α}
    (h : call state = (answer, next)) (record : List (Stage τ)) :
    enter kind call (record, state) =
      (answer, record ++ [Stage.mk (kind answer) state next], next) := by
  show (match call state with
    | (answer, next) =>
      (answer, record ++ [Stage.mk (kind answer) state next], next)) = _
  rw [h]

variable {result : Except ActionError Unit} {number : Nat} {error : ActionError}
  {delay : Millis}

theorem staged_attempt (h : surroundings.attempt number state = (result, next))
    (record : List (Stage τ)) :
    (surroundings.staged inside).attempt number (record, state) =
      (result, record ++ inside number state, next) := by
  show (match surroundings.attempt number state with
    | (result, next) => (result, record ++ inside number state, next)) = _
  rw [h]

theorem staged_revert (h : surroundings.revert state = (result, next))
    (record : List (Stage τ)) :
    (surroundings.staged inside).revert (record, state) =
      (result, record ++ [⟨.revert, state, next⟩], next) :=
  enter_eq (fun _ => .revert) h record

theorem staged_refresh (h : surroundings.refresh state = (result, next))
    (record : List (Stage τ)) :
    (surroundings.staged inside).refresh (record, state) =
      (result, record ++ [⟨.refresh, state, next⟩], next) :=
  enter_eq (fun _ => .refresh) h record

theorem staged_classify {decision : Decision}
    (h : surroundings.classify error number state = (decision, next))
    (record : List (Stage τ)) :
    (surroundings.staged inside).classify error number (record, state) =
      (decision, record ++ [⟨.classification, state, next⟩], next) :=
  enter_eq (fun _ => .classification) h record

theorem staged_pause {completed : Bool}
    (h : surroundings.pause delay state = (completed, next)) (record : List (Stage τ)) :
    (surroundings.staged inside).pause delay (record, state) =
      (completed, record ++ [⟨.wait completed, state, next⟩], next) :=
  enter_eq .wait h record

end Retry.Surroundings

/-! ## Stages in a row -/

section Leads

variable {σ : Type} {Happens : Stage (Batch σ) → Prop} {begun middle final : Batch σ}
  {stage : Stage (Batch σ)} {stages others : List (Stage (Batch σ))}

/-- Stages lead from one store to another.  Each begins in the store in which the one
before it ended, and `Happens` holds of all of them. -/
inductive Leads (Happens : Stage (Batch σ) → Prop) :
    Batch σ → List (Stage (Batch σ)) → Batch σ → Prop where
  | nil {begun final : Batch σ} :
      begun.store = final.store → Leads Happens begun [] final
  | cons {begun final : Batch σ} {stage : Stage (Batch σ)}
      {stages : List (Stage (Batch σ))} :
      begun.store = stage.before.store → Happens stage →
      Leads Happens stage.after stages final →
      Leads Happens begun (stage :: stages) final

namespace Leads

theorem single {kind : StageKind} (h : Happens ⟨kind, begun, final⟩) :
    Leads Happens begun [⟨kind, begun, final⟩] final :=
  .cons rfl h (.nil rfl)

/-- Of the batch at the beginning only the store counts. -/
theorem of_begun {other : Batch σ} (h : Leads Happens begun stages final)
    (hstore : other.store = begun.store) : Leads Happens other stages final := by
  cases h with
  | nil hsame => exact .nil (hstore.trans hsame)
  | cons hsame hstage hrest => exact .cons (hstore.trans hsame) hstage hrest

/-- Of the batch at the end only the store counts. -/
theorem to_final {other : Batch σ} (h : Leads Happens begun stages final)
    (hstore : other.store = final.store) : Leads Happens begun stages other := by
  induction h with
  | nil hsame => exact .nil (hsame.trans hstore.symm)
  | cons hsame hstage _ ih => exact .cons hsame hstage (ih hstore)

theorem append (h : Leads Happens begun stages middle)
    (hothers : Leads Happens middle others final) :
    Leads Happens begun (stages ++ others) final := by
  induction h with
  | nil hsame => exact hothers.of_begun hsame
  | cons hsame hstage _ ih => exact .cons hsame hstage (ih hothers)

/-- What comes after a stage leads on from where it ended. -/
theorem after (h : Leads Happens begun (stages ++ stage :: others) final) :
    Leads Happens stage.after others final := by
  induction stages generalizing begun with
  | nil =>
      cases h with
      | cons _ _ hrest => exact hrest
  | cons first stages ih =>
      cases h with
      | cons _ _ hrest => exact ih hrest

/-- What no stage takes away is kept from the beginning up to every stage. -/
theorem kept {Kept : σ → Prop} (h : Leads Happens begun stages final)
    (hkeeps : ∀ stage, Happens stage → Kept stage.before.store → Kept stage.after.store)
    (hbegun : Kept begun.store) : ∀ stage ∈ stages, Kept stage.before.store := by
  induction h with
  | nil => exact List.forall_mem_nil _
  | cons hsame hstage _ ih =>
      rw [hsame] at hbegun
      exact List.forall_mem_cons.2 ⟨hbegun, ih (hkeeps _ hstage hbegun)⟩

end Leads

end Leads

/-! ## Between the attempts of a retry -/

namespace Retry.Surroundings

variable {σ : Type} {Happens : Stage (Batch σ) → Prop}
  {surroundings : Surroundings (Batch σ)} {number budget : Nat} {delay : Millis}
  {state next final : Batch σ} {error : ActionError} {ending : Ending}
  {inside : Nat → Batch σ → List (Stage (Batch σ))}

/-- `Happens` holds of what is done between attempts, and a report leaves the store
alone. -/
structure Does (surroundings : Surroundings (Batch σ))
    (Happens : Stage (Batch σ) → Prop) : Prop where
  revert : ∀ {state next result}, surroundings.revert state = (result, next) →
    Happens ⟨.revert, state, next⟩
  refresh : ∀ {state next result}, surroundings.refresh state = (result, next) →
    Happens ⟨.refresh, state, next⟩
  classify : ∀ {error number state next decision},
    surroundings.classify error number state = (decision, next) →
    Happens ⟨.classification, state, next⟩
  pause : ∀ {delay state next completed},
    surroundings.pause delay state = (completed, next) →
    Happens ⟨.wait completed, state, next⟩
  report : ∀ report state, (surroundings.report report state).store = state.store

/-- Stages were entered into the record, in which nothing was invoked. -/
def Idles (Happens : Stage (Batch σ) → Prop)
    (start stop : List (Stage (Batch σ)) × Batch σ) : Prop :=
  ∃ stages, stop.1 = start.1 ++ stages ∧ Leads Happens start.2 stages stop.2 ∧
    Stage.invocations stages = []

namespace Idles

variable {start : List (Stage (Batch σ)) × Batch σ} {record : List (Stage (Batch σ))}

theorem refl (start : List (Stage (Batch σ)) × Batch σ) : Idles Happens start start :=
  ⟨[], (List.append_nil _).symm, .nil rfl, rfl⟩

/-- One more stage after the others. -/
theorem append (h : Idles Happens start (record, state)) {kind : StageKind}
    (hkind : kind.outcome? = none) (hstage : Happens ⟨kind, state, next⟩) :
    Idles Happens start (record ++ [⟨kind, state, next⟩], next) := by
  obtain ⟨stages, rfl, hleads, hidle⟩ := h
  refine ⟨stages ++ [⟨kind, state, next⟩], List.append_assoc _ _ _,
    hleads.append (.single hstage), ?_⟩
  rw [Stage.invocations_append, hidle, List.nil_append, Stage.invocations_eq_nil_iff]
  exact List.forall_mem_singleton.2 hkind

section Calls

variable {result : Except ActionError Unit} (h : Idles Happens start (record, state))
  (hdoes : surroundings.Does Happens)

include h hdoes

theorem revert (hrevert : surroundings.revert state = (result, next)) :
    Idles Happens start (record ++ [⟨.revert, state, next⟩], next) :=
  h.append rfl (hdoes.revert hrevert)

theorem refresh (hrefresh : surroundings.refresh state = (result, next)) :
    Idles Happens start (record ++ [⟨.refresh, state, next⟩], next) :=
  h.append rfl (hdoes.refresh hrefresh)

theorem classify {decision : Decision}
    (hclassify : surroundings.classify error number state = (decision, next)) :
    Idles Happens start (record ++ [⟨.classification, state, next⟩], next) :=
  h.append rfl (hdoes.classify hclassify)

theorem pause {completed : Bool}
    (hpause : surroundings.pause delay state = (completed, next)) :
    Idles Happens start (record ++ [⟨.wait completed, state, next⟩], next) :=
  h.append rfl (hdoes.pause hpause)

theorem report (report : Report) :
    Idles Happens start (record, surroundings.report report state) := by
  obtain ⟨stages, hrecord, hleads, hidle⟩ := h
  exact ⟨stages, hrecord, hleads.to_final (hdoes.report report state), hidle⟩

end Calls

end Idles

variable (hdoes : surroundings.Does Happens)

include hdoes

/-- An attempt that continues is entered with what happens in it, and after it what
leads to the next attempt.  The last of this is a wait. -/
theorem Continues.staged
    (h : surroundings.Continues delay budget number state error next)
    (record : List (Stage (Batch σ))) :
    ∃ failed extended, surroundings.attempt number state = (.error error, failed) ∧
      (surroundings.staged inside).Continues delay budget number (record, state) error
        (extended, next) ∧
      Idles Happens (record ++ inside number state, failed) (extended, next) ∧
      ∃ judged, surroundings.pause delay judged = (true, next) := by
  obtain ⟨hattempt, hrevert, hrefresh, hspare, hclassify, hpause⟩ := h
  have hbegins (failed : Batch σ) :
      Idles Happens (record ++ inside number state, failed)
        (record ++ inside number state, failed) := .refl _
  have hidles := ((hbegins _).revert hdoes hrevert).refresh hdoes hrefresh
  replace hidles :=
    ((hidles.classify hdoes hclassify).report hdoes _).pause hdoes hpause
  refine ⟨_, _, hattempt, ?_, hidles, _, hpause⟩
  exact .intro (staged_attempt hattempt record) (staged_revert hrevert _)
    (staged_refresh hrefresh _) hspare (staged_classify hclassify _)
      (staged_pause hpause _)

/-- The last attempt is entered with what happens in it, and after it what is left to
do. -/
theorem Ends.staged (h : surroundings.Ends delay budget number state ending final)
    (record : List (Stage (Batch σ))) :
    ∃ attempted extended,
      surroundings.attempt number state = (ending.attempted, attempted) ∧
      (surroundings.staged inside).Ends delay budget number (record, state) ending
        (extended, final) ∧
      Idles Happens (record ++ inside number state, attempted) (extended, final) := by
  have hbegins (attempted : Batch σ) :
      Idles Happens (record ++ inside number state, attempted)
      (record ++ inside number state, attempted) := .refl _
  cases h with
  | @succeeded attempted hattempt =>
      have hends : (surroundings.staged inside).Ends delay budget number
          (record, state) .succeeded _ :=
        .succeeded (staged_attempt hattempt record)
      refine ⟨attempted, record ++ inside number state, hattempt, ?_⟩
      by_cases hlater : 1 < number
      · rw [if_pos hlater] at hends ⊢
        exact ⟨hends, (hbegins _).report hdoes _⟩
      · rw [if_neg hlater] at hends ⊢
        exact ⟨hends, hbegins _⟩
  | revertFailed hattempt hrevert =>
      refine ⟨_, _, hattempt, ?_, ((hbegins _).revert hdoes hrevert).report hdoes _⟩
      exact .revertFailed (staged_attempt hattempt record) (staged_revert hrevert _)
  | refreshFailed hattempt hrevert hrefresh =>
      have hidles := ((hbegins _).revert hdoes hrevert).refresh hdoes hrefresh
      refine ⟨_, _, hattempt, ?_, hidles.report hdoes _⟩
      exact .refreshFailed (staged_attempt hattempt record) (staged_revert hrevert _)
        (staged_refresh hrefresh _)
  | exhausted hattempt hrevert hrefresh hspent =>
      have hidles := ((hbegins _).revert hdoes hrevert).refresh hdoes hrefresh
      refine ⟨_, _, hattempt, ?_, hidles.report hdoes _⟩
      exact .exhausted (staged_attempt hattempt record) (staged_revert hrevert _)
        (staged_refresh hrefresh _) hspent
  | notRetryable hattempt hrevert hrefresh hspare hclassify =>
      have hidles := ((hbegins _).revert hdoes hrevert).refresh hdoes hrefresh
      refine ⟨_, _, hattempt, ?_, (hidles.classify hdoes hclassify).report hdoes _⟩
      exact .notRetryable (staged_attempt hattempt record) (staged_revert hrevert _)
        (staged_refresh hrefresh _) hspare (staged_classify hclassify _)
  | interrupted hattempt hrevert hrefresh hspare hclassify hpause =>
      have hidles := ((hbegins _).revert hdoes hrevert).refresh hdoes hrefresh
      replace hidles :=
        ((hidles.classify hdoes hclassify).report hdoes _).pause hdoes hpause
      refine ⟨_, _, hattempt, ?_, hidles.report hdoes _⟩
      exact .interrupted (staged_attempt hattempt record) (staged_revert hrevert _)
        (staged_refresh hrefresh _) hspare (staged_classify hclassify _)
          (staged_pause hpause _)

end Retry.Surroundings

end ContentBatch
