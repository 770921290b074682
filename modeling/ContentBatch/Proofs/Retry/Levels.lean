import ContentBatch.Proofs.Journal.Added
import ContentBatch.Proofs.Retry.Written

/-!
# The levels of nested retries

When retries stand around each other, the journal shows all of them at once.  What
belongs to which is told by the marks of the attempts: they nest like brackets, and how
many attempts are under way at a line is its level.  What the outermost retry does
itself stands on level zero, and what is done inside of its attempts stands below.

Only retries write the marks.  A closure of a host may use retries of its own, but it
leaves no mark without its counterpart, and then whatever it is built into writes
`Balanced` lines.  From such lines `layer` takes those of one level, and levels are
counted from the lines around.

Retries may stand around actions and around the work that they are bound in.
`Work.Wrapped` is work with any retries around it, in any of these places.

## Main results

* `Wrapped.induct`: what a retry passes on from inside to outside holds of all that is
  nested.
* `layer_attemptEntries_zero`, `layer_attemptEntries_succ`: an attempt moves its lines
  down by one level.
* `Work.balanced`: all compositions of balanced closures are balanced.
-/

namespace ContentBatch

/-! ## Nested retries -/

/-- Work with retries around it, outermost first.  A retry stands around work, or around
an action that is bound to its item afterwards. -/
inductive Work.Wrapped {σ : Type} (core : Work σ) : List Retry → Work σ → Prop where
  | core : Wrapped core [] core
  | action {retry : Retry} {retries : List Retry} {action : Action σ} {path : String} :
      Wrapped core retries (.bound action path) →
      Wrapped core (retry :: retries) (.bound (.retry retry action) path)
  | work {retry : Retry} {retries : List Retry} {work : Work σ} :
      Wrapped core retries work → Wrapped core (retry :: retries) (.retry retry work)

/-- What holds of the core, and of every retry of a job of which it holds, holds of the
whole.  Of the retries, `Q` is known. -/
theorem Work.Wrapped.induct {σ : Type} {repository : Repository σ} {core work : Work σ}
    {retries : List Retry} {Q : Retry → Prop} {P : List Retry → Job σ Unit → Prop}
    (hwork : Wrapped core retries work) (hretries : ∀ retry ∈ retries, Q retry)
    (hcore : ∀ scope, P [] (core.run repository scope))
    (hretry : ∀ (retry : Retry) retries scope span subject (job : Scope → Job σ Unit),
      Q retry → P retries (job (some span)) →
      P (retry :: retries) (retry.perform repository scope span subject job))
    (scope : Scope) : P retries (work.run repository scope) := by
  induction hwork generalizing scope with
  | core => exact hcore scope
  | @action retry retries action path _ ih =>
      obtain ⟨hfirst, hrest⟩ := List.forall_mem_cons.1 hretries
      exact hretry retry retries scope (.onItem Operation.retry path) path
        (fun scope => action.apply repository scope path) hfirst (ih hrest _)
  | @work retry retries work _ ih =>
      obtain ⟨hfirst, hrest⟩ := List.forall_mem_cons.1 hretries
      exact hretry retry retries scope work.retrySpan work.name
        (fun scope => work.run repository scope)
        hfirst (ih hrest _)

namespace Entry

/-- How much deeper than the line itself the next one is: an attempt has begun or has
ended. -/
def descent : Entry → Int
  | .attempt _ => 1
  | .attempted _ _ => -1
  | _ => 0

/-- How an attempt came out, if an entry is its end. -/
def outcome? : Entry → Option (Option ActionError)
  | .attempted _ failure => some failure
  | _ => none

end Entry

namespace Levels

/-! ## Layers -/

/-- The lines on a level, which is counted from the level of the first line.  The marks
of an attempt stand on the level around it. -/
def layer : Int → List Entry → List Entry
  | _, [] => []
  | level, entry :: entries =>
    -- what begins stands on the level before it, and what ends on the level after it
    if max level (level - entry.descent) =
        0 then entry :: layer (level - entry.descent) entries
    else layer (level - entry.descent) entries

/-- How much deeper the line after some lines is than the first of them. -/
def depth : List Entry → Int
  | [] => 0
  | entry :: entries => entry.descent + depth entries

variable {level : Int} {entries others inner : List Entry}

theorem depth_append (entries others : List Entry) :
    depth (entries ++ others) = depth entries + depth others := by
  induction entries with
  | nil => exact (Int.zero_add _).symm
  | cons entry entries ih => rw [List.cons_append, depth, depth, ih, Int.add_assoc]

theorem layer_append (level : Int) (entries others : List Entry) :
    layer level (entries ++ others) =
      layer level entries ++ layer (level - depth entries) others := by
  induction entries generalizing level with
  | nil =>
      show layer level others = layer (level - 0) others
      rw [Int.sub_zero]
  | cons entry entries ih =>
      have hdepth : level - depth (entry :: entries) =
          level - entry.descent - depth entries := by
        rw [depth]
        omega
      rw [List.cons_append, layer, layer, ih, hdepth]
      by_cases hlevel : max level (level - entry.descent) = 0
      · rw [if_pos hlevel, if_pos hlevel, List.cons_append]
      · rw [if_neg hlevel, if_neg hlevel]

/-- The lines stand on the level of the first of them, and none begins or ends an
attempt. -/
def Flat (entries : List Entry) : Prop :=
  ∀ entry ∈ entries, entry.descent = 0

theorem Flat.single {entry : Entry} (h : entry.descent = 0) : Flat [entry] :=
  List.forall_mem_singleton.2 h

theorem Flat.layer_zero (h : Flat entries) : layer 0 entries = entries := by
  induction entries with
  | nil => rfl
  | cons entry entries ih =>
      obtain ⟨hentry, hentries⟩ := List.forall_mem_cons.1 h
      rw [layer, hentry, Int.sub_zero, if_pos (Int.max_self 0), ih hentries]

theorem Flat.layer_eq_nil (h : Flat entries) (hlevel : level ≠ 0) :
    layer level entries = [] := by
  induction entries with
  | nil => rfl
  | cons entry entries ih =>
      obtain ⟨hentry, hentries⟩ := List.forall_mem_cons.1 h
      rw [layer, hentry, Int.sub_zero, Int.max_self, if_neg hlevel, ih hentries]

/-! ## Balanced lines -/

/-- Every attempt that begins also ends, and those that began last end first. -/
inductive Balanced : List Entry → Prop where
  | nil : Balanced []
  | cons {entry : Entry} {entries : List Entry} :
      entry.descent = 0 → Balanced entries → Balanced (entry :: entries)
  | attempt {number : Nat} {failure : Option ActionError} {inner entries : List Entry} :
      Balanced inner → Balanced entries →
      Balanced (.attempt number :: (inner ++ .attempted number failure :: entries))

namespace Balanced

theorem append (h : Balanced entries) (hothers : Balanced others) :
    Balanced (entries ++ others) := by
  induction h with
  | nil => exact hothers
  | cons hentry _ ih => exact .cons hentry ih
  | attempt hinner _ _ ih =>
      rw [List.cons_append, List.append_assoc, List.cons_append]
      exact .attempt hinner ih

theorem of_flat (h : Flat entries) : Balanced entries := by
  induction entries with
  | nil => exact .nil
  | cons entry entries ih =>
      obtain ⟨hentry, hentries⟩ := List.forall_mem_cons.1 h
      exact .cons hentry (ih hentries)

theorem single {entry : Entry} (h : entry.descent = 0) : Balanced [entry] :=
  .cons h .nil

/-- The span of a retry stands before its attempts, and its result after them. -/
theorem framed (h : Balanced entries) (span : Span) (scope : Scope)
    (failure : Option ActionError) :
    Balanced (.span span scope :: (entries ++ [.retried failure])) :=
  .cons rfl (h.append (.single rfl))

theorem depth_eq (h : Balanced entries) : depth entries = 0 := by
  induction h with
  | nil => rfl
  | cons hentry _ ih => rw [depth, hentry, ih, Int.add_zero]
  | @attempt number failure inner entries _ _ hinner hentries =>
      show depth ([.attempt number] ++
          (inner ++ ([.attempted number failure] ++ entries))) = 0
      rw [depth_append, depth_append, depth_append, hinner, hentries]
      rfl

/-- What comes after balanced lines is read on the level before them. -/
theorem layer_append (h : Balanced entries) (level : Int) (others : List Entry) :
    layer level (entries ++ others) = layer level entries ++ layer level others := by
  rw [Levels.layer_append, h.depth_eq, Int.sub_zero]

/-- Nothing in balanced lines stands above the first of them. -/
theorem layer_eq_nil (h : Balanced entries) (hlevel : level < 0) :
    layer level entries = [] := by
  induction h generalizing level with
  | nil => rfl
  | cons hentry _ ih =>
      rw [layer, hentry, Int.sub_zero, Int.max_self, if_neg (by omega), ih hlevel]
  | @attempt number failure inner entries hinner _ ihinner ih =>
      have hbegin : max level (level - Entry.descent (.attempt number)) ≠ 0 := by
        show max level (level - 1) ≠ 0
        omega
      have hend : max (level - 1)
          (level - 1 - Entry.descent (.attempted number failure)) ≠ 0 := by
        show max (level - 1) (level - 1 - -1) ≠ 0
        omega
      have hafter : level - 1 - Entry.descent (.attempted number failure) = level := by
        show level - 1 - -1 = level
        omega
      rw [layer, if_neg hbegin]
      show layer (level - 1) (inner ++ .attempted number failure :: entries) = []
      rw [hinner.layer_append, ihinner (by omega), layer, if_neg hend,
        hafter, ih hlevel]
      rfl

end Balanced

/-! ## Attempts -/

variable {number : Nat} {result : Except ActionError Unit}

theorem balanced_attemptEntries (h : Balanced inner) (number : Nat)
    (result : Except ActionError Unit) :
    Balanced (Retry.attemptEntries number result inner) :=
  .attempt h .nil

theorem layer_attempt_zero (number : Nat) (others : List Entry) :
    layer 0 (.attempt number :: others) = .attempt number :: layer (-1) others := rfl

theorem layer_attempt_succ (number level : Nat) (others : List Entry) :
    layer ((level + 1 : Nat) : Int) (.attempt number :: others) =
      layer level others := by
  have hbegin : max ((level + 1 : Nat) : Int)
      ((level + 1 : Nat) - Entry.descent (.attempt number)) ≠ 0 := by
    omega
  have hinside : ((level + 1 : Nat) : Int) -
      Entry.descent (.attempt number) = level := by
    show ((level + 1 : Nat) : Int) - 1 = level
    omega
  rw [layer, if_neg hbegin, hinside]

/-- The marks of an attempt stand around it. -/
theorem layer_attemptEntries_zero (h : Balanced inner) :
    layer 0 (Retry.attemptEntries number result inner) =
      [.attempt number, .attempted number (Job.failure? result)] := by
  rw [Retry.attemptEntries, layer_attempt_zero, h.layer_append,
    h.layer_eq_nil (by omega)]
  rfl

/-- What is done in an attempt stands one level below it. -/
theorem layer_attemptEntries_succ (h : Balanced inner) (level : Nat) :
    layer ((level + 1 : Nat) : Int) (Retry.attemptEntries number result inner) =
      layer level inner := by
  have hend : max (level : Int)
      (level - Entry.descent (.attempted number (Job.failure? result))) ≠ 0 := by
    show max (level : Int) (level - -1) ≠ 0
    omega
  rw [Retry.attemptEntries, layer_attempt_succ, h.layer_append, layer, if_neg hend]
  exact List.append_nil _

example :
    layer 1 (Retry.attemptEntries 1 (.ok ()) [.call .revert none, .retried none]) =
      [.call .revert none, .retried none] := rfl

/-! ## Invocations -/

/-- How the attempts on a level came out. -/
def outcomes (level : Int) (entries : List Entry) : List (Option ActionError) :=
  (layer level entries).filterMap Entry.outcome?

theorem Balanced.outcomes_append (h : Balanced entries) (level : Int)
    (others : List Entry) :
    outcomes level (entries ++ others) =
      outcomes level entries ++ outcomes level others := by
  unfold outcomes
  rw [h.layer_append, List.filterMap_append]

theorem Flat.outcomes_eq_nil (h : Flat entries) (level : Int) :
    outcomes level entries = [] := by
  unfold outcomes
  by_cases hlevel : level = 0
  · rw [hlevel, h.layer_zero, List.filterMap_eq_nil_iff]
    intro entry hentry
    cases entry with
    | attempted number failure => cases h _ hentry
    | _ => rfl
  · rw [h.layer_eq_nil hlevel]
    rfl

/-- The span before the attempts and the result after them are no attempts. -/
theorem Balanced.outcomes_framed (h : Balanced entries) (level : Int) (span : Span)
    (scope : Scope) (failure : Option ActionError) :
    outcomes level (.span span scope :: (entries ++ [.retried failure])) =
      outcomes level entries := by
  show outcomes level ([.span span scope] ++ (entries ++ [.retried failure])) = _
  have hspan : Flat [.span span scope] := .single rfl
  have hretried : Flat [.retried failure] := .single rfl
  rw [(Balanced.of_flat hspan).outcomes_append, h.outcomes_append,
    hspan.outcomes_eq_nil, hretried.outcomes_eq_nil, List.append_nil]
  rfl

/-- How the invocations of what stands inside of `depth` retries came out.  With no
retry around it, there is one invocation, and it is what the result tells of. -/
def invocations : Nat → Except ActionError Unit → List Entry → List (Option ActionError)
  | 0, result, _ => [Job.failure? result]
  | depth + 1, _, entries => outcomes depth entries

/-- An attempt invokes what its job invokes. -/
theorem outcomes_attemptEntries (h : Balanced inner) (number depth : Nat)
    (result : Except ActionError Unit) :
    outcomes depth (Retry.attemptEntries number result inner) =
      invocations depth result inner := by
  cases depth with
  | zero =>
      show (layer 0 _).filterMap Entry.outcome? = _
      rw [layer_attemptEntries_zero h]
      rfl
  | succ depth =>
      unfold outcomes
      rw [layer_attemptEntries_succ h]
      rfl

end Levels

/-! ## What retries write -/

open Levels

namespace Retry

variable {σ : Type} {retry : Retry} {repository : Repository σ} {scope : Scope}
  {span : Span} {subject : String} {number : Nat} {errors : List ActionError}
  {ending : Ending} {inner entries : List Entry}

theorem Ending.flat_closing (retry : Retry) (scope : Scope) (subject : String)
    (number : Nat) (ending : Ending) :
    Flat (ending.closing retry scope subject number) := by
  cases ending with
  | succeeded =>
      unfold closing
      by_cases hlater : 1 < number
      · rw [if_pos hlater]
        exact .single rfl
      · rw [if_neg hlater]
        exact List.forall_mem_nil _
  | _ => simp [Flat, closing, Entry.descent, reportEntry]

/-- The lines between attempt `number`, which failed with `error`, and the next one. -/
def betweenAttempts (retry : Retry) (scope : Scope) (subject : String) (number : Nat)
    (error : ActionError) : List Entry :=
  [.call .revert none, .call .refresh none, .decision retry.classifier error number,
    reportEntry scope subject (.failed (retry.policy.maxAttempts.toNat - number) error),
    .pause retry.policy.delay retry.token true]

theorem roundEntries_eq (error : ActionError) :
    retry.roundEntries scope subject number error inner =
      attemptEntries number (.error error) inner ++
        retry.betweenAttempts scope subject number error := rfl

theorem flat_betweenAttempts (retry : Retry) (scope : Scope) (subject : String)
    (number : Nat) (error : ActionError) :
    Flat (retry.betweenAttempts scope subject number error) := by
  simp [Flat, betweenAttempts, Entry.descent, reportEntry]

theorem balanced_roundEntries (h : Balanced inner) (error : ActionError) :
    Balanced (retry.roundEntries scope subject number error inner) :=
  (balanced_attemptEntries h number _).append
    (.of_flat (retry.flat_betweenAttempts scope subject number error))

/-- The lines of a course are balanced if those of its attempts are. -/
theorem Written.balanced {Good : Except ActionError Unit → List Entry → Prop}
    (hwritten : Written retry scope subject Good number errors ending entries)
    (hgood : ∀ result inner, Good result inner → Balanced inner) : Balanced entries :=
  by
  induction hwritten with
  | @ends number ending inner hinner =>
      have hattempt :=
        balanced_attemptEntries (hgood _ _ hinner) number ending.attempted
      exact hattempt.append (.of_flat (ending.flat_closing retry scope subject number))
  | continues hinner _ ih =>
    exact (balanced_roundEntries (hgood _ _ hinner) _).append ih

/-- A retry writes balanced lines if what it retries does. -/
theorem balanced_perform {job : Scope → Job σ Unit}
    (hjob : (job (some span)).Adds fun _ inner => Balanced inner) :
    (retry.perform repository scope span subject job).Adds fun _ entries =>
      Balanced entries := by
  refine (adds_perform hjob).mono ?_
  rintro result entries ⟨errors, ending, lines, hwritten, _, _, _, rfl⟩
  exact (hwritten.balanced fun _ _ => id).framed span scope _

end Retry

/-- All that is built from balanced closures is balanced. -/
theorem Work.balanced {σ : Type} (repository : Repository σ) (work : Work σ)
    (hclosures : work.Closures fun _ job => job.Adds fun _ entries => Balanced entries)
    (scope : Scope) :
    (work.run repository scope).Adds fun _ entries => Balanced entries := by
  have hcomposable : Job.Composable repository (fun call => call.rollsBack = false)
      (Job.Added Balanced) := by
    refine Job.composable_added .nil ?append ?span ?event ?call
    case append =>
      intro entries others
      exact Balanced.append
    case span =>
      intro span scope
      exact .single rfl
    case event =>
      intro event scope
      exact .single rfl
    case call =>
      intro call failure _
      exact .single rfl
  exact work.respects hcomposable hclosures
    (fun _ _ _ _ _ => Retry.balanced_perform) scope

end ContentBatch
