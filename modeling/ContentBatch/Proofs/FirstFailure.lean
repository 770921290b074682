import ContentBatch.Proofs.Composition
import ContentBatch.Rehearsal.World

/-!
# The first failure ends the run

Without retries there is nobody to go on after a failure.  A call that fails is the last
thing that happens, and its error is what the run comes out with, from however deep
inside of fan-outs and filters it comes.

The journal says which calls failed, but not what the others said.  So a run is told
here as a `Dialogue` with the repository: the spans and events of the run, and the calls
with their answers.  `Ends` is the grammar of dialogues that stop at the first failure.
An operation that needs an asset asks for it as soon as its span is open, and fails if
there is none; a filter asks as well, but takes no asset for an answer.

## Main results

* `ends_inherited`: to end at the first failure is passed on from the parts to the
  whole.
* `first_failure_ends_run`: it holds of all actions without retries and closures.
-/

namespace ContentBatch

open Rehearsal

/-! ## Dialogues -/

/-- One line of a run.  A call stands there with its answer. -/
inductive Line where
  | span (span : Span) (within : Scope)
  | event (event : Event) (within : Scope)
  | call (call : Call) (answer : Except ActionError call.Answer)

/-- What the journal keeps of a line. -/
def Line.entry : Line → Entry
  | span opened scope => .span opened scope
  | event reported scope => .event reported scope
  | call asked answer => .call asked (Job.failure? answer)

/-- The repository gives the answers of a run, one after another, and goes from one
store to another. -/
inductive Dialogue {σ : Type} (repository : Repository σ) :
    σ → List Line → σ → Prop where
  | nil {store : σ} : Dialogue repository store [] store
  | span {store final : σ} {span : Span} {scope : Scope} {lines : List Line} :
      Dialogue repository store lines final →
      Dialogue repository store (.span span scope :: lines) final
  | event {store final : σ} {event : Event} {scope : Scope} {lines : List Line} :
      Dialogue repository store lines final →
      Dialogue repository store (.event event scope :: lines) final
  | call {store next final : σ} {call : Call} {answer : Except ActionError call.Answer}
      {lines : List Line} :
      repository.answer call store = (answer, next) →
      Dialogue repository next lines final →
      Dialogue repository store (.call call answer :: lines) final

theorem Dialogue.append {σ : Type} {repository : Repository σ} {store next final : σ}
    {lines others : List Line} (hlines : Dialogue repository store lines next)
    (hothers : Dialogue repository next others final) :
    Dialogue repository store (lines ++ others) final := by
  induction hlines with
  | nil => exact hothers
  | span _ ih => exact .span (ih hothers)
  | event _ ih => exact .event (ih hothers)
  | call hanswer _ ih => exact .call hanswer (ih hothers)

/-! ## Ending at the first failure -/

/-- The lines of a run in which nothing fails: every call is answered, and every
operation that needs an asset asks for it at once and finds it. -/
inductive Smooth : List Line → Prop where
  | nil : Smooth []
  | span {span : Span} {scope : Scope} {lines : List Line} :
      Operation.needsAsset span.operation = false → Smooth lines →
      Smooth (.span span scope :: lines)
  | event {event : Event} {scope : Scope} {lines : List Line} :
      Smooth lines → Smooth (.event event scope :: lines)
  | call {call : Call} {answer : call.Answer} {lines : List Line} :
      Smooth lines → Smooth (.call call (.ok answer) :: lines)
  | asset {operation path : String} {scope : Scope} {asset : Asset}
      {lines : List Line} :
      Operation.needsAsset operation = true → Smooth lines →
      Smooth (.span (.onItem operation path) scope ::
        .call (.resolve path) (.ok (some asset)) :: lines)

/-- The result and the lines of a run that stops at the first failure.  There are three
ways to fail: with a call, with the call that asks for an asset, and because there is no
asset. -/
inductive Ends {α : Type} : Except ActionError α → List Line → Prop where
  | completed {value : α} {lines : List Line} : Smooth lines → Ends (.ok value) lines
  | failed {past : List Line} {call : Call} {error : ActionError} :
      Smooth past → Ends (.error error) (past ++ [.call call (.error error)])
  | unresolved {past : List Line} {operation path : String} {scope : Scope}
      {error : ActionError} :
      Smooth past → Operation.needsAsset operation = true →
      Ends (.error error)
        (past ++ [.span (.onItem operation path) scope,
          .call (.resolve path) (.error error)])
  | missing {past : List Line} {operation path : String} {scope : Scope} :
      Smooth past → Operation.needsAsset operation = true →
      Ends (.error (.assetNotFound path))
        (past ++ [.span (.onItem operation path) scope,
          .call (.resolve path) (.ok none)])

variable {α β : Type} {result : Except ActionError α}
  {lines others past future : List Line} {error : ActionError}

namespace Smooth

theorem append (hlines : Smooth lines) (hothers : Smooth others) :
    Smooth (lines ++ others) := by
  induction hlines with
  | nil => exact hothers
  | span hoperation _ ih => exact .span hoperation ih
  | event _ ih => exact .event ih
  | call _ ih => exact .call ih
  | asset hoperation _ ih => exact .asset hoperation ih

/-- Every call is answered. -/
theorem not_failed (h : Smooth lines) (call : Call) (error : ActionError) :
    .call call (.error error) ∉ lines := by
  intro hline
  induction h with
  | nil => cases hline
  | span _ _ ih => exact ih ((List.mem_cons.1 hline).resolve_left nofun)
  | event _ ih => exact ih ((List.mem_cons.1 hline).resolve_left nofun)
  | call _ ih => exact ih ((List.mem_cons.1 hline).resolve_left nofun)
  | asset _ _ ih =>
      have hrest := (List.mem_cons.1 hline).resolve_left nofun
      exact ih ((List.mem_cons.1 hrest).resolve_left nofun)

/-- Every asset that is needed is found. -/
theorem not_missing {operation path : String} {scope : Scope} (h : Smooth lines)
    (hoperation : Operation.needsAsset operation = true) :
    lines ≠ past ++ .span (.onItem operation path) scope ::
      .call (.resolve path) (.ok none) :: future := by
  intro hlines
  induction h generalizing past with
  | nil =>
    exact List.append_ne_nil_of_right_ne_nil past (List.cons_ne_nil _ _) hlines.symm
  | span hother _ ih =>
      cases past with
      | nil =>
          cases hlines
          exact Bool.false_ne_true (hother.symm.trans hoperation)
      | cons line past => exact ih (List.cons.inj hlines).2
  | event _ ih =>
      cases past with
      | nil => cases hlines
      | cons line past => exact ih (List.cons.inj hlines).2
  | call _ ih =>
      cases past with
      | nil => cases hlines
      | cons line past => exact ih (List.cons.inj hlines).2
  | asset _ _ ih =>
      rcases past with _ | ⟨line, _ | ⟨other, past⟩⟩
      · cases hlines
      · cases hlines
      · exact ih (List.cons.inj (List.cons.inj hlines).2).2

end Smooth

/-- A line is the last one, or it stands before the last one. -/
theorem concat_eq_append {last line : Line}
    (h : past ++ [last] = others ++ line :: future) :
    (future = [] ∧ last = line) ∨
    ∃ rest, future = rest ++ [last] ∧ past = others ++ line :: rest := by
  rcases List.eq_nil_or_concat future with rfl | ⟨rest, final, rfl⟩
  · obtain ⟨_, hlast⟩ := List.append_inj' h rfl
    exact .inl ⟨rfl, (List.cons.inj hlast).1⟩
  · rw [List.concat_eq_append, ← List.cons_append, ← List.append_assoc] at h
    obtain ⟨rfl, hlast⟩ := List.append_inj' h rfl
    obtain rfl := (List.cons.inj hlast).1
    exact .inr ⟨rest, List.concat_eq_append, rfl⟩

namespace Ends

/-- What comes after a run in which nothing fails decides how the whole ends. -/
theorem after (hpast : Smooth past) (h : Ends result lines) :
    Ends result (past ++ lines) := by
  cases h with
  | completed hlines => exact .completed (hpast.append hlines)
  | failed hlines =>
      rw [← List.append_assoc]
      exact .failed (hpast.append hlines)
  | unresolved hlines hoperation =>
      rw [← List.append_assoc]
      exact .unresolved (hpast.append hlines) hoperation
  | missing hlines hoperation =>
      rw [← List.append_assoc]
      exact .missing (hpast.append hlines) hoperation

/-- A run that fails fails for everything that waits for it. -/
theorem abandon (h : Ends (.error error : Except ActionError α) lines) :
    Ends (.error error : Except ActionError β) lines := by
  cases h with
  | failed hpast => exact .failed hpast
  | unresolved hpast hoperation => exact .unresolved hpast hoperation
  | missing hpast hoperation => exact .missing hpast hoperation

theorem smooth {value : α} (h : Ends (.ok value) lines) : Smooth lines := by
  cases h with
  | completed hlines => exact hlines

/-- A call that fails is the last line, and its error is the result. -/
theorem of_failed {call : Call} (h : Ends result lines)
    (hlines : lines = past ++ .call call (.error error) :: future) :
    future = [] ∧ result = .error error := by
  have hlast {before : List Line} {last : Line}
      (hbefore : .call call (.error error) ∉ before)
      (heq : before ++ [last] = past ++ .call call (.error error) :: future) :
      future = [] ∧ last = .call call (.error error) := by
    rcases concat_eq_append heq with hlast | ⟨rest, _, rfl⟩
    · exact hlast
    · exact absurd (List.mem_append_right _ List.mem_cons_self) hbefore
  have hopened {before : List Line} {span : Span} {scope : Scope}
      (hbefore : Smooth before) :
      .call call (.error error) ∉ before ++ [.span span scope] := by
    intro hline
    rcases List.mem_append.1 hline with hline | hline
    · exact hbefore.not_failed call error hline
    · cases List.mem_singleton.1 hline
  cases h with
  | completed hsmooth =>
      rw [hlines] at hsmooth
      exact absurd (List.mem_append_right _ List.mem_cons_self)
        (hsmooth.not_failed call error)
  | failed hsmooth =>
      obtain ⟨hfuture, hcall⟩ := hlast (hsmooth.not_failed call error) hlines
      cases hcall
      exact ⟨hfuture, rfl⟩
  | unresolved hsmooth _ =>
      rw [List.append_cons] at hlines
      obtain ⟨hfuture, hcall⟩ := hlast (hopened hsmooth) hlines
      cases hcall
      exact ⟨hfuture, rfl⟩
  | missing hsmooth _ =>
      rw [List.append_cons] at hlines
      obtain ⟨_, hcall⟩ := hlast (hopened hsmooth) hlines
      cases hcall

/-- An operation that needs an asset and finds none ends the run. -/
theorem of_missing {operation path : String} {scope : Scope} (h : Ends result lines)
    (hoperation : Operation.needsAsset operation = true)
    (hlines : lines = past ++ .span (.onItem operation path) scope ::
      .call (.resolve path) (.ok none) :: future) :
    future = [] ∧ result = .error (.assetNotFound path) := by
  have hlast {before : List Line} {last : Line}
      (hbefore : ∀ rest, before ≠
        past ++ .span (.onItem operation path) scope ::
          .call (.resolve path) (.ok none) :: rest)
      (heq : before ++ [last] =
        past ++ .span (.onItem operation path) scope ::
          .call (.resolve path) (.ok none) :: future) :
      future = [] ∧ last = .call (.resolve path) (.ok none) := by
    rw [List.append_cons past] at heq
    rcases concat_eq_append heq with hlast | ⟨rest, _, hrest⟩
    · exact hlast
    · rw [← List.append_cons] at hrest
      exact absurd hrest (hbefore rest)
  have hopened {before : List Line} {span : Span} {scope' : Scope}
      (hbefore : Smooth before)
      (rest : List Line) : before ++ [.span span scope'] ≠
        past ++ .span (.onItem operation path) scope ::
          .call (.resolve path) (.ok none) :: rest := by
    intro heq
    rw [List.append_cons past] at heq
    rcases concat_eq_append heq with ⟨_, hspan⟩ | ⟨rest, _, hrest⟩
    · cases hspan
    · rw [← List.append_cons] at hrest
      exact hbefore.not_missing hoperation hrest
  cases h with
  | completed hsmooth => exact absurd hlines (hsmooth.not_missing hoperation)
  | failed hsmooth =>
      obtain ⟨_, hcall⟩ := hlast (fun _ => hsmooth.not_missing hoperation) hlines
      cases hcall
  | unresolved hsmooth _ =>
      rw [List.append_cons] at hlines
      obtain ⟨_, hcall⟩ := hlast (hopened hsmooth) hlines
      cases hcall
  | missing hsmooth _ =>
      rw [List.append_cons] at hlines
      obtain ⟨hfuture, hcall⟩ := hlast (hopened hsmooth) hlines
      cases hcall
      exact ⟨hfuture, rfl⟩

/-- Without a call that fails, a run succeeds or needs an asset that is not there. -/
theorem of_answered {result : Except ActionError Unit} (h : Ends result lines)
    (hanswered : ∀ call error, .call call (.error error) ∉ lines) :
    result = .ok () ∨
      ∃ past operation path scope, Operation.needsAsset operation = true ∧
        lines = past ++ [.span (.onItem operation path) scope,
          .call (.resolve path) (.ok none)] ∧
        result = .error (.assetNotFound path) := by
  cases h with
  | completed _ => exact .inl rfl
  | failed _ =>
    exact absurd (List.mem_append_right _ (List.mem_singleton_self _)) (hanswered _ _)
  | unresolved _ _ =>
      rw [List.append_cons] at hanswered
      exact absurd (List.mem_append_right _ (List.mem_singleton_self _)) (hanswered _ _)
  | missing _ hoperation => exact .inr ⟨_, _, _, _, hoperation, rfl, rfl⟩

end Ends

/-! ## Jobs that end at the first failure -/

namespace Job

variable {σ : Type}

/-- The job talks to the repository until something fails, and writes down what is
said. -/
def EndsAtFailure (repository : Repository σ) (α : Type) (job : Job σ α) : Prop :=
  ∀ batch, ∃ lines, Dialogue repository batch.store lines (job batch).2.store ∧
    (job batch).2.journal.toList = batch.journal.toList ++ lines.map Line.entry ∧
    Ends (job batch).1 lines

/-- To end at the first failure is passed on from the parts to the whole. -/
theorem ends_inherited (repository : Repository σ) (allowed : Call → Prop) :
    Inherited repository allowed (EndsAtFailure repository) where
  pure value batch := ⟨[], .nil, (List.append_nil _).symm, .completed .nil⟩
  bind := by
    intro α β first next hfirst hnext batch
    obtain ⟨lines, hdialogue, hjournal, hends⟩ := hfirst batch
    rw [bind_apply]
    rcases hresult : first batch with ⟨error | value, middle⟩
    case error =>
      rw [hresult] at hdialogue hjournal hends
      exact ⟨lines, hdialogue, hjournal, hends.abandon⟩
    case ok =>
      rw [hresult] at hdialogue hjournal hends
      obtain ⟨others, hothers, hrest, hlast⟩ := hnext value middle
      refine ⟨lines ++ others, hdialogue.append hothers, ?_, hlast.after hends.smooth⟩
      rw [hrest, hjournal, List.map_append, List.append_assoc]
  emit scope event batch :=
    ⟨[.event event scope], .event .nil, Array.toList_push, .completed (.event .nil)⟩
  draw rotation batch := ⟨[], .nil, (List.append_nil _).symm, .completed .nil⟩
  call call _ batch := by
    refine ⟨[.call call (repository.answer call batch.store).1], .call rfl .nil,
      Array.toList_push, ?_⟩
    show Ends (repository.answer call batch.store).1 _
    cases (repository.answer call batch.store).1 with
    | ok answer => exact .completed (.call .nil)
    | error error => exact @Ends.failed _ [] _ _ .nil
  within := by
    intro α scope operation path steps hoperation hsteps batch
    let span := Span.onItem operation path
    obtain ⟨lines, hdialogue, hjournal, hends⟩ :=
      hsteps (note (.span span scope) batch).2
    have hspan : Smooth [.span span scope] := .span hoperation .nil
    refine ⟨.span span scope :: lines, .span hdialogue, ?_, hends.after hspan⟩
    show (steps (some span) (note (.span span scope) batch).2).2.journal.toList = _
    rw [hjournal]
    show (batch.journal.push _).toList ++ _ = _
    rw [Array.toList_push, List.append_assoc]
    rfl
  withinAsset := by
    intro scope operation path rest hoperation hrest batch
    let span := Span.onItem operation path
    let opened := (note (.span span scope) batch).2
    have hjob : Job.within scope span
        (fun scope => Action.resolveAsset repository path >>= rest scope)
        batch = (Action.resolveAsset repository path >>= rest (some span)) opened := rfl
    have hdialogue : Dialogue repository batch.store
        [.span span scope,
          .call (.resolve path) (ask repository (.resolve path) opened).1]
        (ask repository (.resolve path) opened).2.store := .span (.call rfl .nil)
    have hjournal : (ask repository (.resolve path) opened).2.journal.toList =
        batch.journal.toList ++ List.map Line.entry
          [.span span scope,
            .call (.resolve path) (ask repository (.resolve path) opened).1] := by
      show ((batch.journal.push _).push _).toList = _
      rw [Array.toList_push, Array.toList_push, List.append_assoc]
      rfl
    rw [hjob, bind_apply, Action.resolveAsset, bind_apply]
    rcases hasked : ask repository (.resolve path) opened with
        ⟨error | _ | asset, asked⟩
    all_goals rw [hasked] at hdialogue hjournal
    case error =>
      exact ⟨_, hdialogue, hjournal, @Ends.unresolved _ [] _ _ _ _ .nil hoperation⟩
    case ok.none =>
      exact ⟨_, hdialogue, hjournal, @Ends.missing _ [] _ _ _ .nil hoperation⟩
    case ok.some =>
      obtain ⟨lines, hothers, hrest, hends⟩ := hrest asset asked
      refine ⟨_, hdialogue.append hothers, ?_, hends.after (.asset hoperation .nil)⟩
      show (rest (some span) asset asked).2.journal.toList = _
      rw [hrest, hjournal, List.map_append, List.append_assoc]

end Job

/-! ## Actions -/

/-- A run that stops at the first failure, told line by line.  A call that fails is the
last thing that happens, and its error is the result, as it is.  An operation that finds
no asset where it needs one is the last to happen as well.  If neither is the case, the
run succeeds. -/
structure StopsAtFailure {σ : Type} (repository : Repository σ) (before : Batch σ)
    (run : Except ActionError Unit × Batch σ) (lines : List Line) : Prop where
  dialogue : Dialogue repository before.store lines run.2.store
  journal : run.2.journal.toList = before.journal.toList ++ lines.map Line.entry
  failed : ∀ past call error future,
      lines = past ++ .call call (.error error) :: future →
    future = [] ∧ run.1 = .error error
  missing : ∀ past operation path scope future, Operation.needsAsset operation = true →
    lines = past ++ .span (.onItem operation path) scope ::
      .call (.resolve path) (.ok none) :: future →
    future = [] ∧ run.1 = .error (.assetNotFound path)
  answered : (∀ call error, .call call (.error error) ∉ lines) →
    run.1 = .ok () ∨
      ∃ past operation path scope, Operation.needsAsset operation = true ∧
        lines = past ++ [.span (.onItem operation path) scope,
          .call (.resolve path) (.ok none)] ∧
        run.1 = .error (.assetNotFound path)

namespace Action

variable {σ : Type}

/-- An action without retries and closures stops at the first failure, and so does the
action when it is bound to its item. -/
theorem first_failure_ends_run (repository : Repository σ) (scope : Scope)
    (action : Action σ) (path : String) (hfree : action.RetryFree)
    (hclosures : action.Closures fun _ _ => False) (batch : Batch σ) :
    (∃ lines, StopsAtFailure repository batch
      (action.apply repository scope path batch) lines) ∧
      ∃ lines, StopsAtFailure repository batch
        ((Work.bound action path).run repository scope batch) lines := by
  have hends : Job.EndsAtFailure repository Unit (action.apply repository scope path) :=
    action.inherits (Job.ends_inherited repository _)
      (Closures.mono (fun _ _ => False.elim) hclosures)
      (.inl hfree) scope path
  obtain ⟨lines, hdialogue, hjournal, hlines⟩ := hends batch
  have hstops : StopsAtFailure repository batch
      (action.apply repository scope path batch) lines :=
    { dialogue := hdialogue
      journal := hjournal
      failed := fun _ _ _ _ => hlines.of_failed
      missing := fun _ _ _ _ _ => hlines.of_missing
      answered := hlines.of_answered }
  exact ⟨⟨lines, hstops⟩, lines, hstops⟩

/-- A workflow that fails for the second of two renditions, behind a filter that is
asked about both. -/
theorem failing_workflow_ends_fanOut :
    let renditions : List Rendition :=
      [⟨"web", "/a/web", .epoch⟩, ⟨"print", "/a/print", .epoch⟩]
    let world : World :=
      { queues := [(.execute, [{}, { error := some (.workflow "/a" "denied") }])]
        working := [⟨"/a", "/a", renditions⟩] }
    let action :
        Action World := .withAllRenditions (.startWorkflow ⟨"publish", none, []⟩)
      [.negation .isAsset]
    let run := action.apply World.repository none "/a" { store := world }
    action.RetryFree ∧ (action.Closures fun _ _ => False) ∧
      Job.failure? run.1 = some (.workflow "/a" "denied") ∧
      (∃ lines, StopsAtFailure World.repository { store := world } run lines) ∧
      ∃ lines, StopsAtFailure World.repository { store := world }
        ((Work.bound action "/a").run World.repository none { store := world })
          lines := by
  intro renditions world action run
  have hclosures : action.Closures fun _ _ => False :=
    ⟨trivial, List.forall_mem_singleton.2 trivial⟩
  have hresult : Job.failure? run.1 = some (.workflow "/a" "denied") := by
    decide +kernel
  exact ⟨trivial, hclosures, hresult,
    first_failure_ends_run World.repository none action "/a" trivial hclosures
      { store := world }⟩

end Action

end ContentBatch
