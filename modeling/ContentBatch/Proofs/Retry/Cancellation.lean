import ContentBatch.Proofs.Retry.Binding
import ContentBatch.Proofs.Retry.Invariant
import ContentBatch.Proofs.Retry.Stages
import ContentBatch.Rehearsal.World

/-!
# A cancelled token stops nested retries

Whether a token is cancelled is written in the store, so it may be cancelled in any
stage of a run: in an invocation, a rollback or a wait.  To be cancelled while an error
is classified is to be cancelled at the beginning of the wait that follows.  All that is
known of a repository is that nothing takes a cancellation back, and that a wait on the
token which is over while the token is cancelled was not completed.

`Happens` says what is done in each stage: the core is run, or the repository is called
or waits with the token.

Every retry waits before it begins another attempt.  So in the store in which the next
attempt begins, the token is not cancelled.  When all retries around a job have the
token, this goes for all invocations but the first: the error of an inner retry, which
the outer one may well want to retry, ends the outer one just the same.  `Heeds` says so
of the stages of a run, and it is passed on from the attempts of a course to the retry.

## Main results

* `Heeds.again`: an attempt that fails, what comes after it, and the other attempts.
* `Course.heeds`: a course heeds its token if its attempts do.
* `Wrapped.heeds`: all nested retries with the token heed it.
* `HeldWork.cancellation_stops_retries`: once the token is cancelled, the core is not
  invoked again.
-/

namespace ContentBatch

open Rehearsal

/-! ## Stages of a run that heeds a token -/

section Heeds

variable {σ : Type} {Happens : Stage (Batch σ) → Prop} {cancelled : σ → Prop}
  {begun middle next final : Batch σ} {result other : Except ActionError Unit}
  {stages between others : List (Stage (Batch σ))}

/-- What is known of the stages of a run that heeds a token.  The first of them is an
invocation, and while the token is cancelled no other invocation begins.  The last one
decides whether the run succeeds. -/
structure Heeds (Happens : Stage (Batch σ) → Prop) (cancelled : σ → Prop)
    (begun : Batch σ) (result : Except ActionError Unit)
    (stages : List (Stage (Batch σ))) (final : Batch σ) : Prop where
  leads : Leads Happens begun stages final
  begins : ∃ first rest, stages = first :: rest ∧ first.kind.outcome?.isSome ∧
    ∀ stage ∈ rest, cancelled stage.before.store → stage.kind.outcome? = none
  decided : ∃ last, (Stage.invocations stages).getLast? = some last ∧
      (result = .ok () ↔ last = none)

namespace Heeds

/-- An invocation by itself. -/
theorem invocation
    (h : Happens ⟨.invocation (Job.failure? result), begun, final⟩) :
    Heeds Happens cancelled begun result
      [⟨.invocation (Job.failure? result), begun, final⟩] final where
  leads := .single h
  begins := ⟨_, _, rfl, rfl, List.forall_mem_nil _⟩
  decided := by
    refine ⟨Job.failure? result, rfl, ?_⟩
    cases result <;> simp [Job.failure?]

/-- Stages without an invocation may follow.  A failure may become another one. -/
theorem closed (h : Heeds Happens cancelled begun result stages middle)
    (hbetween : Leads Happens middle between final)
    (hidle : Stage.invocations between = [])
    (hother : other = .ok () ↔ result = .ok ()) :
    Heeds Happens cancelled begun other (stages ++ between) final where
  leads := h.leads.append hbetween
  begins := by
    obtain ⟨first, rest, rfl, hfirst, hrest⟩ := h.begins
    refine ⟨first, rest ++ between, rfl, hfirst, List.forall_mem_append.2 ⟨hrest, ?_⟩⟩
    intro stage hstage _
    exact Stage.invocations_eq_nil_iff.1 hidle stage hstage
  decided := by
    obtain ⟨last, hlast, hdecided⟩ := h.decided
    rw [Stage.invocations_append, hidle, List.append_nil]
    exact ⟨last, hlast, hother.trans hdecided⟩

/-- Further stages may follow if the token is not cancelled when they begin. -/
theorem again (h : Heeds Happens cancelled begun result stages next)
    (hnext : ¬ cancelled next.store)
    (hothers : Heeds Happens cancelled next other others final) :
    Heeds Happens cancelled begun other (stages ++ others) final where
  leads := h.leads.append hothers.leads
  begins := by
    obtain ⟨first, rest, rfl, hfirst, hrest⟩ := h.begins
    refine ⟨first, rest ++ others, rfl, hfirst, List.forall_mem_append.2 ⟨hrest, ?_⟩⟩
    obtain ⟨second, later, rfl, _, hlater⟩ := hothers.begins
    refine List.forall_mem_cons.2 ⟨fun hcancelled => ?_, hlater⟩
    cases hothers.leads with
    | cons hsame => exact absurd (hsame ▸ hcancelled) hnext
  decided := by
    obtain ⟨last, hlast, hdecided⟩ := hothers.decided
    refine ⟨last, ?_, hdecided⟩
    rw [Stage.invocations_append, List.getLast?_append, hlast]
    rfl

variable
  (hkeeps : ∀ stage, Happens stage →
    cancelled stage.before.store → cancelled stage.after.store)

include hkeeps

/-- Whatever comes after a stage in which the token was cancelled, or by whose end it
had been cancelled before, nothing is invoked in it. -/
theorem no_invocation_after (h : Heeds Happens cancelled begun result stages final)
    {past future : List (Stage (Batch σ))} {stage : Stage (Batch σ)}
    (hstages : stages = past ++ stage :: future)
    (hcancelled : cancelled stage.after.store) : Stage.invocations future = [] := by
  obtain ⟨first, rest, hsplit, _, hrest⟩ := h.begins
  have hleads := h.leads
  rw [hstages] at hleads
  have hfuture : ∀ later ∈ future, later ∈ rest := by
    intro later hlater
    rw [hstages] at hsplit
    cases past with
    | nil => exact (List.cons.inj hsplit).2 ▸ hlater
    | cons _ past =>
        rw [← (List.cons.inj hsplit).2]
        exact List.mem_append_right _ (List.mem_cons_of_mem _ hlater)
  rw [Stage.invocations_eq_nil_iff]
  intro later hlater
  have hstill := hleads.after.kept hkeeps hcancelled later hlater
  exact hrest later (hfuture later hlater) hstill

/-- If the token is cancelled from the beginning, there is one invocation. -/
theorem one_invocation (h : Heeds Happens cancelled begun result stages final)
    (hcancelled : cancelled begun.store) :
    (Stage.invocations stages).length = 1 := by
  obtain ⟨first, rest, rfl, hfirst, hrest⟩ := h.begins
  have hkept := h.leads.kept hkeeps hcancelled
  have hidle : Stage.invocations rest = [] := by
    rw [Stage.invocations_eq_nil_iff]
    intro stage hstage
    exact hrest stage hstage (hkept stage (List.mem_cons_of_mem _ hstage))
  obtain ⟨outcome, houtcome⟩ := Option.isSome_iff_exists.1 hfirst
  have hone : Stage.invocations (first :: rest) = outcome :: Stage.invocations rest :=
    List.filterMap_cons_some houtcome
  rw [hone, hidle]
  rfl

end Heeds

end Heeds

/-! ## What is done in the stages -/

section Happens

variable {σ : Type} {repository : Repository σ} {token : Token} {core : Work σ}
  {cancelled : σ → Prop}

/-- What happens in the stages of retries with a token around a core: the core is run,
the repository rolls back or waits, or, while an error is classified, nothing. -/
inductive Happens (repository : Repository σ) (token : Token) (core : Work σ) :
    Stage (Batch σ) → Prop where
  | invocation {scope : Scope} {result : Except ActionError Unit}
      {before after : Batch σ} :
      core.run repository scope before = (result, after) →
      Happens repository token core
        ⟨.invocation (Job.failure? result), before, after⟩
  | revert {result : Except ActionError Unit} {before after : Batch σ} :
      repository.answer .revert before.store = (result, after.store) →
      Happens repository token core ⟨.revert, before, after⟩
  | refresh {result : Except ActionError Unit} {before after : Batch σ} :
      repository.answer .refresh before.store = (result, after.store) →
      Happens repository token core ⟨.refresh, before, after⟩
  | classification {before after : Batch σ} :
      after.store = before.store →
      Happens repository token core ⟨.classification, before, after⟩
  | wait {delay : Millis} {completed : Bool} {before after : Batch σ} :
      repository.sleepUnless token delay before.store = (completed, after.store) →
      Happens repository token core ⟨.wait completed, before, after⟩

/-- A cancellation is not taken back by what is done in the core. -/
theorem Work.keeps_cancelled (hcancels : repository.Cancels token cancelled)
    (core : Work σ)
    (hclosures : core.Closures fun _ job => job.Respects fun before after =>
      cancelled before.store → cancelled after.store) (scope : Scope) :
    (core.run repository scope).Respects fun before after =>
      cancelled before.store → cancelled after.store := by
  have hcomposable : Job.Composable repository (fun call => call.rollsBack = false)
      fun before after => cancelled before.store → cancelled after.store :=
    { refl := fun _ => id
      trans := fun _ _ _ hfirst hsecond => hsecond ∘ hfirst
      span := fun _ _ _ => id
      event := fun _ _ _ => id
      draw := fun _ _ => id
      call := fun call _ batch => hcancels.answer call batch.store }
  have hretryable : Retry.Retryable repository
      fun before after => cancelled before.store → cancelled after.store :=
    { revert := fun batch => hcancels.answer .revert batch.store
      refresh := fun batch => hcancels.answer .refresh batch.store
      sleep := fun delay batch => hcancels.sleep delay batch.store
      sleepUnless :=
        fun other delay batch => hcancels.sleepUnless other delay batch.store
      note := fun _ _ _ => id }
  exact core.respects hcomposable hclosures
    (fun retry scope span subject _ =>
      Retry.perform_respects hcomposable hretryable retry scope span subject) scope

namespace Happens

/-- No stage takes a cancellation back. -/
theorem keeps_cancelled (hcancels : repository.Cancels token cancelled)
    (hclosures : core.Closures fun _ job => job.Respects fun before after =>
      cancelled before.store → cancelled after.store)
    (stage : Stage (Batch σ)) (h : Happens repository token core stage)
    (hcancelled : cancelled stage.before.store) : cancelled stage.after.store := by
  cases h with
  | @invocation scope result before after hrun =>
      have hkeeps := core.keeps_cancelled hcancels hclosures scope before
      rw [hrun] at hkeeps
      exact hkeeps hcancelled
  | @revert result before after hanswer =>
      have hkeeps := hcancels.answer .revert before.store hcancelled
      rw [hanswer] at hkeeps
      exact hkeeps
  | @refresh result before after hanswer =>
      have hkeeps := hcancels.answer .refresh before.store hcancelled
      rw [hanswer] at hkeeps
      exact hkeeps
  | classification hstore =>
      rw [hstore]
      exact hcancelled
  | @wait delay completed before after hwait =>
      have hkeeps := hcancels.sleepUnless token delay before.store hcancelled
      rw [hwait] at hkeeps
      exact hkeeps

/-- When a wait is over that was completed, the token is not cancelled. -/
theorem not_cancelled_of_completed (hcancels : repository.Cancels token cancelled)
    {before after : Batch σ}
    (h : Happens repository token core ⟨.wait true, before, after⟩) :
    ¬ cancelled after.store := by
  intro hcancelled
  cases h with
  | @wait delay _ _ _ hwait =>
      have hincomplete := hcancels.waits delay before.store
      rw [hwait] at hincomplete
      cases hincomplete hcancelled

end Happens

end Happens

/-! ## Retries -/

namespace Retry

variable {σ : Type} {retry : Retry} {repository : Repository σ} {scope : Scope}
  {span : Span} {subject : String} {token : Token} {core : Work σ}
  {cancelled : σ → Prop} {surroundings : Surroundings (Batch σ)} {delay : Millis}
  {budget number : Nat} {state final : Batch σ} {errors : List ActionError}
  {ending : Ending} {inside : Nat → Batch σ → List (Stage (Batch σ))}

/-- A run succeeds if its last attempt does. -/
theorem Ending.result_eq_ok_iff (ending : Ending) (number : Nat) :
    ending.result number = .ok () ↔ ending.attempted = .ok () := by
  cases ending <;> simp [result, attempted]

/-- A course heeds the token if its attempts do and if the token is not cancelled when a
wait is over that was completed. -/
theorem Surroundings.Course.heeds {Happens : Stage (Batch σ) → Prop}
    (hdoes : surroundings.Does Happens)
    (hwaits : ∀ state next, Happens ⟨.wait true, state, next⟩ → ¬ cancelled next.store)
    (hinside : ∀ number state,
      Heeds Happens cancelled state (surroundings.attempt number state).1
        (inside number state) (surroundings.attempt number state).2)
    (hcourse : surroundings.Course delay budget number state errors ending final)
    (record : List (Stage (Batch σ))) :
    ∃ stages, (surroundings.staged inside).Course delay budget number
      (record, state) errors ending (record ++ stages, final) ∧
      Heeds Happens cancelled state ending.attempted stages final := by
  induction hcourse generalizing record with
  | @ends number state final ending hends =>
      obtain ⟨attempted, _, hattempt, hstaged, between, rfl, hleads, hidle⟩ :=
        hends.staged hdoes record
      have hattempted := hinside number state
      rw [hattempt] at hattempted
      refine ⟨inside number state ++ between, ?_,
        hattempted.closed hleads hidle Iff.rfl⟩
      rw [← List.append_assoc]
      exact .ends hstaged
  | @continues number state next final error errors ending hcontinues _ ih =>
      obtain ⟨failed, _, hattempt, hstaged, ⟨between, rfl, hleads, hidle⟩,
        judged, hpause⟩ := hcontinues.staged hdoes record
      have hfailed := hinside number state
      rw [hattempt] at hfailed
      have hnext : ¬ cancelled next.store := hwaits judged next (hdoes.pause hpause)
      obtain ⟨others, hcourse, hothers⟩ := ih (record ++ inside number state ++ between)
      refine ⟨inside number state ++ between ++ others, ?_,
        (hfailed.closed hleads hidle Iff.rfl).again hnext hothers⟩
      rw [← List.append_assoc, ← List.append_assoc]
      exact .continues hstaged hcourse

/-- Between attempts, a retry with the token calls the repository and waits. -/
theorem does_surroundings (htoken : retry.token = some token) (core : Work σ)
    (scope : Scope) (subject : String) (job : Job σ Unit) :
    (retry.surroundings repository scope subject job).Does
      (Happens repository token core) where
  revert {state next result} h := by
    obtain rfl := congrArg Prod.snd h
    exact .revert rfl
  refresh {state next result} h := by
    obtain rfl := congrArg Prod.snd h
    exact .refresh rfl
  classify {error number state next decision} h := by
    obtain rfl := congrArg Prod.snd h
    exact .classification rfl
  pause {delay state next completed} h := by
    have hwait : retry.wait repository delay state.store =
        repository.sleepUnless token delay state.store := by
      rw [wait, htoken]
    obtain ⟨rfl, rfl⟩ := Prod.mk.inj h
    exact .wait hwait.symm
  report _ _ := rfl

/-- The stages of a retry, of which `inside` tells those of its attempts. -/
def stages (retry : Retry) (repository : Repository σ) (scope : Scope) (span : Span)
    (subject : String) (job : Scope → Job σ Unit)
    (inside : Scope → Batch σ → List (Stage (Batch σ))) (batch : Batch σ) :
    List (Stage (Batch σ)) :=
  (retry.surroundings repository (some span) subject (job (some span))).stages
    (fun number state =>
      inside (some span) (Job.note (.attempt number) state).2) retry.policy
    (Job.note (.span span scope) batch).2

/-- A retry with the token heeds it if its job does. -/
theorem heeds_perform (hcancels : repository.Cancels token cancelled)
    (htoken : retry.token = some token) (job : Scope → Job σ Unit)
    (inside : Scope → Batch σ → List (Stage (Batch σ)))
    (hjob : ∀ batch, Heeds (Happens repository token core) cancelled batch
      (job (some span) batch).1 (inside (some span) batch) (job (some span) batch).2)
    (batch : Batch σ) :
    Heeds (Happens repository token core) cancelled batch
      (retry.perform repository scope span subject job batch).1
      (retry.stages repository scope span subject job inside batch)
      (retry.perform repository scope span subject job batch).2 := by
  let surroundings :=
    retry.surroundings repository (some span) subject (job (some span))
  have hdoes : surroundings.Does (Happens repository token core) :=
    does_surroundings htoken core _ _ _
  have hinside : ∀ number state,
      Heeds (Happens repository token core) cancelled state
        (surroundings.attempt number state).1
        (inside (some span) (Job.note (.attempt number) state).2)
        (surroundings.attempt number state).2 := by
    intro number state
    have hattempt := hjob (Job.note (.attempt number) state).2
    exact { hattempt with leads := .of_begun (.to_final hattempt.leads rfl) rfl }
  obtain ⟨errors, ending, final, hcourse, _, houtcome, _⟩ :=
    perform_completes retry repository scope span subject job batch
  obtain ⟨stages, hstaged, hheeds⟩ := hcourse.heeds hdoes
    (fun _ _ hwait => hwait.not_cancelled_of_completed hcancels) hinside []
  have hstages : retry.stages repository scope span subject job inside batch = stages :=
    congrArg (fun run => run.2.1) hstaged.run_eq
  rw [houtcome, hstages]
  have hresult := ending.result_eq_ok_iff (errors.length + 1)
  exact {
    leads := .of_begun (.to_final hheeds.leads rfl) rfl
    begins := hheeds.begins
    decided := by
      obtain ⟨last, hlast, hdecided⟩ := hheeds.decided
      exact ⟨last, hlast, hresult.trans hdecided⟩ }

end Retry

/-! ## Nested retries -/

namespace Work

variable {σ : Type} {repository : Repository σ} {core work : Work σ}
  {retries : List Retry} {token : Token} {cancelled : σ → Prop}

/-- The stages of work, as its outermost `levels` retries go through them.  What stands
inside of these is invoked. -/
def stages (repository : Repository σ) :
    Nat → Work σ → Scope → Batch σ → List (Stage (Batch σ))
  | levels + 1, .bound (.retry settings action) path, scope, batch =>
    settings.stages repository scope (.onItem Operation.retry path) path
      (fun scope => action.apply repository scope path)
      (fun scope => stages repository levels (.bound action path) scope) batch
  | levels + 1, .retry settings work, scope, batch =>
    settings.stages repository scope work.retrySpan work.name
      (fun scope => work.run repository scope)
      (fun scope => stages repository levels work scope) batch
  | _, work, scope, batch =>
    match work.run repository scope batch with
    | (result, final) => [⟨.invocation (Job.failure? result), batch, final⟩]

/-- Nested retries that all have the token heed it. -/
theorem Wrapped.heeds (hwork : Wrapped core retries work)
    (hcancels : repository.Cancels token cancelled)
    (htoken : ∀ retry ∈ retries, retry.token = some token) (scope : Scope)
    (batch : Batch σ) :
    Heeds (Happens repository token core) cancelled batch
      (work.run repository scope batch).1
      (work.stages repository retries.length scope batch)
      (work.run repository scope batch).2 := by
  induction hwork generalizing scope batch with
  | core => exact .invocation (.invocation rfl)
  | @action retry retries action path _ ih =>
      obtain ⟨hfirst, hrest⟩ := List.forall_mem_cons.1 htoken
      exact Retry.heeds_perform hcancels hfirst
        (fun scope => action.apply repository scope path) _ (ih hrest _) batch
  | @work retry retries work _ ih =>
      obtain ⟨hfirst, hrest⟩ := List.forall_mem_cons.1 htoken
      exact Retry.heeds_perform hcancels hfirst
        (fun scope => work.run repository scope) _ (ih hrest _) batch

end Work

namespace HeldWork

variable {σ : Type} {repository : Repository σ} {core : Work σ} {work : HeldWork σ}
  {retries : List Retry} {token : Token} {cancelled : σ → Prop}

/-- A token that all retries have stops them all, whatever holders there are between
them, and whatever the policies and the classifiers say.  A run goes through its stages:
they lead from the store before it to the store after it, and in each of them happens
what its kind says.  If the token is cancelled before the run, the core is invoked once.
Once it is cancelled by the end of some stage, no further invocation begins.  The last
invocation, which may be the one in which this happens, decides whether the run
succeeds. -/
theorem cancellation_stops_retries (hcancels : repository.Cancels token cancelled)
    (hwork : Work.Wrapped core retries work.bare)
    (htoken : ∀ retry ∈ retries, retry.token = some token)
    (hclosures : core.Closures fun _ job => job.Respects fun before after =>
      cancelled before.store → cancelled after.store)
    (scope : Scope) (batch : Batch σ) :
    let run := work.run repository scope batch
    let stages := work.bare.stages repository retries.length scope batch
    Leads (Happens repository token core) batch stages run.2 ∧
      (cancelled batch.store → (Stage.invocations stages).length = 1) ∧
      (∀ past stage future, stages = past ++ stage :: future →
        cancelled stage.after.store →
        Stage.invocations future = []) ∧
      ∃ last, (Stage.invocations stages).getLast? = some last ∧
        (run.1 = .ok () ↔ last = none) := by
  have hrun : work.run repository scope batch = work.bare.run repository scope batch :=
    work.alike_bare.run_eq repository scope batch
  have hheeds := hwork.heeds hcancels htoken scope batch
  rw [← hrun] at hheeds
  have hkeeps := Happens.keeps_cancelled hcancels hclosures
  exact ⟨hheeds.leads, hheeds.one_invocation hkeeps,
    fun _ _ _ => hheeds.no_invocation_after hkeeps, hheeds.decided⟩

/-- Two retries with one token, with holders around and between them.  The second
invocation, which is the sixth stage, cancels the token and fails, and both retries
would go on. -/
theorem cancelled_in_second_invocation :
    let conflict := ActionError.session "conflict"
    let world : World :=
      { queues := [(.replicate,
          [{ error := some conflict },
            { error := some conflict, cancel := some "stop" }])] }
    let retry : Retry := ⟨⟨3, 250, by decide⟩, .retryAll, some "stop"⟩
    let retries := [retry, retry]
    let replication : Action World := .replicate .activate .platform
    let work : HeldWork World :=
      .held .shared
        (.retry retry (.bound (.held .owned (.retry retry (.plain replication))) "/a"))
    let batch : Batch World := { store := world }
    let stages := work.bare.stages World.repository retries.length none batch
    World.repository.Cancels "stop" (fun world => "stop" ∈ world.cancelled) ∧
      Work.Wrapped (.bound replication "/a") retries work.bare ∧
      (∀ settings ∈ retries, settings.token = some "stop") ∧
      ∃ stage, stages = stages.take 5 ++ stage :: stages.drop 6 ∧
        stage.kind = .invocation (some conflict) ∧
        "stop" ∉ stage.before.store.cancelled ∧ "stop" ∈ stage.after.store.cancelled ∧
        Stage.invocations (stages.drop 6) = [] ∧
        (work.run World.repository none batch).1 ≠ .ok () := by
  intro conflict world retry retries replication work batch stages
  have hcancels := World.repository_cancels "stop"
  have hwork : Work.Wrapped (.bound replication "/a") retries work.bare :=
    .work (.action .core)
  have htoken : ∀ settings ∈ retries, settings.token = some "stop" := by
    simp [retries, retry]
  obtain ⟨_, _, hstops, last, hlast, hdecided⟩ :=
    cancellation_stops_retries hcancels hwork htoken trivial none batch
  have hsixth : stages[5]?.map
      (fun stage => (stage.kind, decide ("stop" ∈ stage.before.store.cancelled),
        decide ("stop" ∈ stage.after.store.cancelled))) =
      some (.invocation (some conflict), false, true) := by
    decide +kernel
  obtain ⟨stage, hstage, hkind⟩ := Option.map_eq_some_iff.1 hsixth
  obtain ⟨hkind, hflags⟩ := Prod.mk.inj hkind
  obtain ⟨hbefore, hcancelled⟩ := Prod.mk.inj hflags
  rw [decide_eq_false_iff_not] at hbefore
  rw [decide_eq_true_iff] at hcancelled
  have hsplit : stages = stages.take 5 ++ stage :: stages.drop 6 := by
    obtain ⟨hlength, rfl⟩ := List.getElem?_eq_some_iff.1 hstage
    rw [← List.drop_eq_getElem_cons hlength, List.take_append_drop]
  have hinvocations : (Stage.invocations stages).getLast? = some (some conflict) := by
    decide +kernel
  refine ⟨hcancels, hwork, htoken, stage, hsplit, hkind, hbefore, hcancelled,
    hstops _ _ _ hsplit hcancelled, ?_⟩
  intro hok
  rw [hdecided.1 hok, hinvocations] at hlast
  cases hlast

end HeldWork

end ContentBatch
