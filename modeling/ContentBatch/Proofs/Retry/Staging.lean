import ContentBatch.Proofs.Composition
import ContentBatch.Proofs.Retry.Completion

/-!
# What a rollback takes with it

Actions stage changes on the session and leave it to others to save them.  A retry and
the fan-out around it share one session, and `revert` discards everything that was
staged on it, whoever staged it.  So when the action is retried for one rendition, the
changes that were staged for earlier renditions are lost, even though nothing failed for
them.

What is pending is a list of changes that can be read off the store.  `Staging` says
what the calls around an action do with it, `Stages` that a job only adds to it.

## Main results

* `Action.stages`: what is built without retries from calls and closures that stage
  changes stages changes.
* `Action.fanOut_pending`: after a fan-out of a retried action has succeeded, the
  pending changes are those of the successful invocations since the last rollback.
-/

namespace ContentBatch

variable {σ δ : Type}

/-! ## Changes that are pending -/

/-- A session with changes that are pending until they are saved: `revert` discards them
all, and neither reading nor waiting stages any. -/
structure Staging (repository : Repository σ) (pending : σ → List δ) : Prop where
  revert : ∀ store, (repository.answer .revert store).1 = .ok () →
    pending (repository.answer .revert store).2 = []
  refresh : ∀ store, pending store = [] →
      pending (repository.answer .refresh store).2 = []
  resolve :
      ∀ path store, pending (repository.answer (.resolve path) store).2 = pending store
  sleep : ∀ delay store, pending store = [] →
      pending (repository.sleep delay store) = []
  sleepUnless : ∀ token delay store, pending store = [] →
    pending (repository.sleepUnless token delay store).2 = []

namespace Job

/-- Changes were added to those that were pending. -/
def Staged (pending : σ → List δ) (before after : Batch σ) : Prop :=
  ∃ changes, pending after.store = pending before.store ++ changes

/-- The same changes are pending as before, as after a filter, which only reads. -/
def Kept (pending : σ → List δ) (before after : Batch σ) : Prop :=
  pending after.store = pending before.store

/-- Staging can be strung together, if all calls but the rollback stage changes. -/
theorem composable_staged {repository : Repository σ} {pending : σ → List δ}
    (hcalls : ∀ call store, call.rollsBack = false →
      ∃ changes, pending (repository.answer call store).2 = pending store ++ changes) :
    Composable repository (fun call => call.rollsBack = false) (Staged pending) where
  refl batch := ⟨[], (List.append_nil _).symm⟩
  trans := by
    rintro first second third ⟨changes, hchanges⟩ ⟨others, hothers⟩
    refine ⟨changes ++ others, ?_⟩
    rw [hothers, hchanges, List.append_assoc]
  span span scope batch := ⟨[], (List.append_nil _).symm⟩
  event event scope batch := ⟨[], (List.append_nil _).symm⟩
  draw rotation batch := ⟨[], (List.append_nil _).symm⟩
  call call hcall batch := hcalls call batch.store hcall

/-- Reading can be strung together. -/
theorem composable_kept {repository : Repository σ} {pending : σ → List δ}
    (hstaging : Staging repository pending) :
    Composable repository (fun call => ∃ path, call = .resolve path)
      (Kept pending) where
  refl batch := rfl
  trans first second third hsecond hthird := hthird.trans hsecond
  span span scope batch := rfl
  event event scope batch := rfl
  draw rotation batch := rfl
  call := by
    rintro call ⟨path, rfl⟩ batch
    exact hstaging.resolve path batch.store

end Job

/-- Without retries, an action stages changes if its calls and its closures do. -/
theorem Action.stages {repository : Repository σ} {pending : σ → List δ}
    (hcalls : ∀ call store, call.rollsBack = false →
      ∃ changes, pending (repository.answer call store).2 = pending store ++ changes)
    (action : Action σ)
    (hclosures : action.Closures fun _ job => job.Respects (Job.Staged pending))
    (hfree : action.RetryFree) (scope : Scope) (path : String) :
    (action.apply repository scope path).Respects (Job.Staged pending) :=
  action.respects (Job.composable_staged hcalls) hclosures (.inl hfree) scope path

/-! ## One retry -/

/-- How an action was applied by a retry that succeeded: how many attempts failed
before, and what the successful one staged. -/
structure Application (δ : Type) where
  failures : Nat
  changes : List δ

namespace Application

/-- What is pending after an application, if nothing but it changes that. -/
def pendingAfter (pending : List δ) (application : Application δ) : List δ :=
  if application.failures = 0 then pending ++ application.changes
  else application.changes

theorem foldl_pendingAfter_of_clean {applications : List (Application δ)}
    (hclean : ∀ application ∈ applications, application.failures = 0)
    (pending : List δ) :
    applications.foldl pendingAfter pending =
      pending ++ applications.flatMap Application.changes := by
  induction applications generalizing pending with
  | nil => exact (List.append_nil pending).symm
  | cons application applications ih =>
      rw [List.forall_mem_cons] at hclean
      rw [List.foldl_cons, pendingAfter, if_pos hclean.1, ih hclean.2,
        List.flatMap_cons, List.append_assoc]

theorem foldl_pendingAfter_of_last_failure {before after : List (Application δ)}
    {application : Application δ} (hfailed : application.failures ≠ 0)
    (hclean : ∀ later ∈ after, later.failures = 0) (pending : List δ) :
    (before ++ application :: after).foldl pendingAfter pending =
      application.changes ++ after.flatMap Application.changes := by
  rw [List.foldl_append, List.foldl_cons, pendingAfter, if_neg hfailed]
  exact foldl_pendingAfter_of_clean hclean _

end Application

namespace Retry

/-- The retry of a job made `application.failures` attempts that failed, and then one
that succeeded and staged `application.changes`. -/
def Applies (retry : Retry) (repository : Repository σ) (scope : Scope)
    (subject : String) (job : Job σ Unit) (pending : σ → List δ) (opened : Batch σ)
    (application : Application δ) (final : Batch σ) : Prop :=
  ∃ errors begun done,
    (retry.surroundings repository scope subject job).Reaches retry.policy.delay
        retry.policy.maxAttempts.toNat 1 opened errors begun ∧
      errors.length = application.failures ∧
      (retry.surroundings repository scope subject job).attempt
        (errors.length + 1) begun
        = (.ok (), done) ∧
      pending done.store = pending begun.store ++ application.changes ∧
      final.store = done.store

variable {retry : Retry} {repository : Repository σ} {scope : Scope} {subject : String}
  {job : Job σ Unit} {pending : σ → List δ} {number budget : Nat} {delay : Millis}
  {state next begun final : Batch σ} {error : ActionError} {errors : List ActionError}

/-- An attempt that is followed by another one leaves nothing pending. -/
theorem Surroundings.Continues.pending_eq_nil (hstaging : Staging repository pending)
    (hcontinues : (retry.surroundings repository scope subject job).Continues delay
      budget number state error next) :
    pending next.store = [] := by
  cases hcontinues with
  | @intro failed reverted refreshed judged _ hrevert hrefresh _ hclassify hpause =>
      have hreverted : pending reverted.store = [] := by
        obtain ⟨hanswer, rfl⟩ := Prod.mk.inj hrevert
        exact hstaging.revert failed.store hanswer
      have hrefreshed : pending refreshed.store = [] := by
        obtain ⟨_, rfl⟩ := Prod.mk.inj hrefresh
        exact hstaging.refresh reverted.store hreverted
      have hjudged : judged.store = refreshed.store := by
        obtain ⟨_, rfl⟩ := Prod.mk.inj hclassify
        rfl
      obtain ⟨_, rfl⟩ := Prod.mk.inj hpause
      show pending (retry.wait repository delay judged.store).2 = []
      rw [hjudged]
      unfold wait
      cases retry.token with
      | none => exact hstaging.sleep delay _ hrefreshed
      | some token => exact hstaging.sleepUnless token delay _ hrefreshed

/-- The last attempt begins with what was pending before, or with nothing if an attempt
had failed. -/
theorem Surroundings.Reaches.pending_eq (hstaging : Staging repository pending)
    (hreaches : (retry.surroundings repository scope subject job).Reaches delay budget
      number state errors begun) :
    pending begun.store = if errors.length = 0 then pending state.store else [] := by
  induction hreaches with
  | here => rfl
  | @continues number state next begun error errors hcontinues _ ih =>
      rw [ih, hcontinues.pending_eq_nil hstaging, ite_self, List.length_cons,
        if_neg (Nat.succ_ne_zero _)]

/-- What is pending after a retry that succeeded. -/
theorem Applies.pending_eq (hstaging : Staging repository pending)
    {application : Application δ}
    (happlies :
      retry.Applies repository scope subject job pending state application final) :
    pending final.store = application.pendingAfter (pending state.store) := by
  obtain ⟨errors, begun, done, hreaches, hfailures, _, hchanges, hfinal⟩ := happlies
  rw [hfinal, hchanges, hreaches.pending_eq hstaging, hfailures]
  unfold Application.pendingAfter
  by_cases hclean : application.failures = 0
  · rw [if_pos hclean, if_pos hclean]
  · rw [if_neg hclean, if_neg hclean, List.nil_append]

/-- A retry that succeeds has applied its job. -/
theorem exists_applies {span : Span} {jobWithin : Scope → Job σ Unit}
    (hjob : (jobWithin (some span)).Respects (Job.Staged pending))
    (hok : retry.perform repository scope span subject jobWithin state =
      (.ok (), final)) :
    ∃ application,
      retry.Applies repository (some span) subject (jobWithin (some span)) pending
      (Job.note (.span span scope) state).2 application final := by
  obtain ⟨errors, ending, last, hcourse, _, houtcome, _⟩ :=
    perform_completes retry repository scope span subject jobWithin state
  rw [hok] at houtcome
  obtain ⟨hresult, rfl⟩ := Prod.mk.inj houtcome
  obtain ⟨begun, hreaches, hends⟩ := hcourse.reaches
  rw [Nat.add_comm] at hends
  cases hends with
  | @succeeded done hattempt =>
      have hstaged : Job.Staged pending begun done := by
        obtain ⟨_, rfl⟩ := Prod.mk.inj hattempt
        exact hjob (Job.note (.attempt (errors.length + 1)) begun).2
      obtain ⟨changes, hchanges⟩ := hstaged
      refine ⟨⟨errors.length, changes⟩, errors, begun, done, hreaches, rfl,
        hattempt, hchanges, ?_⟩
      by_cases hlater : 1 < errors.length + 1
      · rw [if_pos hlater]
        rfl
      · rw [if_neg hlater]
        rfl
  | _ => cases hresult

end Retry

/-! ## The fan-out -/

namespace Action

section Trace

variable (pending : σ → List δ) (repository : Repository σ) (scope : Scope)
  (retry : Retry) (action : Action σ) (filters : List (Filter σ)) (path : String)

/-- The retried action is applied to the item, by `application`. -/
structure Applied (state : Batch σ) (application : Application δ)
    (final : Batch σ) : Prop where
  succeeds :
      (Action.retry retry action).apply repository scope path state = (.ok (), final)
  applies : retry.Applies repository (some (.onItem Operation.retry path)) path
    (action.apply repository (some (.onItem Operation.retry path)) path) pending
    (Job.note (.span (.onItem Operation.retry path) scope) state).2 application final

/-- A fan-out of a retried action over some renditions.  Those that do not pass the
filters are skipped, and for each of the others the action is applied. -/
inductive FansOut :
    List Rendition → Batch σ → List (Application δ) → Batch σ → Prop where
  | nil {state : Batch σ} : FansOut [] state [] state
  | skip {rendition : Rendition} {renditions : List Rendition}
      {state passed final : Batch σ} {applications : List (Application δ)} :
      Filter.acceptsAll repository scope filters rendition.path state =
        (.ok false, passed) →
      FansOut renditions passed applications final →
      FansOut (rendition :: renditions) state applications final
  | apply {rendition : Rendition} {renditions : List Rendition}
      {state passed applied final : Batch σ} {application : Application δ}
      {applications : List (Application δ)} :
      Filter.acceptsAll repository scope filters rendition.path state =
        (.ok true, passed) →
      Applied pending repository scope retry action path passed application applied →
      FansOut renditions applied applications final →
      FansOut (rendition :: renditions) state (application :: applications) final

end Trace

variable {pending : σ → List δ} {repository : Repository σ} {scope : Scope}
  {retry : Retry} {action : Action σ} {filters : List (Filter σ)} {path : String}
  {renditions : List Rendition} {applications : List (Application δ)}
  {state final : Batch σ} {invoked total : Nat}

/-- A fan-out that succeeds has a trace. -/
theorem exists_fansOut
    (haction : ∀ scope,
      (action.apply repository scope path).Respects (Job.Staged pending))
    (hok : forRenditions repository scope filters ((Action.retry retry action).apply
      repository scope path) renditions invoked state = (.ok total, final)) :
    ∃ applications,
      FansOut pending repository scope retry action filters path renditions
        state applications
        final := by
  induction renditions generalizing invoked state with
  | nil =>
      obtain ⟨_, rfl⟩ := Prod.mk.inj hok
      exact ⟨[], .nil⟩
  | cons rendition renditions ih =>
      obtain ⟨accepted, passed, hpassed, hrest⟩ := Job.bind_eq_ok hok
      cases accepted with
      | false =>
          obtain ⟨applications, hfansOut⟩ := ih hrest
          exact ⟨applications, .skip hpassed hfansOut⟩
      | true =>
          obtain ⟨_, applied, happlied, hrest⟩ := Job.bind_eq_ok hrest
          obtain ⟨application, happlies⟩ := Retry.exists_applies (haction _) happlied
          obtain ⟨applications, hfansOut⟩ := ih hrest
          exact ⟨application :: applications,
            .apply hpassed ⟨happlied, happlies⟩ hfansOut⟩

/-- What is pending after a fan-out that succeeded. -/
theorem FansOut.pending_eq (hstaging : Staging repository pending)
    (hfilters : ∀ filter ∈ filters,
      filter.Closures fun _ job => job.Respects (Job.Kept pending))
    (hfansOut : FansOut pending repository scope retry action filters path renditions
      state applications final) :
    pending final.store =
      applications.foldl Application.pendingAfter (pending state.store) := by
  have hkept {rendition : Rendition} {before passed : Batch σ} {accepted : Bool}
      (hpassed : Filter.acceptsAll repository scope filters rendition.path before
        = (.ok accepted, passed)) :
      pending passed.store = pending before.store := by
    have hrespects := Filter.acceptsAll_respects (Job.composable_kept hstaging)
      (fun path => ⟨path, rfl⟩) scope filters hfilters rendition.path before
    rw [hpassed] at hrespects
    exact hrespects
  induction hfansOut with
  | nil => rfl
  | skip hpassed _ ih => rw [ih, hkept hpassed]
  | @apply _ _ _ passed applied _ application _ hpassed happlied _ ih =>
      have happlication : pending applied.store =
          application.pendingAfter (pending passed.store) :=
        happlied.applies.pending_eq hstaging
      rw [ih, happlication, hkept hpassed, List.foldl_cons]

/-- A fan-out of a retried action that succeeds, on a session whose rollback discards
what is pending.  If no attempt failed, everything that was staged for the passing
renditions is pending in addition to what had been pending before.  Otherwise the
changes for the last rendition with a failed attempt and for all passing renditions
after it are pending, and nothing else is. -/
theorem fanOut_pending (retry : Retry) (filters : List (Filter σ))
    (hstaging : Staging repository pending)
    (haction : ∀ scope,
      (action.apply repository scope path).Respects (Job.Staged pending))
    (hfilters : ∀ filter ∈ filters,
      filter.Closures fun _ job => job.Respects (Job.Kept pending))
    (hok : (Action.withAllRenditions (.retry retry action) filters).apply repository
      scope path state = (.ok (), final)) :
    let span := Span.onItem Operation.withAllRenditions path
    ∃ asset resolved applications last,
      resolveAsset repository path (Job.note (.span span scope) state).2 =
        (.ok asset, resolved) ∧
        FansOut pending repository
          (some span) retry action filters path asset.renditions resolved
          applications last ∧
        last.store = final.store ∧
        ((∀ application ∈ applications, application.failures = 0) →
          pending final.store =
            pending state.store ++ applications.flatMap Application.changes) ∧
        ∀ before application after, applications = before ++ application :: after →
          application.failures ≠ 0 → (∀ later ∈ after, later.failures = 0) →
            pending final.store = application.changes ++
              after.flatMap Application.changes := by
  intro span
  have hinner : fanOut repository (some span) filters
      ((Action.retry retry action).apply repository (some span) path) path
      (Job.note (.span span scope) state).2 = (.ok (), final) := hok
  obtain ⟨asset, resolved, hresolved, hrest⟩ := Job.bind_eq_ok hinner
  obtain ⟨total, last, hrenditions, hemit⟩ := Job.bind_eq_ok hrest
  obtain ⟨applications, hfansOut⟩ := exists_fansOut haction hrenditions
  have hlast : last.store = final.store := by
    obtain ⟨_, rfl⟩ := Prod.mk.inj hemit
    rfl
  have hbefore : pending resolved.store = pending state.store := by
    obtain ⟨answer, asked, hasked, hanswer⟩ := Job.bind_eq_ok hresolved
    have hsame : pending asked.store = pending state.store := by
      obtain ⟨_, rfl⟩ := Prod.mk.inj hasked
      exact hstaging.resolve path state.store
    cases answer with
    | none => cases hanswer
    | some found =>
        obtain ⟨_, rfl⟩ := Prod.mk.inj hanswer
        exact hsame
  have hpending : pending final.store =
      applications.foldl Application.pendingAfter (pending state.store) := by
    rw [← hlast, hfansOut.pending_eq hstaging hfilters, hbefore]
  refine ⟨asset, resolved, applications, last, hresolved, hfansOut, hlast, ?_, ?_⟩
  · intro hclean
    rw [hpending]
    exact Application.foldl_pendingAfter_of_clean hclean _
  · rintro before application after rfl hfailed hclean
    rw [hpending]
    exact Application.foldl_pendingAfter_of_last_failure hfailed hclean _

end Action

/-! ## A session with a ledger -/

/-- A session that numbers the changes that are staged on it, and follows a script of
calls that succeed. -/
structure Ledger where
  script : List Bool := []
  made : Nat := 0
  staged : List Nat := []

namespace Ledger

/-- Stages the next change, or fails as the script says. -/
def stage (ledger : Ledger) : Except ActionError Unit × Ledger :=
  match ledger.script with
  | false :: script => (.error (.session "conflict"), { ledger with script })
  | _ =>
    (.ok (),
      ⟨ledger.script.tail, ledger.made + 1, ledger.staged ++ [ledger.made]⟩)

/-- The repository of a ledger, with an asset of two renditions at every path. -/
def repository : Repository Ledger where
  answer
    | .resolve path, ledger =>
      (.ok (some
        ⟨path, [⟨"web", path ++ "/web", .epoch⟩, ⟨"print", path ++ "/print", .epoch⟩]⟩),
        ledger)
    | .revert, ledger => (.ok (), { ledger with staged := [] })
    | .refresh, ledger => (.ok (), ledger)
    | .hostQuestion _ _ usual, ledger => (.ok usual, ledger)
    | .removeRendition _ _, ledger => ledger.stage
    | .replicate _ _ _, ledger => ledger.stage
    | .execute _ _ _ _, ledger => ledger.stage
    | .setUserData _, ledger => ledger.stage
    | .hostStep _ _, ledger => ledger.stage
  sleep _ ledger := ledger
  sleepUnless _ _ ledger := (true, ledger)

theorem staging : Staging repository staged where
  revert _ _ := rfl
  refresh _ h := h
  resolve _ _ := rfl
  sleep _ _ h := h
  sleepUnless _ _ _ h := h

theorem stage_staged (ledger : Ledger) :
    ∃ changes, ledger.stage.2.staged = ledger.staged ++ changes := by
  unfold stage
  split
  · exact ⟨[], (List.append_nil _).symm⟩
  · exact ⟨[ledger.made], rfl⟩

theorem answer_staged (call : Call) (ledger : Ledger) (hcall : call.rollsBack = false) :
    ∃ changes, (repository.answer call ledger).2.staged = ledger.staged ++ changes := by
  cases call with
  | resolve path => exact ⟨[], (List.append_nil _).symm⟩
  | hostQuestion name arguments usual => exact ⟨[], (List.append_nil _).symm⟩
  | revert => cases hcall
  | refresh => cases hcall
  | _ => exact ledger.stage_staged

/-- A retried activation. -/
def activation : Action Ledger :=
  .retry { policy := .standard } (.replicate .activate .platform)

/-- The activation fails once for the second rendition.  The change that it had staged
for the first one is lost with the rollback, and the fan-out succeeds all the same. -/
theorem rollback_discards_earlier_changes :
    let start : Batch Ledger := { store := { script := [true, false, true] } }
    let first := activation.apply repository none "/a" start
    let outcome :=
      (Action.withAllRenditions activation []).apply repository none "/a" start
    (first.1 = .ok () ∧ first.2.store.staged = [0]) ∧
      outcome.1 = .ok () ∧ outcome.2.store.staged = [1] := by
  intro start first outcome
  have hfirst : first.1 = .ok () := Job.eq_ok_of_failure? (by decide +kernel)
  have houtcome : outcome.1 = .ok () := Job.eq_ok_of_failure? (by decide +kernel)
  have hstaged : first.2.store.staged = [0] ∧ outcome.2.store.staged = [1] := by
    decide +kernel
  exact ⟨⟨hfirst, hstaged.1⟩, houtcome, hstaged.2⟩

/-- What is pending after the same fan-out, by the general law. -/
theorem fanOut_pending_of_script :
    let action : Action Ledger := .replicate .activate .platform
    let retry : Retry := { policy := .standard }
    let start : Batch Ledger := { store := { script := [true, false, true] } }
    let outcome := (Action.withAllRenditions (.retry retry action) []).apply
      repository none "/a" start
    let span := Span.onItem Operation.withAllRenditions "/a"
    ∃ asset resolved applications last,
      Action.resolveAsset repository "/a" (Job.note (.span span none) start).2
          = (.ok asset, resolved) ∧
        Action.FansOut staged repository
          (some span) retry action [] "/a" asset.renditions resolved
          applications last ∧
        last.store = outcome.2.store ∧
        ((∀ application ∈ applications, application.failures = 0) →
          outcome.2.store.staged = [] ++ applications.flatMap Application.changes) ∧
        ∀ before application after, applications = before ++ application :: after →
          application.failures ≠ 0 → (∀ later ∈ after, later.failures = 0) →
            outcome.2.store.staged =
              application.changes ++ after.flatMap Application.changes := by
  intro action retry start outcome span
  have hfst : outcome.1 = .ok () := Job.eq_ok_of_failure? (by decide +kernel)
  have hok : (Action.withAllRenditions (.retry retry action) []).apply
      repository none "/a" start
      = (.ok (), outcome.2) := by
    rw [← hfst]
  have hstages (scope : Scope) :
      (action.apply repository scope "/a").Respects (Job.Staged staged) :=
    action.stages answer_staged trivial trivial scope "/a"
  have hfilters : ∀ filter ∈ ([] : List (Filter Ledger)),
      filter.Closures fun _ job => job.Respects (Job.Kept staged) := by
    intro filter hfilter
    cases hfilter
  exact Action.fanOut_pending retry [] staging hstages hfilters hok

end Ledger

end ContentBatch
