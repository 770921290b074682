import ContentBatch.Proofs.Journal.CallTree
import ContentBatch.Proofs.Retry.Diary
import ContentBatch.Rehearsal.World

/-!
# Spans mirror the composition

Filters, actions and work, of any nesting and however the calls come out, write the
lines of a call tree with themselves at the root.  With what is known of the lines of a
tree, this says of every application that it opens one span, within the span of the
nearest application around it that has one, and of every event that it is reported
within the span of the application that reports it.  The lines of an application that
stops early are those of a tree as well, so nothing of this depends on success.

A closure of a host is not looked into, except that it may do nothing but calls.

## Main results

* `Filter.does_accepts`, `Action.does_apply`, `Work.does_run`: each of them is one
  activity.
* `Retry.Written.shows`: the course of a retry is one of attempts.
* `spans_mirror_composition`: the lines of all compositions.
-/

namespace ContentBatch

open Activity

/-! ## Closures -/

/-- A job that does nothing but calls. -/
def Job.OnlyCalls {σ α : Type} (job : Job σ α) : Prop :=
  job.Adds fun _ lines => ∀ entry ∈ lines, ∃ asked failure, entry = .call asked failure

theorem Job.OnlyCalls.does {σ α : Type} {job : Job σ α} (hjob : job.OnlyCalls)
    (scope : Scope) :
    job.Does scope fun _ activities => Calls activities := by
  refine Adds.mono hjob ?_
  intro result lines hcalls
  induction lines with
  | nil => exact ⟨[], List.forall_mem_nil _, .nil⟩
  | cons entry lines ih =>
      obtain ⟨⟨asked, failure, rfl⟩, hlater⟩ := List.forall_mem_cons.1 hcalls
      obtain ⟨activities, hactivities, hshows⟩ := ih hlater
      have hcall : CallTree.Shows scope [(call asked failure : Activity σ)]
          [.call asked failure] := .line rfl
      exact ⟨_, List.forall_mem_cons.2 ⟨⟨asked, failure, rfl⟩, hactivities⟩,
        hcall.append hshows⟩

/-! ## Filters -/

namespace Filter

variable {σ : Type} {repository : Repository σ}

theorem does_freshnessAt (scope : Scope) (path : String) :
    (freshnessAt repository scope path).Does scope fun _ inside =>
      Comprises (.filter .hasOutdatedRenditions path) inside := by
  refine Job.does_bind (Job.does_ask repository scope (.resolve path)) ?_ ?_
  · rintro asset _ rfl
    exact Job.does_bind_pure (Job.does_emit .hasOutdatedRenditions)
  · rintro error _ rfl
    exact @Comprises.hasOutdatedRenditions σ path (some error) none

/-- Evaluating a filter is one activity. -/
theorem does_accepts (filter : Filter σ)
    (hclosures : filter.Closures fun _ job => job.OnlyCalls) (scope : Scope)
    (path : String) :
    (filter.accepts repository scope path).Does scope fun _ activities =>
      activities = [.filter filter path] := by
  induction filter with
  | pathMatches pattern => exact Job.does_part rfl rfl (Job.does_pure .pathMatches)
  | isAsset =>
      refine Job.does_bind_pure
        (Job.does_within rfl rfl ((Job.does_ask repository _ (.resolve path)).mono ?_))
      rintro answer _ rfl
      exact .isAsset
  | hasOutdatedRenditions =>
    exact Job.does_bind_pure (Job.does_within rfl rfl (does_freshnessAt _ path))
  | negation filter ih =>
      refine Job.does_part rfl rfl (Job.does_bind_pure ((ih hclosures).mono ?_))
      rintro result _ rfl
      exact .negation
  | andThen first second ihfirst ihsecond =>
      refine Job.does_part rfl rfl (Job.does_bind (ihfirst hclosures.1) ?_ ?_)
      · rintro (_ | _) _ rfl
        case false => exact Job.does_pure .andThenFirst
        case true =>
          refine (ihsecond hclosures.2).mono ?_
          rintro result _ rfl
          exact .andThenBoth
      · rintro error _ rfl
        exact .andThenFirst
  | held holder filter ih =>
      refine Job.does_part rfl rfl ((ih hclosures).mono ?_)
      rintro result _ rfl
      exact .heldFilter
  | custom name accepts =>
      refine Job.does_part rfl rfl (((hclosures path).does scope).mono ?_)
      intro result activities hcalls
      exact .customFilter hcalls

/-- Of a list of filters, those up to some point are evaluated, and all of them if they
all accept. -/
theorem does_acceptsAll (filters : List (Filter σ))
    (hclosures : ∀ filter ∈ filters, filter.Closures fun _ job => job.OnlyCalls)
    (scope : Scope) (path : String) :
    (acceptsAll repository scope filters path).Does scope fun result activities =>
      (∃ asked others, filters = asked ++ others ∧
        activities = asked.map (.filter · path)) ∧
        (result = .ok true → activities = filters.map (.filter · path)) := by
  induction filters with
  | nil => exact Job.does_pure ⟨⟨[], [], rfl, rfl⟩, fun _ => rfl⟩
  | cons filter filters ih =>
      obtain ⟨hfilter, hfilters⟩ := List.forall_mem_cons.1 hclosures
      refine Job.does_bind (filter.does_accepts hfilter scope path) ?_ ?_
      · rintro (_ | _) _ rfl
        case false => exact Job.does_pure ⟨⟨[filter], filters, rfl, rfl⟩, nofun⟩
        case true =>
          refine (ih hfilters).mono ?_
          rintro result activities ⟨⟨asked, others, rfl, hasked⟩, hall⟩
          refine ⟨⟨filter :: asked, others, rfl, congrArg (_ :: ·) hasked⟩, ?_⟩
          intro hresult
          exact congrArg (_ :: ·) (hall hresult)
      · rintro error _ rfl
        exact ⟨⟨[filter], filters, rfl, rfl⟩, nofun⟩

end Filter

/-! ## Actions -/

namespace Action

variable {σ : Type} {repository : Repository σ}

theorem does_next (targets : Targets) (scope : Scope) :
    (targets.next : Job σ _).Does scope fun result activities =>
      activities = [] ∧ ∃ options, result = .ok options := by
  cases targets with
  | inTurn options rotation =>
    exact fun batch => ⟨[], (List.append_nil _).symm, [], ⟨rfl, _, rfl⟩, .nil⟩
  | _ => exact Job.does_pure ⟨rfl, _, rfl⟩

theorem does_replicateItem (scope : Scope) (kind : ReplicationKind) (targets : Targets)
    (path : String) :
    (replicateItem repository scope kind targets path).Does scope fun _ inside =>
      Comprises (.action (.replicate kind targets) path) inside := by
  refine Job.does_bind (does_next targets scope) ?_ ?_
  · rintro options _ ⟨rfl, _⟩
    refine Job.does_bind
      (Job.does_ask repository scope (.replicate kind path options)) ?_ ?_
    · rintro ⟨⟩ _ rfl
      exact Job.does_emit .replicate
    · rintro error _ rfl
      exact .replicate
  · rintro error _ ⟨_, _, hok⟩
    cases hok

/-- Resolving an item is one call.  If it fails or nothing is found, it is all that is
done. -/
theorem does_resolveAsset (scope : Scope) (path : String) :
    (resolveAsset repository path).Does scope fun result activities =>
      ∃ failure, activities = [call (.resolve path) failure] ∧
        ∀ asset, result = .ok asset → failure = none := by
  refine Job.does_bind (Job.does_ask repository scope (.resolve path)) ?_ ?_
  · rintro (_ | asset) _ rfl
    case none => exact Job.does_fail ⟨none, rfl, nofun⟩
    case some => exact Job.does_pure ⟨none, rfl, fun _ _ => rfl⟩
  · rintro error _ rfl
    exact ⟨some error, rfl, nofun⟩

/-- What is done with a resolved asset, and otherwise. -/
theorem does_withAsset {next : Asset → Job σ Unit} {scope : Scope} {path : String}
    {Done : List (Activity σ) → Prop}
    (hunresolved : ∀ failure, Done [call (.resolve path) failure])
    (hnext : ∀ asset, (next asset).Does scope fun _ after =>
      Done (call (.resolve path) none :: after)) :
    (resolveAsset repository path >>= next).Does scope fun _ activities =>
      Done activities := by
  refine Job.does_bind (does_resolveAsset scope path) ?_ ?_
  · rintro asset _ ⟨failure, rfl, hfound⟩
    rw [hfound asset rfl]
    exact hnext asset
  · rintro error _ ⟨failure, rfl, _⟩
    exact hunresolved failure

/-- The deletions of a removal, up to the first that fails. -/
theorem does_removeSelected (scope : Scope) (selector : Selector) (assetPath : String)
    (renditions : List Rendition) (removed : Nat) :
    (removeSelected repository selector assetPath renditions removed).Does scope
      fun result activities =>
      (∃ names : List String, result = .ok (removed + names.length) ∧
        activities = names.map fun name =>
          call (.removeRendition assetPath name) none) ∨
      ∃ (names : List String) (name : String) (error : ActionError),
        result = .error error ∧
        activities =
          names.map (fun name => call (.removeRendition assetPath name) none) ++
          [call (.removeRendition assetPath name) (some error)] := by
  induction renditions generalizing removed with
  | nil => exact Job.does_pure (.inl ⟨[], rfl, rfl⟩)
  | cons rendition renditions ih =>
      rw [removeSelected]
      by_cases hselects : selector.selects rendition = true
      case neg =>
        rw [if_neg hselects]
        exact ih removed
      rw [if_pos hselects]
      refine Job.does_bind (Job.does_ask repository scope
        (.removeRendition assetPath rendition.name)) ?_ ?_
      · rintro ⟨⟩ _ rfl
        refine (ih (removed + 1)).mono ?_
        rintro result _ (⟨names, rfl, rfl⟩ | ⟨names, name, error, rfl, rfl⟩)
        · refine .inl ⟨rendition.name :: names, ?_, rfl⟩
          rw [List.length_cons, Nat.add_right_comm, Nat.add_assoc]
        · exact .inr ⟨rendition.name :: names, name, error, rfl, rfl⟩
      · rintro error _ rfl
        exact .inr ⟨[], rendition.name, error, rfl, rfl⟩

theorem does_removeFrom (scope : Scope) (selector : Selector) (path : String) :
    (removeFrom repository scope selector path).Does scope fun _ inside =>
      Comprises (.action (.removeRenditions selector) path) inside := by
  refine does_withAsset (fun _ => .removalUnresolved) ?_
  intro asset
  refine Job.does_bind
    (does_removeSelected scope selector asset.path asset.renditions 0) ?_ ?_
  · rintro removed _ (⟨names, hremoved, rfl⟩ | ⟨_, _, _, hfailed, _⟩)
    case inr => cases hfailed
    cases hremoved
    rw [Nat.zero_add]
    exact Job.does_emit .removal
  · rintro error _ (⟨_, hremoved, _⟩ | ⟨names, name, _, _, rfl⟩)
    case inl => cases hremoved
    exact .removalFailed

/-- The visits of a fan-out. -/
theorem does_forRenditions {fanned : Action σ} {filters : List (Filter σ)}
    {invoke : Job σ Unit} {scope : Scope} {path : String}
    (hfilters : ∀ filter ∈ filters, filter.Closures fun _ job => job.OnlyCalls)
    (hinvoke : invoke.Does scope fun _ activities => activities = [.action fanned path])
    (renditions : List Rendition) (invoked : Nat) :
    (forRenditions repository scope filters invoke renditions invoked).Does
      scope fun _ visits =>
      Visits fanned filters path visits := by
  induction renditions generalizing invoked with
  | nil => exact Job.does_pure .nil
  | cons rendition renditions ih =>
      refine Job.does_bind
        (Filter.does_acceptsAll filters hfilters scope rendition.path) ?_ ?_
      · rintro (_ | _) asked ⟨⟨before, others, hsplit, rfl⟩, hall⟩
        case false =>
          refine (ih invoked).mono ?_
          intro result later hlater
          exact .rejected hsplit hlater
        case true =>
          rw [hall rfl]
          refine Job.does_bind hinvoke ?_ ?_
          · rintro ⟨⟩ _ rfl
            refine (ih (invoked + 1)).mono ?_
            intro result later hlater
            exact .accepted hlater
          · rintro error _ rfl
            exact .accepted .nil
      · rintro error _ ⟨⟨before, others, hsplit, rfl⟩, _⟩
        have hvisit :
            Visits fanned filters path (before.map (.filter · rendition.path) ++ []) :=
          .rejected hsplit .nil
        rwa [List.append_nil] at hvisit

theorem does_fanOut {fanned : Action σ} {filters : List (Filter σ)}
    {invoke : Job σ Unit} {scope : Scope} {path : String}
    (hfilters : ∀ filter ∈ filters, filter.Closures fun _ job => job.OnlyCalls)
    (hinvoke :
      invoke.Does scope fun _ activities => activities = [.action fanned path]) :
    (fanOut repository scope filters invoke path).Does scope fun _ inside =>
      Comprises (.action (.withAllRenditions fanned filters) path) inside := by
  refine does_withAsset (fun _ => .fanOutUnresolved) ?_
  intro asset
  refine Job.does_bind (does_forRenditions hfilters hinvoke asset.renditions 0) ?_ ?_
  · intro invoked visits hvisits
    exact Job.does_emit (.fanOut hvisits)
  · intro error visits hvisits
    exact .fanOutFailed hvisits

theorem does_runWorkflow (scope : Scope) (model : WorkflowModel) (path : String) :
    (runWorkflow repository scope model path).Does scope fun _ inside =>
      Comprises (.action (.startWorkflow model) path) inside := by
  refine Job.does_bind
    (Job.does_ask repository scope (.setUserData workflowMarker)) ?_ ?_
  · rintro ⟨⟩ _ rfl
    refine Job.does_bind
      (Job.does_ask repository scope (.execute path model false false)) ?_ ?_
    · rintro ⟨⟩ _ rfl
      exact Job.does_emit .workflow
    · rintro error _ rfl
      exact .workflow
  · rintro error _ rfl
    exact .workflowUnmarked

end Action

/-! ## Retries -/

namespace Retry

open CallTree Levels

variable {σ : Type} {repository : Repository σ} {retry : Retry} {scope : Scope}
  {subject : String} {tried : Activity σ} {number : Nat} {errors : List ActionError}
  {ending : Ending} {lines inner : List Entry}

/-- The lines of a retry itself, between the marks of its attempts. -/
theorem shows_own (hflat : Flat lines)
    (hown : ∀ entry ∈ lines, Own scope subject entry) :
    ∃ after : List (Activity σ), (∀ activity ∈ after, AfterAttempt subject activity) ∧
      Shows scope after lines := by
  induction lines with
  | nil => exact ⟨[], List.forall_mem_nil _, .nil⟩
  | cons entry lines ih =>
      obtain ⟨hentry, hlines⟩ := List.forall_mem_cons.1 hflat
      obtain ⟨hfirst, hrest⟩ := List.forall_mem_cons.1 hown
      obtain ⟨after, hafter, hshows⟩ := ih hlines hrest
      have hone : ∃ activity : Activity σ, AfterAttempt subject activity ∧
          Shows scope [activity] [entry] := by
        cases entry with
        | call asked failure => exact ⟨_, .rollback hfirst, .line rfl⟩
        | pause delay token completed => exact ⟨_, .pause, .line rfl⟩
        | decision classifier error number => exact ⟨_, .decision, .line rfl⟩
        | event event within =>
            obtain ⟨rfl, report, rfl⟩ := hfirst
            exact ⟨_, .report, .report _⟩
        | attempt number => cases hentry
        | attempted number failure => cases hentry
        | retried failure => cases hfirst
        | span span within => cases hfirst
      obtain ⟨activity, hactivity, hshown⟩ := hone
      exact ⟨activity :: after, List.forall_mem_cons.2 ⟨hactivity, hafter⟩,
        hshown.append hshows⟩

theorem shows_attemptEntries (hinner : Shows scope [tried] inner) (number : Nat)
    (result : Except ActionError Unit) :
    Shows scope [line (.attempt number), tried,
      line (.attempted number (Job.failure? result))]
      (attemptEntries number result inner) :=
  (Shows.line rfl).append (hinner.append (.line rfl))

/-- The lines of a course are those of attempts, if the lines within each attempt are
those of what is tried. -/
theorem Written.shows
    (hwritten : Written retry scope subject
      (fun _ inner => Shows scope [tried] inner) number errors ending lines) :
    ∃ attempts, Attempts tried subject number attempts ∧
      Shows scope attempts lines := by
  induction hwritten with
  | @ends number ending inner hinner =>
      obtain ⟨after, hafter, hshows⟩ :=
        shows_own (ending.flat_closing retry scope subject number)
          (ending.own_closing retry scope subject number)
      exact ⟨_, .last hafter,
        (shows_attemptEntries hinner number ending.attempted).append hshows⟩
  | @continues number error errors ending inner lines hinner _ ih =>
      obtain ⟨after, hafter, hshows⟩ := shows_own
        (retry.flat_betweenAttempts scope subject number error)
        (own_betweenAttempts retry scope subject number error)
      obtain ⟨later, hlater, hrest⟩ := ih
      have hattempts : Attempts tried subject number
          (line (.attempt number) :: tried :: line (.attempted number (some error)) ::
            (after ++ later)) :=
        .again hafter hlater
      refine ⟨_, hattempts, ?_⟩
      rw [roundEntries_eq, List.append_assoc]
      exact (shows_attemptEntries hinner number (.error error)).append
        (hshows.append hrest)

/-- A retry is one activity if what it tries is one within its span. -/
theorem does_perform {activity : Activity σ} {span : Span} {job : Scope → Job σ Unit}
    (hspan : activity.opening? scope = some (.span span scope))
    (hopens : activity.span? = some span)
    (hjob : (job (some span)).Does (some span) fun _ activities => activities = [tried])
    (hcomprises : ∀ attempts failure, Attempts tried subject 1 attempts →
      Comprises activity (attempts ++ [line (.retried failure)])) :
    (retry.perform repository scope span subject job).Does scope fun _ activities =>
      activities = [activity] := by
  have hshown : (job (some span)).Adds fun _ inner =>
      Shows (some span) [tried] inner := by
    refine Job.Adds.mono hjob ?_
    rintro result inner ⟨_, rfl, hshows⟩
    exact hshows
  refine Job.Adds.mono (adds_perform hshown) ?_
  rintro result entries ⟨errors, ending, lines, hwritten, _, _, _, rfl⟩
  obtain ⟨attempts, hattempts, hshows⟩ := hwritten.shows
  have hinside : Shows (activity.span?.or scope)
      (attempts ++ [line (.retried (Job.failure? result))])
      (lines ++ [.retried (Job.failure? result)]) := by
    rw [hopens]
    exact hshows.append (.line rfl)
  have hnode := Shows.node (hcomprises attempts (Job.failure? result) hattempts) hinside
  rw [hspan] at hnode
  exact ⟨_, rfl, hnode⟩

end Retry

/-! ## Compositions -/

variable {σ : Type}

/-- Applying an action is one activity. -/
theorem Action.does_apply (repository : Repository σ) (action : Action σ)
    (hclosures : action.Closures fun _ job => job.OnlyCalls) (scope : Scope)
    (path : String) :
    (action.apply repository scope path).Does scope fun _ activities =>
      activities = [.action action path] := by
  induction action generalizing scope with
  | replicate kind targets =>
    exact Job.does_within rfl rfl (does_replicateItem _ kind targets path)
  | removeRenditions selector =>
    exact Job.does_within rfl rfl (does_removeFrom _ selector path)
  | withAllRenditions action filters ih =>
      exact Job.does_within rfl rfl (does_fanOut hclosures.2 (ih hclosures.1 _))
  | startWorkflow model => exact Job.does_within rfl rfl (does_runWorkflow _ model path)
  | retry settings action ih =>
      exact Retry.does_perform rfl rfl (ih hclosures _) fun _ _ => .retriedAction
  | custom name apply =>
      refine Job.does_part rfl rfl (((hclosures path).does scope).mono ?_)
      intro result activities hcalls
      exact .customAction hcalls

/-- Running work is one activity. -/
theorem Work.does_run (repository : Repository σ) (work : Work σ)
    (hclosures : work.Closures fun _ job => job.OnlyCalls) (scope : Scope) :
    (work.run repository scope).Does scope fun _ activities =>
      activities = [.work work] := by
  induction work generalizing scope with
  | bound action path =>
      refine Job.does_part rfl rfl
        ((action.does_apply repository hclosures scope path).mono ?_)
      rintro result _ rfl
      exact .bound
  | retry settings work ih =>
    exact Retry.does_perform rfl rfl (ih hclosures _) fun _ _ => .retriedWork
  | custom name run =>
      refine Job.does_part rfl rfl ((hclosures.does scope).mono ?_)
      intro result activities hcalls
      exact .customWork hcalls

namespace Activity

/-- The label that an activity has to have: the operation and the path that it is given,
as far as there is one. -/
def label? : Activity σ → Option String
  | filter .isAsset path => some ("filterNonAssets" ++ "-" ++ path)
  | filter .hasOutdatedRenditions path =>
    some ("filterAssetsWithOutdatedRenditions" ++ "-" ++ path)
  | action (.replicate kind _) path => some (kind.name ++ "-" ++ path)
  | action (.removeRenditions _) path => some ("removeRenditions" ++ "-" ++ path)
  | action (.withAllRenditions _ _) path => some ("withAllRenditions" ++ "-" ++ path)
  | action (.startWorkflow _) path => some ("synWf" ++ "-" ++ path)
  | action (.retry _ _) path => some ("retry" ++ "-" ++ path)
  | work (.retry _ tried) =>
    some ((tried.target?.map fun path => "retry" ++ "-" ++ path).getD "retry")
  | _ => none

theorem label_span? (activity : Activity σ) :
    activity.span?.map Span.label = activity.label? := by
  cases activity with
  | filter filter path => cases filter <;> rfl
  | action action path => cases action <;> rfl
  | work work =>
      cases work with
      | retry settings tried =>
          show some tried.retrySpan.label =
            some ((tried.target?.map fun path => "retry" ++ "-" ++ path).getD "retry")
          unfold Work.retrySpan
          cases tried.target? <;> rfl
      | _ => rfl
  | _ => rfl

/-- Only what has a span reports. -/
theorem exists_span_of_report {activity : Activity σ} {inside : List (Activity σ)}
    {event : Event} (hcomprises : Comprises activity inside)
    (hreport : report event ∈ inside) :
    ∃ span, activity.span? = some span := by
  have hcalls {calls : List (Activity σ)} (h : Calls calls) : report event ∉ calls := by
    intro hmem
    obtain ⟨_, _, hcall⟩ := h _ hmem
    cases hcall
  cases hcomprises with
  | customFilter h => exact absurd hreport (hcalls h)
  | customAction h => exact absurd hreport (hcalls h)
  | customWork h => exact absurd hreport (hcalls h)
  | report => cases hreport
  | line => cases hreport
  | pathMatches => cases hreport
  | negation => simp at hreport
  | andThenFirst => simp at hreport
  | andThenBoth => simp at hreport
  | heldFilter => simp at hreport
  | bound => simp at hreport
  | _ => exact ⟨_, rfl⟩

end Activity

/-- Between two batches, the lines of a call tree were written, with an activity at its
root.  The spans that were opened are those of its nodes. -/
def Batch.Mirrors (before after : Batch σ) (scope : Scope)
    (activity : Activity σ) : Prop :=
  ∃ tree : CallTree σ, tree.root = activity ∧ tree.Conforms ∧
    after.journal.toList = before.journal.toList ++ tree.entries scope [] ∧
    after.journal.spans = before.journal.spans ++ tree.spans scope

theorem Job.Does.mirrors {α : Type} {job : Job σ α} {scope : Scope}
    {activity : Activity σ}
    (h : job.Does scope fun _ activities => activities = [activity]) (batch : Batch σ) :
    batch.Mirrors (job batch).2 scope activity := by
  obtain ⟨lines, hjournal, _, rfl, hshows⟩ := h batch
  obtain ⟨tree, hroot, hconforms, rfl⟩ := hshows.exists_tree
  exact ⟨tree, hroot, hconforms, hjournal, hconforms.spans_eq hjournal⟩

/-- Spans mirror the composition.  What has a span is labelled with its operation and
with the path that it is given; only what has a span reports; and whatever is evaluated,
applied or run writes the lines of a call tree. -/
theorem spans_mirror_composition (repository : Repository σ) (scope : Scope)
    (batch : Batch σ) :
    (∀ activity : Activity σ, activity.span?.map Span.label = activity.label?) ∧
    (∀ (activity : Activity σ) inside event, Comprises activity inside →
      report event ∈ inside →
      ∃ span, activity.span? = some span) ∧
    (∀ (filter : Filter σ) (path : String),
      (filter.Closures fun _ job => job.OnlyCalls) →
      batch.Mirrors (filter.accepts repository scope path batch).2 scope
        (.filter filter path)) ∧
    (∀ (action : Action σ) (path : String),
      (action.Closures fun _ job => job.OnlyCalls) →
      batch.Mirrors (action.apply repository scope path batch).2 scope
        (.action action path)) ∧
    ∀ work : Work σ, (work.Closures fun _ job => job.OnlyCalls) →
      batch.Mirrors (work.run repository scope batch).2 scope (.work work) := by
  refine ⟨label_span?, fun _ _ _ => exists_span_of_report, ?_, ?_, ?_⟩
  · intro filter path hclosures
    exact (filter.does_accepts hclosures scope path).mirrors batch
  · intro action path hclosures
    exact (action.does_apply repository hclosures scope path).mirrors batch
  · intro work hclosures
    exact (work.does_run repository hclosures scope).mirrors batch

open Rehearsal

/-- A retry around a fan-out of a retried activation, behind a filter of the library and
one of the host, while the first activation fails.  The filter is labelled with the path
of the rendition, and each attempt to activate has a span of its own. -/
theorem retried_activation_has_two_spans :
    let stored (path : String) : Stored := ⟨path, path, [⟨"web", "/a/web", .epoch⟩]⟩
    let world : World :=
      { queues := [(.replicate, [{ error := some (.session "conflict") }])]
        working := [stored "/a", stored "/a/web"], committed :=
          [stored "/a", stored "/a/web"] }
    let probe : Filter World :=
      .custom "probe" fun path =>
        Job.ask World.repository (.hostQuestion "probe" [path] true)
    let activation : Action World :=
      .retry ⟨.standard, .retryAll, none⟩ (.replicate .activate .platform)
    let work : Work World :=
      .retry ⟨.standard, .retryAll, none⟩
        (.bound (.withAllRenditions activation [.isAsset, probe]) "/a")
    let run := work.run World.repository none { store := world }
    (work.Closures fun _ job => job.OnlyCalls) ∧
      ({ store := world } : Batch World).Mirrors run.2 none (.work work) ∧
      run.2.journal.spans.map (fun line => (line.1.label, line.2.map Span.label)) =
        [("retry-/a", none), ("withAllRenditions-/a", some "retry-/a"),
          ("filterNonAssets-/a/web", some "withAllRenditions-/a"),
          ("retry-/a", some "withAllRenditions-/a"),
          ("activate-/a", some "retry-/a"), ("activate-/a", some "retry-/a")] ∧
      run.2.journal.events.map (fun line => (line.1.message, line.2.map Span.label)) =
        [("Error during attempt, retry count is 2", some "retry-/a"),
          ("Replicated item", some "activate-/a"),
          ("Succeeded after retry", some "retry-/a"),
          ("Applied action across renditions", some "withAllRenditions-/a")] := by
  intro stored world probe activation work run
  have hprobe : probe.Closures fun _ job => job.OnlyCalls := by
    intro path
    refine Job.adds_ask ?_
    intro answer
    exact List.forall_mem_singleton.2 ⟨_, _, rfl⟩
  have hwork : work.Closures fun _ job => job.OnlyCalls :=
    ⟨trivial, List.forall_mem_cons.2 ⟨trivial, List.forall_mem_singleton.2 hprobe⟩⟩
  have hmirrors := (spans_mirror_composition World.repository none
    { store := world }).2.2.2.2 work hwork
  refine ⟨hwork, hmirrors, ?_⟩
  decide +kernel

end ContentBatch
