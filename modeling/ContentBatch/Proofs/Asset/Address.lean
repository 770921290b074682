import ContentBatch.Catalog
import ContentBatch.Proofs.Filter.Evaluation
import ContentBatch.Rehearsal.World

/-!
# Which path an operation addresses

An asset may be found at a path that is not its own: by another name, or through
something inside of it.  Then an operation on its renditions has two paths to choose
from.

* A removal asks for renditions of the asset's own path to be removed.
* A fan-out hands over the path that it was asked for, and not the asset's own one, to
  the action.

What is handed over is told by what actions do: it is an address if, for all actions, a
fan-out that hands over this address comes to the same.  That leaves no doubt unless no
action is applied at all.

## Main results

* `Action.forRenditions_fail`, `Action.forRenditions_of_not_anyPasses`: the action is
  applied if a rendition passes.
* `Action.addressed_paths`: the paths that fan-outs and removals address.
-/

namespace ContentBatch.Action

variable {σ : Type}

/-- A fan-out through the renditions of the asset at a path that hands over an
address. -/
def handOver (repository : Repository σ) (scope : Scope) (action : Action σ)
    (filters : List (Filter σ)) (address path : String) : Job σ Unit :=
  Job.within scope (.onItem Operation.withAllRenditions path) fun scope =>
    fanOut repository scope filters (action.apply repository scope address) path

/-- Asks the filters about one rendition after another until one passes. -/
def anyPasses (repository : Repository σ) (scope : Scope) (filters : List (Filter σ)) :
    List Rendition → Job σ Bool
  | [] => return false
  | rendition :: renditions => do
      if ← Filter.acceptsAll repository scope filters rendition.path then return true
      else anyPasses repository scope filters renditions

variable {repository : Repository σ} {scope : Scope} {filters : List (Filter σ)}
  {renditions : List Rendition} {invoked : Nat} {batch after : Batch σ}

/-! ## Applications of the action -/

/-- The first rendition that passes is where a failing action ends the fan-out. -/
theorem forRenditions_fail
    (h : anyPasses repository scope filters renditions batch = (.ok true, after))
    (error : ActionError) :
    forRenditions repository scope filters (Job.fail error) renditions invoked batch =
      (.error error, after) := by
  induction renditions generalizing batch with
  | nil => cases h
  | cons rendition renditions ih =>
      rw [anyPasses, Job.bind_apply] at h
      rw [forRenditions, Job.bind_apply]
      rcases hasked : Filter.acceptsAll repository scope filters rendition.path batch
        with ⟨_ | _ | _, middle⟩
      case error =>
        rw [hasked] at h
        cases h
      case ok.false =>
        rw [hasked] at h
        exact ih h
      case ok.true =>
        rw [hasked] at h
        cases h
        rfl

/-- If no rendition passes, it makes no difference what would be done for one. -/
theorem forRenditions_of_not_anyPasses {answer : Except ActionError Bool}
    (h : anyPasses repository scope filters renditions batch = (answer, after))
    (hanswer : answer ≠ .ok true) (invoke : Job σ Unit) :
    forRenditions repository scope filters invoke renditions invoked batch =
      (answer.map fun _ => invoked, after) := by
  induction renditions generalizing batch with
  | nil =>
      cases h
      rfl
  | cons rendition renditions ih =>
      rw [anyPasses, Job.bind_apply] at h
      rw [forRenditions, Job.bind_apply]
      rcases hasked : Filter.acceptsAll repository scope filters rendition.path batch
        with ⟨_ | _ | _, middle⟩
      case error =>
        rw [hasked] at h
        cases h
        rfl
      case ok.false =>
        rw [hasked] at h
        exact ih h
      case ok.true =>
        rw [hasked] at h
        cases h
        exact absurd rfl hanswer

/-! ## Removals -/

/-- The calls that remove the renditions of an asset that a selector picks. -/
def removals (selector : Selector) (assetPath : String)
    (renditions : List Rendition) : List Call :=
  (renditions.filter selector.selects).map fun rendition =>
    .removeRendition assetPath rendition.name

theorem calls_ask (repository : Repository σ) (call : Call) (batch : Batch σ) :
    (Job.ask repository call batch).2.journal.calls =
      batch.journal.calls ++
        [(call, Job.failure? (Job.ask repository call batch).1)] := by
  show Journal.calls (batch.journal.push _) = _
  rw [Journal.calls_push]
  rfl

/-- A removal asks for the picked renditions to be removed, one after another, up to one
that cannot be. -/
theorem calls_removeSelected (selector : Selector) (assetPath : String) (removed : Nat)
    {result : Except ActionError Nat}
    (h : removeSelected repository selector assetPath renditions removed batch =
      (result, after)) :
    ∃ made, after.journal.calls = batch.journal.calls ++ made ∧
      made.map Prod.fst <+: removals selector assetPath renditions ∧
      ∀ total, result = .ok total →
        made.map Prod.fst = removals selector assetPath renditions := by
  induction renditions generalizing batch removed with
  | nil =>
      cases h
      exact ⟨[], (List.append_nil _).symm, List.prefix_rfl, fun _ _ => rfl⟩
  | cons rendition renditions ih =>
      unfold removeSelected at h
      by_cases hselected : selector.selects rendition = true
      · rw [if_pos hselected, Job.bind_apply] at h
        have hcalls :=
          calls_ask repository (.removeRendition assetPath rendition.name) batch
        have hremovals : removals selector assetPath (rendition :: renditions) =
            .removeRendition assetPath rendition.name ::
              removals selector assetPath renditions := by
          rw [removals, List.filter_cons_of_pos hselected, List.map_cons]
          rfl
        rcases hasked :
            Job.ask repository (.removeRendition assetPath rendition.name) batch
          with ⟨error | _, middle⟩
        case error =>
          rw [hasked] at h hcalls
          cases h
          refine ⟨_, hcalls, ?_, nofun⟩
          rw [hremovals]
          exact (List.prefix_cons_inj _).2 List.nil_prefix
        case ok =>
          rw [hasked] at h hcalls
          obtain ⟨made, hmade, hprefix, htotal⟩ := ih (removed + 1) h
          refine ⟨(.removeRendition assetPath rendition.name, none) :: made, ?_, ?_, ?_⟩
          · rw [hmade, hcalls, List.append_assoc]
            rfl
          · rw [hremovals]
            exact (List.prefix_cons_inj _).2 hprefix
          · intro total hresult
            rw [hremovals, ← htotal total hresult]
            rfl
      · rw [if_neg hselected] at h
        rw [removals, List.filter_cons_of_neg hselected]
        exact ih removed h

/-! ## Both on one asset -/

variable {path : String} {asset : Asset}

theorem resolveAsset_eq_ok
    (hresolved : (repository.answer (.resolve path) batch.store).1 = .ok (some asset)) :
    resolveAsset repository path batch =
      (.ok asset, (Job.ask repository (.resolve path) batch).2) := by
  have hanswer : (Job.ask repository (.resolve path) batch).1 = .ok (some asset) :=
    hresolved
  rw [resolveAsset, Job.bind_apply]
  rcases hasked : Job.ask repository (.resolve path) batch with ⟨found, asked⟩
  rw [hasked] at hanswer
  cases hanswer
  rfl

theorem calls_resolve
    (hresolved : (repository.answer (.resolve path) batch.store).1 = .ok (some asset)) :
    (Job.ask repository (.resolve path) batch).2.journal.calls =
      batch.journal.calls ++ [(.resolve path, none)] := by
  have hanswer : (Job.ask repository (.resolve path) batch).1 = .ok (some asset) :=
    hresolved
  rw [calls_ask, hanswer]
  rfl

/-- An address that is not the path can be told from it as soon as a rendition
passes. -/
theorem handOver_congr_iff
    (hresolved : (repository.answer (.resolve path) batch.store).1 = .ok (some asset))
    (scope : Scope) (filters : List (Filter σ)) (address : String) :
    let span := Span.onItem Operation.withAllRenditions path
    let asked :=
      (Job.ask repository (.resolve path) (Job.note (.span span scope) batch).2).2
    (∀ action : Action σ, handOver repository scope action filters path path batch =
        handOver repository scope action filters address path batch) ↔
      address = path ∨ (anyPasses repository
        (some span) filters asset.renditions asked).1 ≠ .ok true := by
  intro span asked
  have hopened :
      (repository.answer (.resolve path) (Job.note (.span span scope) batch).2.store).1
      = .ok (some asset) := hresolved
  have hhandOver (action : Action σ) (address : String) :
      handOver repository scope action filters address path batch =
        (forRenditions repository (some span) filters
          (action.apply repository (some span) address)
          asset.renditions 0 >>= fun invoked =>
            Job.emit (some span) (.fannedOut path asset.renditions.length invoked))
            asked := by
    show fanOut repository (some span) filters
        (action.apply repository (some span) address) path
      (Job.note (.span span scope) batch).2 = _
    rw [fanOut, Job.bind_apply, resolveAsset_eq_ok hopened]
  rcases hpasses : anyPasses repository (some span) filters asset.renditions asked with
      ⟨answer, passed⟩
  constructor
  · intro hsame
    by_cases haddress : address = path
    · exact .inl haddress
    refine .inr ?_
    rintro rfl
    -- an action that says whether it is handed the path
    let telling : Action σ := .custom "telling" fun handed =>
      Job.fail (if handed = path then .session "path" else .session "address")
    have hrun (address : String) :
        (handOver repository scope telling filters address path batch).1 =
        .error (if address = path then .session "path" else .session "address") := by
      rw [hhandOver, Job.bind_apply, apply, forRenditions_fail hpasses]
    have htold := congrArg Prod.fst (hsame telling)
    rw [hrun, hrun, if_pos rfl, if_neg haddress] at htold
    exact absurd (Except.error.inj htold) (by decide)
  · rintro (rfl | hanswer) action
    · rfl
    · rw [hhandOver, hhandOver, Job.bind_apply, Job.bind_apply,
        forRenditions_of_not_anyPasses hpasses hanswer,
        forRenditions_of_not_anyPasses hpasses hanswer]

/-- The calls of a removal. -/
theorem calls_removeRenditions
    (hresolved : (repository.answer (.resolve path) batch.store).1 = .ok (some asset))
    (scope : Scope) (selector : Selector) :
    let run := (removeRenditions selector).apply repository scope path batch
    ∃ made, run.2.journal.calls = batch.journal.calls ++ (.resolve path, none) :: made ∧
      made.map Prod.fst <+: removals selector asset.path asset.renditions ∧
      (run.1 = .ok () → made.map Prod.fst =
        removals selector asset.path asset.renditions) := by
  intro run
  let span := Span.onItem Operation.removeRenditions path
  let opened := (Job.note (.span span scope) batch).2
  have hopened : (repository.answer (.resolve path) opened.store).1 =
      .ok (some asset) := hresolved
  have hcalls := calls_resolve hopened
  rw [Filter.calls_note _ rfl] at hcalls
  have hrun : run = removeFrom repository (some span) selector path opened := rfl
  rw [removeFrom, Job.bind_apply, resolveAsset_eq_ok hopened] at hrun
  rcases hremoved : removeSelected repository selector asset.path asset.renditions 0
    (Job.ask repository (.resolve path) opened).2 with ⟨result, left⟩
  obtain ⟨made, hmade, hprefix, htotal⟩ :=
    calls_removeSelected selector asset.path 0 hremoved
  rw [hcalls, List.append_assoc] at hmade
  simp only [Job.bind_apply, hremoved] at hrun
  cases result with
  | error error =>
      rw [hrun]
      exact ⟨made, hmade, hprefix, nofun⟩
  | ok total =>
      rw [hrun]
      refine ⟨made, ?_, hprefix, fun _ => htotal total rfl⟩
      rw [← List.singleton_append, ← hmade]
      exact Filter.calls_note _ rfl left

/-- A fan-out over an asset hands over the path that it was asked for.  For any other
address, the asset's own path among them, there are actions that come to something else,
except if no rendition passes.  A removal asks for renditions of the asset's own path to
be removed, whatever path it was asked for. -/
theorem addressed_paths (filters : List (Filter σ)) (repository : Repository σ)
    (scope : Scope) (path : String) (batch : Batch σ) {asset : Asset}
    (hresolved : (repository.answer (.resolve path) batch.store).1 = .ok (some asset)) :
    let span := Span.onItem Operation.withAllRenditions path
    let asked :=
      (Job.ask repository (.resolve path) (Job.note (.span span scope) batch).2).2
    (∀ address,
      (∀ action : Action σ,
        (withAllRenditions action filters).apply repository scope path batch =
        handOver repository scope action filters address path batch) ↔
      address = path ∨
      (anyPasses repository (some span) filters asset.renditions asked).1 ≠ .ok true) ∧
    ∀ selector : Selector,
      let run := (removeRenditions selector).apply repository scope path batch
      ∃ made,
        run.2.journal.calls = batch.journal.calls ++ (.resolve path, none) :: made ∧
        made.map Prod.fst <+: removals selector asset.path asset.renditions ∧
        (run.1 = .ok () → made.map Prod.fst =
          removals selector asset.path asset.renditions) :=
  ⟨handOver_congr_iff hresolved scope filters, calls_removeRenditions hresolved scope⟩

open Rehearsal

/-- An asset with one rendition. -/
def picture : Asset := ⟨"/a", [⟨"web", "/a/web", .epoch⟩]⟩

/-- A world in which the asset is found by another name. -/
def renamed : World := { working := [⟨"/alias", picture⟩] }

/-- No filter rejects the rendition, so a fan-out over the asset by its other name does
not hand over the asset's own path, which is the path that a removal addresses. -/
theorem own_path_is_not_handed_over :
    let start : Batch World := { store := renamed }
    (World.repository.answer (.resolve "/alias") start.store).1 = .ok (some picture) ∧
      (¬∀ action : Action World,
        (withAllRenditions action []).apply World.repository none "/alias" start =
          handOver World.repository none action [] picture.path "/alias" start) ∧
      ∃ made, (Catalog.removeAllRenditions.apply World.repository none "/alias"
        start).2.journal.calls =
          start.journal.calls ++ (.resolve "/alias", none) :: made ∧
        made.map Prod.fst <+: removals .allButOriginal picture.path
          picture.renditions := by
  intro start
  have hresolved : (World.repository.answer (.resolve "/alias") start.store).1 =
      .ok (some picture) := by rfl
  obtain ⟨hhanded, hremoved⟩ :=
    addressed_paths [] World.repository none "/alias" start hresolved
  obtain ⟨made, hmade, hprefix, -⟩ := hremoved .allButOriginal
  refine ⟨hresolved, ?_, made, hmade, hprefix⟩
  intro hsame
  rcases (hhanded picture.path).1 hsame with hpath | hnone
  · exact absurd hpath (by decide)
  · exact hnone (by rfl)

/-- The asset is activated by its other name, and its rendition is removed by its
own. -/
theorem alias_is_activated :
    let calls (action : Action World) :=
      (action.apply World.repository none "/alias" { store := renamed }).2.journal.calls
    calls (.withAllRenditions Catalog.activateAll []) =
        [(.resolve "/alias", none), (.replicate .activate "/alias" none, none)] ∧
      calls Catalog.removeAllRenditions =
        [(.resolve "/alias", none), (.removeRendition "/a" "web", none)] := by
  intro calls
  exact ⟨by rfl, by rfl⟩

end ContentBatch.Action
