import ContentBatch.Proofs.Asset.Verdict
import ContentBatch.Rehearsal.World

/-!
# Removals call by call

A removal takes a snapshot of the renditions of an asset and has those deleted that its
selector picks.  It makes one call for each of them, in the order of the snapshot, and
stops at the first call that fails.  So what it does to the store and to the journal is
known to the last line, whatever the store answers:

* `Deletes` strings deletions together, each of which finds the store as the one before
  has left it.
* `Batch.extended` is a batch with another store and further lines in its journal.

The removal of all renditions but the original and the removal of those that are named
like it share out the renditions of every asset between them.

## Main results

* `Action.removeSelected_cases`: all picked renditions are deleted, or those before one
  that cannot be.
* `Selector.originals_and_others`: removals that share out the renditions of an asset
  between them.
* `Action.deletions_of_removal`: all that a removal does, and what it comes to.
-/

namespace ContentBatch

variable {σ : Type}

/-! ## Batches with further lines -/

namespace Batch

/-- The batch with another store and some lines after those in its journal. -/
def extended (batch : Batch σ) (store : σ) (entries : List Entry) : Batch σ :=
  { batch with store, journal := batch.journal ++ entries.toArray }

variable {batch : Batch σ} {store next : σ} {entries others : List Entry}

theorem extended_nil (batch : Batch σ) : batch.extended batch.store [] = batch := by
  simp [extended]

theorem extended_extended :
    (batch.extended store entries).extended next others =
      batch.extended next (entries ++ others) := by
  simp [extended]

end Batch

namespace Job

variable {repository : Repository σ} {call : Call}
  {answer : Except ActionError call.Answer} {batch : Batch σ} {next : σ}

theorem note_eq (entry : Entry) (batch : Batch σ) :
    note entry batch = (.ok (), batch.extended batch.store [entry]) := by
  simp [note, Batch.extended]

theorem ask_eq (h : repository.answer call batch.store = (answer, next)) :
    ask repository call batch =
      (answer, batch.extended next [.call call (failure? answer)]) := by
  simp [ask, h, Batch.extended]

end Job

/-! ## Deletions -/

/-- Renditions with these names are deleted from an asset, one after another. -/
inductive Deletes (repository : Repository σ) (assetPath : String) :
    σ → List String → σ → Prop where
  | nil {store : σ} : Deletes repository assetPath store [] store
  | cons {store next final : σ} {name : String} {names : List String} :
      repository.answer (.removeRendition assetPath name) store = (.ok (), next) →
      Deletes repository assetPath next names final →
      Deletes repository assetPath store (name :: names) final

/-- The line of a call that is to delete a rendition. -/
def deletion (assetPath : String) (failure : Option ActionError)
    (name : String) : Entry :=
  .call (.removeRendition assetPath name) failure

namespace Selector

/-- The names of the picked renditions, in their order. -/
def picked (selector : Selector) (renditions : List Rendition) : List String :=
  (renditions.filter selector.selects).map Rendition.name

/-- What is named like the original is what the removal of all others spares. -/
theorem selects_named_original {name : String}
    (hname : Text.equalIgnoringCase name originalName = true) :
    (named name).selects = fun rendition => !allButOriginal.selects rendition := by
  rw [Text.equalIgnoringCase_iff] at hname
  funext rendition
  rw [selects, selects, Bool.not_not, Rendition.isOriginal, Rendition.nameMatches,
    Rendition.nameMatches, Text.equalIgnoringCase, Text.equalIgnoringCase, hname]

/-- The removal of what is named like the original and the removal of all others have no
rendition in common, and leave none out. -/
theorem originals_and_others {name : String}
    (hname : Text.equalIgnoringCase name originalName = true)
    (renditions : List Rendition) :
    (∀ rendition ∈ renditions.filter allButOriginal.selects,
      rendition ∉ renditions.filter (named name).selects) ∧
    (renditions.filter allButOriginal.selects ++
      renditions.filter (named name).selects).Perm renditions := by
  rw [selects_named_original hname]
  refine ⟨?_, List.filter_append_perm _ _⟩
  intro rendition hother horiginal
  have hselected := (List.mem_filter.1 hother).2
  have hspared := (List.mem_filter.1 horiginal).2
  rw [hselected] at hspared
  cases hspared

end Selector

namespace Action

variable {repository : Repository σ} {selector : Selector} {assetPath : String}

/-- All picked renditions are deleted and counted, or those before one that cannot be
deleted. -/
theorem removeSelected_cases (repository : Repository σ) (selector : Selector)
    (assetPath : String) (renditions : List Rendition) (removed : Nat)
    (batch : Batch σ) :
    let names := selector.picked renditions
    let run := removeSelected repository selector assetPath renditions removed batch
    (∃ left, Deletes repository assetPath batch.store names left ∧
      run = (.ok (removed + names.length),
        batch.extended left (names.map (deletion assetPath none)))) ∨
    ∃ past name rest middle error left, names = past ++ name :: rest ∧
      Deletes repository assetPath batch.store past middle ∧
      repository.answer (.removeRendition assetPath name) middle =
        (.error error, left) ∧
      run = (.error error,
        batch.extended left (past.map (deletion assetPath none) ++
          [deletion assetPath (some error) name])) := by
  induction renditions generalizing removed batch with
  | nil => exact .inl ⟨batch.store, .nil, congrArg _ batch.extended_nil.symm⟩
  | cons rendition renditions ih =>
      intro names run
      by_cases hselected : selector.selects rendition = true
      · have hnames : names = rendition.name :: selector.picked renditions := by
          show Selector.picked _ _ = _
          rw [Selector.picked, List.filter_cons_of_pos hselected]
          rfl
        have hrun : run =
            (Job.ask repository (.removeRendition assetPath rendition.name) >>= fun _ =>
              removeSelected repository selector assetPath renditions (removed + 1))
              batch := by
          show removeSelected _ _ _ _ _ _ = _
          rw [removeSelected, if_pos hselected]
        rw [hnames, hrun, Job.bind_apply]
        rcases hanswer :
            repository.answer (.removeRendition assetPath rendition.name) batch.store
          with ⟨error | _, next⟩
        all_goals rw [Job.ask_eq hanswer]
        case error =>
          exact .inr ⟨[], rendition.name, _, batch.store, error, next, rfl,
            .nil, hanswer, rfl⟩
        case ok =>
          rcases ih (removed + 1)
              (batch.extended next [deletion assetPath none rendition.name]) with
            ⟨left, hdeletes, hrest⟩ | ⟨past, name, rest, middle, error, left, hsplit,
              hpast, hfails, hrest⟩
          · refine .inl ⟨left, .cons hanswer hdeletes, hrest.trans ?_⟩
            rw [Batch.extended_extended, List.length_cons,
              Nat.add_assoc, Nat.add_comm 1]
            rfl
          · refine .inr ⟨rendition.name :: past, name, rest, middle, error, left, ?_,
              .cons hanswer hpast, hfails, hrest.trans ?_⟩
            · rw [hsplit, List.cons_append]
            · rw [Batch.extended_extended]
              rfl
      · have hnames : names = selector.picked renditions := by
          show Selector.picked _ _ = _
          rw [Selector.picked, List.filter_cons_of_neg hselected]
          rfl
        have hrun : run =
            removeSelected repository selector assetPath renditions removed batch := by
          show removeSelected _ _ _ _ _ _ = _
          rw [removeSelected, if_neg hselected]
        rw [hnames, hrun]
        exact ih removed batch

/-- All that a removal does, from its span to its report.  It asks for the asset once,
and without an asset it does nothing else.  Otherwise it has the picked renditions of
the asset deleted: either all of them, and then it reports how many there were, or those
before one whose deletion fails, and then the error of this call is the result and
nothing is reported.  Removals of all but the original and of what is named like it pick
no rendition both, and together they pick all. -/
theorem deletions_of_removal (selector : Selector) (repository : Repository σ)
    (scope : Scope) (path : String) (batch : Batch σ) :
    (let span := Span.onItem Operation.removeRenditions path
      let run := (removeRenditions selector).apply repository scope path batch
      ∃ found asked, repository.answer (.resolve path) batch.store = (found, asked) ∧
        let begun := [.span span scope, .call (.resolve path) (Job.failure? found)]
        match found with
        | .error error => run = (.error error, batch.extended asked begun)
        | .ok none => run = (.error (.assetNotFound path), batch.extended asked begun)
        | .ok (some asset) =>
          let names := selector.picked asset.renditions
          let details := "removed " ++ toString names.length ++ " rendition(s)"
          (∃ left, Deletes repository asset.path asked names left ∧
            run = (.ok (), batch.extended left
              (begun ++ names.map (deletion asset.path none) ++
                [.event (.itemOperation Operation.removeRenditions path
                  "completed" (some details))
                  (some span)]))) ∨
          ∃ past name rest middle error left, names = past ++ name :: rest ∧
            Deletes repository asset.path asked past middle ∧
            repository.answer (.removeRendition asset.path name) middle =
              (.error error, left) ∧
            run = (.error error, batch.extended left
              (begun ++ past.map (deletion asset.path none) ++
                [deletion asset.path (some error) name]))) ∧
    ∀ name, Text.equalIgnoringCase name originalName = true → ∀ asset : Asset,
      let others := asset.renditions.filter Selector.allButOriginal.selects
      let originals := asset.renditions.filter (Selector.named name).selects
      (∀ rendition ∈ others, rendition ∉ originals) ∧
      (others ++ originals).Perm asset.renditions := by
  refine ⟨?_, fun name hname asset =>
    Selector.originals_and_others hname asset.renditions⟩
  intro span run
  rcases hanswer : repository.answer (.resolve path) batch.store with ⟨found, asked⟩
  refine ⟨found, asked, rfl, ?_⟩
  intro begun
  let opened := batch.extended batch.store [.span span scope]
  have hopened : repository.answer (.resolve path) opened.store = (found, asked) :=
    hanswer
  have hasked : Job.ask repository (.resolve path) opened =
      (found, batch.extended asked begun) := by
    rw [Job.ask_eq hopened, Batch.extended_extended]
    rfl
  have hrun : run = removeFrom repository (some span) selector path opened := by
    show Job.within scope span _ batch = _
    rw [Job.within, Job.bind_apply, Job.note_eq]
  rw [removeFrom, Job.bind_apply, resolveAsset, Job.bind_apply, hasked] at hrun
  rcases found with error | _ | asset
  · exact hrun
  · exact hrun
  · simp only [Job.pure_apply, Job.bind_apply] at hrun
    rcases removeSelected_cases repository selector asset.path asset.renditions 0
        (batch.extended asked begun)
      with ⟨left, hdeletes, hremoved⟩ | ⟨past, name, rest, middle, error, left, hsplit,
        hpast, hfails, hremoved⟩
    · refine .inl ⟨left, hdeletes, ?_⟩
      rw [hrun, hremoved, Batch.extended_extended, Nat.zero_add]
      show Job.note _ _ = _
      rw [Job.note_eq, Batch.extended_extended]
      rfl
    · refine .inr ⟨past, name, rest, middle, error, left, hsplit, hpast, hfails, ?_⟩
      rw [hrun, hremoved, Batch.extended_extended, List.append_assoc]

open Rehearsal

/-- An asset that is found by another name, with an original in other letters among its
renditions, while the second deletion fails.  The last rendition is not asked for, and
nothing is reported. -/
theorem second_deletion_fails :
    let rendition (name : String) : Rendition := ⟨name, "/a/" ++ name, .epoch⟩
    let asset : Asset := ⟨"/a",
      [rendition "web", rendition "Original", rendition "print", rendition "zoom"]⟩
    let world : World :=
      { queues := [(.removeRendition, [{}, { error := some (.session "locked") }])]
        working := [⟨"/alias", asset⟩] }
    let others := asset.renditions.filter Selector.allButOriginal.selects
    let originals := asset.renditions.filter (Selector.named "ORIGINAL").selects
    let run := (removeRenditions .allButOriginal).apply World.repository none "/alias"
      { store := world }
    Text.equalIgnoringCase "ORIGINAL" originalName = true ∧
      ((∀ rendition ∈ others, rendition ∉ originals) ∧
        (others ++ originals).Perm asset.renditions) ∧
      originals = [rendition "Original"] ∧
      Job.failure? run.1 = some (.session "locked") ∧
      run.2.journal.calls.map Prod.snd = [none, none, some (.session "locked")] ∧
      run.2.journal.events = [] := by
  intro rendition asset world others originals run
  have hname : Text.equalIgnoringCase "ORIGINAL" originalName = true := by
    decide +kernel
  have hshared := (deletions_of_removal .allButOriginal World.repository none "/alias"
    { store := world }).2
    "ORIGINAL" hname asset
  refine ⟨hname, hshared, ?_⟩
  decide +kernel

end Action

end ContentBatch
