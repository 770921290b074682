import ContentBatch.Proofs.Asset.Removal

/-!
# What is left is made again

After all renditions but the original are removed, an asset is ready to have them made
again.  Whether it is depends on which original is meant.  The removal spares every
rendition that is named *original* in whatever case, so several may be left, and none of
them needs to be written in small letters.  The filter for outdated renditions looks for
exactly that name, and passes over assets without it.

## Main results

* `Freshness.needsRegeneration_assess`: when the renditions of an asset are outdated.
* `Filter.accepts_after_removal`: what a removal leaves, and when the filter accepts it.
* `Shelf.capital_original_is_passed_over`: an asset that is not accepted although an
  original is left.
-/

namespace ContentBatch

variable {σ : Type}

namespace Freshness

theorem needsRegeneration_classify (reference : Timestamp)
    (renditions : List Rendition) :
    (classify reference renditions).needsRegeneration = true ↔
      renditions.length ≤ 1 ∨
        ∃ rendition ∈ renditions, rendition.createdAt.before reference = true := by
  unfold classify
  by_cases holder :
    (renditions.any fun rendition => rendition.createdAt.before reference) = true
  · rw [if_pos holder]
    exact ⟨fun _ => .inr (List.any_eq_true.1 holder), fun _ => rfl⟩
  · rw [if_neg holder]
    rw [List.any_eq_true] at holder
    by_cases halone : renditions.length ≤ 1
    · rw [if_pos halone]
      exact ⟨fun _ => .inl halone, fun _ => rfl⟩
    · rw [if_neg halone]
      constructor
      · nofun
      · rintro (hlength | hfound)
        · exact absurd hlength halone
        · exact absurd hfound holder

/-- The renditions of an asset are outdated if it has a rendition with exactly the name
of the original, and that is the only one or one of them is older. -/
theorem needsRegeneration_assess (asset : Asset) :
    (assess asset).needsRegeneration = true ↔
      ∃ original,
        asset.renditions.find? (fun rendition => rendition.name == originalName)
          = some original ∧
        (asset.renditions.length = 1 ∨
          ∃ rendition ∈ asset.renditions,
            rendition.createdAt.before original.createdAt = true) := by
  unfold assess Asset.original? Asset.rendition?
  rcases hfound :
      asset.renditions.find? (fun rendition => rendition.name == originalName) with
    _ | original
  · rw [hfound]
    constructor
    · nofun
    · rintro ⟨_, hnone, -⟩
      cases hnone
  · rw [hfound]
    have hpos : 0 < asset.renditions.length :=
      List.length_pos_of_mem (List.mem_of_find?_eq_some hfound)
    have halone : asset.renditions.length ≤ 1 ↔ asset.renditions.length = 1 := by omega
    refine (needsRegeneration_classify original.createdAt asset.renditions).trans ?_
    rw [halone]
    constructor
    · exact fun h => ⟨original, rfl, h⟩
    · rintro ⟨_, hsame, h⟩
      cases hsame
      exact h

end Freshness

namespace Filter

variable {repository : Repository σ} {path assetPath : String} {contents : σ → Contents}

/-- The filter for outdated renditions goes by the asset that the repository finds. -/
theorem hasOutdatedRenditions_accepts {batch : Batch σ} {asset : Asset}
    (hfound : (repository.answer (.resolve path) batch.store).1 = .ok (some asset))
    (scope : Scope) :
    (hasOutdatedRenditions.accepts repository scope path batch).1 =
      .ok (Freshness.assess asset).needsRegeneration := by
  rcases hanswer : repository.answer (.resolve path) batch.store with ⟨answer, store⟩
  rw [hanswer] at hfound
  cases hfound
  simp only [accepts, freshnessAt, Job.within, Job.emit, Job.note, Job.ask,
    Job.bind_apply, hanswer]
  rfl

/-- After all renditions but the original were removed, exactly those are left that are
originals in whatever case they are written.  If the repository finds the asset, then
the filter for outdated renditions accepts it if and only if one of them is named
exactly as the original is, and that is the only one or one of them is older. -/
theorem accepts_after_removal (hdeleting : Deleting repository path assetPath contents)
    {scope : Scope} {batch final : Batch σ}
    (hok : Catalog.removeAllRenditions.apply repository scope path batch =
      (.ok (), final)) :
    let left := (contents batch.store).working.filter Rendition.isOriginal
    (contents final.store).working = left ∧
      ∀ asset, (repository.answer (.resolve path) final.store).1 = .ok (some asset) →
        ∀ scope, ∃ accepted,
          (hasOutdatedRenditions.accepts repository scope path final).1 = .ok accepted ∧
            (accepted = true ↔
              ∃ original, left.find? (fun rendition => rendition.name == originalName)
                  = some original ∧
                (left.length = 1 ∨
                  ∃ rendition ∈ left,
                    rendition.createdAt.before original.createdAt = true)) := by
  intro left
  have hleft : (contents final.store).working = left := by
    rw [Action.removeRenditions_contents hdeleting hok]
    refine List.filter_congr ?_
    intro rendition _
    exact Bool.not_not _
  refine ⟨hleft, ?_⟩
  intro asset hfound scope
  refine ⟨_, hasOutdatedRenditions_accepts hfound scope, ?_⟩
  rw [Freshness.needsRegeneration_assess,
    hdeleting.resolved final.store asset hfound, hleft]

end Filter

namespace Shelf

theorem eq_ok_of_toOption {α : Type} {result : Except ActionError α} {value : α}
    (h : result.toOption = some value) : result = .ok value := by
  cases result with
  | error error => cases h
  | ok other =>
      cases h
      rfl

/-- An asset whose only original is written in small letters, beside two renditions to
be made again. -/
theorem small_original_is_accepted :
    let original : Rendition := ⟨"original", "/a/original", .epoch⟩
    let renditions :=
      [⟨"web", "/a/web", .epoch⟩, original, ⟨"print", "/a/print", .epoch⟩]
    let start : Batch Shelf := { store := ⟨[], renditions, renditions⟩ }
    ∃ final,
      Catalog.removeAllRenditions.apply repository none "/a" start = (.ok (), final) ∧
      (repository.answer (.resolve "/a") final.store).1 =
        .ok (some ⟨"/a", [original]⟩) ∧
        final.store.working = [original] ∧
          (Filter.hasOutdatedRenditions.accepts repository none "/a" final).1 =
            .ok true := by
  intro original renditions start
  have hfound : (repository.answer (.resolve "/a")
      (Catalog.removeAllRenditions.apply repository none "/a" start).2.store).1 =
        .ok (some ⟨"/a", [original]⟩) := eq_ok_of_toOption (by decide +kernel)
  obtain ⟨final, hrun⟩ := Job.exists_eq_ok (show Job.failure?
    (Catalog.removeAllRenditions.apply repository none "/a" start).1 = none by
      decide +kernel)
  rw [hrun] at hfound
  obtain ⟨hleft, haccepts⟩ :=
    Filter.accepts_after_removal (keeping "/a").toDeleting hrun
  have honly : renditions.filter Rendition.isOriginal = [original] := by decide +kernel
  obtain ⟨accepted, hresult, hiff⟩ := haccepts _ hfound none
  have haccepted : accepted = true := by
    refine hiff.2 ⟨original, ?_, .inl ?_⟩
    · show (renditions.filter Rendition.isOriginal).find? _ = _
      rw [honly]
      rfl
    · show (renditions.filter Rendition.isOriginal).length = 1
      rw [honly]
      rfl
  refine ⟨final, hrun, hfound, hleft.trans honly, ?_⟩
  rw [hresult, haccepted]

/-- The only original is written with a capital.  The removal spares it, and the filter
passes over the asset, for which there is nothing to compare with. -/
theorem capital_original_is_passed_over :
    let original : Rendition := ⟨"Original", "/a/Original", .epoch⟩
    let web : Rendition := ⟨"web", "/a/web", .epoch⟩
    let start : Batch Shelf := { store := ⟨[], [original, web], [original, web]⟩ }
    let outcome := Catalog.removeAllRenditions.apply repository none "/a" start
    Deleting repository "/a" "/a" contents ∧ original.isOriginal = true ∧
      outcome.1 = .ok () ∧ outcome.2.store.working = [original] ∧
        (Filter.hasOutdatedRenditions.accepts repository none "/a" outcome.2).1 =
          .ok false := by
  intro original web start outcome
  refine ⟨(keeping "/a").toDeleting, by
      decide +kernel, Job.eq_ok_of_failure? (by decide +kernel),
    by decide +kernel, eq_ok_of_toOption (by decide +kernel)⟩

end Shelf

end ContentBatch
