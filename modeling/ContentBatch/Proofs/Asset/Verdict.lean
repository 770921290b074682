import ContentBatch.Proofs.Asset.Regeneration

/-!
# What a verdict goes by

The reference of an asset is the first rendition with exactly the name of the original.
The verdict on an asset compares all its renditions with the reference and counts them
all, so it tells apart neither originals in other letters from derived renditions, nor a
second original.

`GoesByOriginals` is the verdict that takes an original for an original in whatever
letters it is written.  Both are the same as long as an asset has a single original that
is written in small letters, or none.

## Main results

* `Freshness.assess_by_reference`: when an asset is fresh, outdated or without a
  reference.
* `Freshness.originals_in_other_letters_and_number`: assets on which the two verdicts
  differ.
-/

namespace ContentBatch

namespace Asset

/-- The renditions of an asset that count as originals, in whatever letters they are
written. -/
def originals (asset : Asset) : List Rendition :=
  asset.renditions.filter Rendition.isOriginal

/-- The renditions of an asset that are made from an original. -/
def derived (asset : Asset) : List Rendition :=
  asset.renditions.filter fun rendition => !rendition.isOriginal

/-- The first rendition with exactly the name of the original. -/
def IsReference (asset : Asset) (reference : Rendition) : Prop :=
  reference.name = originalName ∧
    ∃ earlier later, asset.renditions = earlier ++ reference :: later ∧
      ∀ rendition ∈ earlier, rendition.name ≠ originalName

variable {asset : Asset} {reference : Rendition}

theorem original?_eq_some_iff :
    asset.original? = some reference ↔ asset.IsReference reference := by
  simp [original?, rendition?, IsReference, List.find?_eq_some_iff_append]

theorem original?_eq_none_iff :
    asset.original? = none ↔
    ∀ rendition ∈ asset.renditions, rendition.name ≠ originalName := by
  simp [original?, rendition?]

/-- A rendition with exactly the name of the original is an original. -/
theorem isOriginal_of_name {rendition : Rendition}
    (hname : rendition.name = originalName) :
    rendition.isOriginal = true := by
  rw [Rendition.isOriginal, Rendition.nameMatches, hname]
  decide

theorem IsReference.mem_originals (h : asset.IsReference reference) :
    reference ∈ asset.originals := by
  obtain ⟨hname, earlier, later, hrenditions, -⟩ := h
  have hmem : reference ∈ asset.renditions := by simp [hrenditions]
  exact List.mem_filter.2 ⟨hmem, isOriginal_of_name hname⟩

theorem length_renditions (asset : Asset) :
    asset.renditions.length = asset.originals.length + asset.derived.length := by
  rw [originals,
    derived, ← List.countP_eq_length_filter, ← List.countP_eq_length_filter,
    List.length_eq_countP_add_countP Rendition.isOriginal]
  simp

/-- Beside a reference there is nothing, or something is derived from it, or there is
another original. -/
theorem IsReference.length_le_one_iff (h : asset.IsReference reference) :
    asset.renditions.length ≤ 1 ↔ asset.derived = [] ∧ asset.originals.length = 1 := by
  have hpos : 0 < asset.originals.length := List.length_pos_of_mem h.mem_originals
  have hlength := asset.length_renditions
  rw [← List.length_eq_zero_iff]
  omega

end Asset

namespace Freshness

variable {asset : Asset} {reference : Rendition}

theorem needsRegeneration_eq_true_iff {verdict : Freshness} :
    verdict.needsRegeneration = true ↔ verdict = .outdated := by
  cases verdict <;> decide

theorem classify_ne_noReference (time : Timestamp) (renditions : List Rendition) :
    classify time renditions ≠ .noReference := by
  unfold classify
  split
  · decide
  · split <;> decide

theorem classify_eq_outdated_iff {time : Timestamp} {renditions : List Rendition} :
    classify time renditions = .outdated ↔
      renditions.length ≤ 1 ∨ ∃ rendition ∈ renditions,
        rendition.createdAt.before time = true :=
  needsRegeneration_eq_true_iff.symm.trans (needsRegeneration_classify time renditions)

theorem classify_eq_fresh_iff {time : Timestamp} {renditions : List Rendition} :
    classify time renditions = .fresh ↔ classify time renditions ≠ .outdated := by
  have hverdict := classify_ne_noReference time renditions
  cases hclassify : classify time renditions with
  | noReference => exact absurd hclassify hverdict
  | _ => decide

/-- The verdict that goes by originals in whatever letters: without an original there is
no reference, and an asset is fresh if something is derived from an original and no
rendition is older than that. -/
structure GoesByOriginals (asset : Asset) (verdict : Freshness) : Prop where
  noReference_iff : verdict = .noReference ↔ asset.originals = []
  fresh_iff : verdict = .fresh ↔
    ∃ original ∈ asset.originals, asset.derived ≠ [] ∧
      ∀ rendition ∈ asset.renditions,
        rendition.createdAt.before original.createdAt = false

theorem assess_of_reference (h : asset.IsReference reference) :
    assess asset = classify reference.createdAt asset.renditions := by
  rw [assess, Asset.original?_eq_some_iff.2 h]

theorem assess_eq_noReference_iff :
    assess asset = .noReference ↔
    ∀ rendition ∈ asset.renditions, rendition.name ≠ originalName := by
  rw [← Asset.original?_eq_none_iff, assess]
  cases asset.original? with
  | none => simp
  | some reference => simpa using classify_ne_noReference _ _

theorem exists_isReference (h : assess asset ≠ .noReference) :
    ∃ reference, asset.IsReference reference := by
  cases horiginal : asset.original? with
  | none => exact absurd (by rw [assess, horiginal]) h
  | some reference => exact ⟨reference, Asset.original?_eq_some_iff.1 horiginal⟩

theorem assess_eq_outdated_iff :
    assess asset = .outdated ↔ ∃ reference, asset.IsReference reference ∧
      (asset.derived = [] ∧ asset.originals.length = 1 ∨
        ∃ rendition ∈ asset.renditions,
          rendition.createdAt.before reference.createdAt = true) := by
  constructor
  · intro h
    have hverdict : assess asset ≠ .noReference := by simp [h]
    obtain ⟨reference, href⟩ := exists_isReference hverdict
    rw [assess_of_reference href, classify_eq_outdated_iff, href.length_le_one_iff] at h
    exact ⟨reference, href, h⟩
  · rintro ⟨reference, href, h⟩
    rw [assess_of_reference href, classify_eq_outdated_iff, href.length_le_one_iff]
    exact h

/-- An asset with a reference is not outdated if there is something beside it and
nothing is older. -/
theorem classify_reference_eq_fresh_iff (href : asset.IsReference reference) :
    classify reference.createdAt asset.renditions = .fresh ↔
      (asset.derived ≠ [] ∨ 1 < asset.originals.length) ∧
        ∀ rendition ∈ asset.renditions,
          rendition.createdAt.before reference.createdAt = false := by
  have hpos : 0 < asset.originals.length := List.length_pos_of_mem href.mem_originals
  have halone : ¬ (asset.derived = [] ∧ asset.originals.length = 1) ↔
      asset.derived ≠ [] ∨ 1 < asset.originals.length := by
    rw [Classical.not_and_iff_not_or_not]
    exact or_congr_right (by omega)
  rw [classify_eq_fresh_iff, Ne, classify_eq_outdated_iff,
    href.length_le_one_iff, not_or, halone]
  simp

theorem assess_eq_fresh_iff :
    assess asset = .fresh ↔ ∃ reference, asset.IsReference reference ∧
      (asset.derived ≠ [] ∨ 1 < asset.originals.length) ∧
        ∀ rendition ∈ asset.renditions,
          rendition.createdAt.before reference.createdAt = false := by
  constructor
  · intro h
    have hverdict : assess asset ≠ .noReference := by simp [h]
    obtain ⟨reference, href⟩ := exists_isReference hverdict
    rw [assess_of_reference href, classify_reference_eq_fresh_iff href] at h
    exact ⟨reference, href, h⟩
  · rintro ⟨reference, href, h⟩
    rw [assess_of_reference href, classify_reference_eq_fresh_iff href]
    exact h

/-- An original in small letters that is the only one is the reference. -/
theorem isReference_of_originals_eq (h : asset.originals = [reference])
    (hname : reference.name = originalName) : asset.IsReference reference := by
  have hmem : reference ∈ asset.renditions :=
    (List.mem_filter.1 (h ▸ List.mem_singleton_self reference)).1
  cases horiginal : asset.original? with
  | none => exact absurd hname (Asset.original?_eq_none_iff.1 horiginal reference hmem)
  | some other =>
      have hother := Asset.original?_eq_some_iff.1 horiginal
      have hsame := hother.mem_originals
      rw [h, List.mem_singleton] at hsame
      rwa [hsame] at hother

/-- An asset has no reference if every original is written in other letters.  With a
reference it is fresh if no rendition is older than that and something is derived or
there is another original, and otherwise outdated.  So for assets without an original,
and for those whose only one is written in small letters, the verdict goes by
originals. -/
theorem assess_by_reference (asset : Asset) :
    ((assess asset = .noReference ↔
      ∀ original ∈ asset.originals, original.name ≠ originalName) ∧
      (assess asset = .fresh ↔ ∃ reference, asset.IsReference reference ∧
        (asset.derived ≠ [] ∨ 1 < asset.originals.length) ∧
          ∀ rendition ∈ asset.renditions,
            rendition.createdAt.before reference.createdAt = false) ∧
      (assess asset = .outdated ↔ ∃ reference, asset.IsReference reference ∧
        (asset.derived = [] ∧ asset.originals.length = 1 ∨
          ∃ rendition ∈ asset.renditions,
            rendition.createdAt.before reference.createdAt = true))) ∧
    ((asset.originals = [] ∨
      ∃ original, asset.originals = [original] ∧ original.name = originalName) →
      GoesByOriginals asset (assess asset)) := by
  have hnoReference : assess asset = .noReference ↔
      ∀ original ∈ asset.originals, original.name ≠ originalName := by
    rw [assess_eq_noReference_iff]
    constructor
    · intro h original hmem
      exact h original (List.mem_filter.1 hmem).1
    · intro h rendition hmem hname
      exact h rendition (List.mem_filter.2 ⟨hmem, Asset.isOriginal_of_name hname⟩) hname
  refine ⟨⟨hnoReference, assess_eq_fresh_iff, assess_eq_outdated_iff⟩, ?_⟩
  rintro (hnone | ⟨original, hone, hname⟩)
  · have hverdict : assess asset = .noReference := by simp [hnoReference, hnone]
    exact ⟨by simp [hverdict, hnone], by simp [hverdict, hnone]⟩
  · have href := isReference_of_originals_eq hone hname
    have hunique : ∀ reference, asset.IsReference reference → reference = original := by
      intro reference h
      simpa [hone] using h.mem_originals
    refine ⟨by simp [hnoReference, hone, hname], ?_⟩
    rw [assess_eq_fresh_iff]
    constructor
    · rintro ⟨reference, hreference, hbeside, hyoung⟩
      obtain rfl := hunique reference hreference
      have hderived : asset.derived ≠ [] := by simpa [hone] using hbeside
      exact ⟨reference, by simp [hone], hderived, hyoung⟩
    · rintro ⟨other, hother, hderived, hyoung⟩
      obtain rfl : other = original := by simpa [hone] using hother
      exact ⟨other, href, .inl hderived, hyoung⟩

/-- A single original in small letters, and a rendition that was made from it at the
same time. -/
theorem assess_beside_original :
    let original : Rendition := ⟨"original", "/a/original", .epoch⟩
    let asset : Asset := ⟨"/a", [⟨"web", "/a/web", .epoch⟩, original]⟩
    asset.originals = [original] ∧ original.name = originalName ∧
      GoesByOriginals asset (assess asset) ∧ assess asset = .fresh := by
  intro original asset
  have hone : asset.originals = [original] := by decide +kernel
  exact ⟨hone, rfl,
    (assess_by_reference asset).2 (.inr ⟨original, hone, rfl⟩), by decide +kernel⟩

/-- An asset whose only original is written with a capital has no reference, and one
with two originals and nothing else is fresh although nothing was derived. -/
theorem originals_in_other_letters_and_number :
    let capital : Asset :=
      ⟨"/a", [⟨"Original", "/a/Original", .epoch⟩, ⟨"web", "/a/web", .epoch⟩]⟩
    let twice : Asset :=
      ⟨"/a", [⟨"original", "/a/1", .epoch⟩, ⟨"original", "/a/2", .epoch⟩]⟩
    (assess capital = .noReference ∧ ¬ GoesByOriginals capital (assess capital)) ∧
      assess twice = .fresh ∧ ¬ GoesByOriginals twice (assess twice) := by
  intro capital twice
  have hcapital : assess capital = .noReference := by decide +kernel
  have htwice : assess twice = .fresh := by decide +kernel
  refine ⟨⟨hcapital, fun h => ?_⟩, htwice, fun h => ?_⟩
  · have hnone : capital.originals = [] := h.noReference_iff.1 hcapital
    exact absurd hnone (by decide +kernel)
  · obtain ⟨-, -, hderived, -⟩ := h.fresh_iff.1 htwice
    exact absurd (by decide +kernel) hderived

end Freshness

end ContentBatch
