import ContentBatch.Proofs.Asset.Verdict

/-!
# Verdicts do not go by order

A verdict is found by going through the renditions of an asset, but it does not depend
on the way that is taken.  All that counts is whether one of them is older than the
reference, and whether there is more than one.  So renditions may be listed in any
order, a later reference makes no outdated rendition fresh, and a rendition that is not
older than the reference does no harm wherever it is put.

For an asset the reference is one of the renditions, and of several with exactly the
name of the original it is the first.  So there is one order that counts: that of the
*candidates* among themselves.

## Main results

* `Freshness.classify_perm`, `Freshness.classify_later`, `Freshness.classify_insert`:
  other orders, later references and further renditions.
* `Freshness.assess_candidates`: the verdict on an asset goes by its first candidate.
* `Freshness.verdict_by_set`: what verdicts go by.
-/

namespace ContentBatch

/-- What comes before an instant also comes before every instant that is not earlier. -/
theorem Timestamp.before_of_not_before {a b c : Timestamp} (hab : a.before b = true)
    (hcb : c.before b = false) : a.before c = true := by
  rw [Bool.eq_false_iff, Ne, before_iff] at hcb
  rw [before_iff] at hab ⊢
  omega

namespace Asset

/-- The renditions of an asset with exactly the name of the original, in their order. -/
def candidates (asset : Asset) : List Rendition :=
  asset.renditions.filter fun rendition => rendition.name == originalName

/-- The same renditions in another order, in which the candidates follow each other as
before. -/
structure Reordered (asset other : Asset) : Prop where
  perm : asset.renditions.Perm other.renditions
  candidates_eq : asset.candidates = other.candidates

theorem original?_eq_head?_candidates (asset : Asset) :
    asset.original? = asset.candidates.head? :=
  List.head?_filter.symm

end Asset

namespace Freshness

variable {time later : Timestamp} {renditions others : List Rendition}

theorem classify_eq_fresh_iff_forall :
    classify time renditions = .fresh ↔
      1 < renditions.length ∧ ∀ rendition ∈ renditions,
        rendition.createdAt.before time = false := by
  rw [classify_eq_fresh_iff, Ne, classify_eq_outdated_iff, not_or, Nat.not_le]
  simp

/-- Only how many renditions there are matters, and which. -/
theorem classify_congr (hlength : others.length = renditions.length)
    (hmem : ∀ rendition, rendition ∈ others ↔ rendition ∈ renditions) :
    classify time others = classify time renditions := by
  have houtdated : classify time others = .outdated ↔
      classify time renditions = .outdated := by
    simp only [classify_eq_outdated_iff, hlength, hmem]
  by_cases hverdict : classify time renditions = .outdated
  · rw [hverdict, houtdated.2 hverdict]
  · rw [classify_eq_fresh_iff.2 hverdict,
      classify_eq_fresh_iff.2 (mt houtdated.1 hverdict)]

theorem classify_perm (h : renditions.Perm others) :
    classify time others = classify time renditions :=
  classify_congr h.length_eq.symm fun _ => h.mem_iff.symm

/-- What is outdated is outdated for every later reference. -/
theorem classify_later (hlater : later.before time = false)
    (h : classify time renditions = .outdated) :
    classify later renditions = .outdated := by
  rw [classify_eq_outdated_iff] at h ⊢
  rcases h with halone | ⟨rendition, hmem, holder⟩
  · exact .inl halone
  · exact .inr ⟨rendition, hmem, Timestamp.before_of_not_before holder hlater⟩

/-- What is fresh stays fresh if a rendition is put among them that is not older than
the reference. -/
theorem classify_insert {earlier further : List Rendition} {rendition : Rendition}
    (hyoung : rendition.createdAt.before time = false)
    (h : classify time (earlier ++ further) = .fresh) :
    classify time (earlier ++ rendition :: further) = .fresh := by
  rw [classify_eq_fresh_iff_forall] at h ⊢
  obtain ⟨hlength, hall⟩ := h
  rw [List.forall_mem_append] at hall
  refine ⟨?_, ?_⟩
  · rw [List.length_append] at hlength
    rw [List.length_append, List.length_cons]
    omega
  · rw [List.forall_mem_append, List.forall_mem_cons]
    exact ⟨hall.1, hyoung, hall.2⟩

theorem assess_candidates (asset : Asset) :
    assess asset =
      match asset.candidates with
      | [] => .noReference
      | reference :: _ => classify reference.createdAt asset.renditions := by
  rw [assess, Asset.original?_eq_head?_candidates]
  cases asset.candidates with
  | nil => rfl
  | cons reference rest => rfl

theorem assess_reordered {asset other : Asset} (h : asset.Reordered other) :
    assess other = assess asset := by
  rw [assess_candidates, assess_candidates, h.candidates_eq]
  cases other.candidates with
  | nil => rfl
  | cons reference rest => exact classify_perm h.perm

/-- What verdicts go by.  Renditions are outdated if one of them is older than the
reference or there is at most one, and otherwise fresh.  So the verdict is the same in
every order, a later reference makes nothing fresh that was outdated, and a rendition
that is not older than the reference makes nothing outdated that was fresh.  The verdict
on an asset is that of its first candidate, and the same in every order that leaves the
candidates as they follow each other. -/
theorem verdict_by_set (time : Timestamp) (renditions : List Rendition)
    (asset : Asset) :
    ((classify time renditions = .outdated ↔
        (∃ rendition ∈ renditions, rendition.createdAt.before time = true) ∨
        renditions.length ≤ 1) ∧
      (classify time renditions = .fresh ↔
        ¬ ((∃ rendition ∈ renditions, rendition.createdAt.before time = true) ∨
          renditions.length ≤ 1)) ∧
      classify time renditions ≠ .noReference ∧
      (∀ others, renditions.Perm others →
        classify time others = classify time renditions) ∧
      (∀ later, later.before time = false → classify time renditions = .outdated →
        classify later renditions = .outdated) ∧
      ∀ earlier further rendition, renditions = earlier ++ further →
        rendition.createdAt.before time = false → classify time renditions = .fresh →
          classify time (earlier ++ rendition :: further) = .fresh) ∧
    (∀ other, asset.Reordered other → assess other = assess asset) ∧
    assess asset =
      match asset.candidates with
      | [] => .noReference
      | reference :: _ => classify reference.createdAt asset.renditions := by
  have houtdated : classify time renditions = .outdated ↔
      (∃ rendition ∈ renditions, rendition.createdAt.before time = true) ∨
      renditions.length ≤ 1 :=
    classify_eq_outdated_iff.trans or_comm
  refine ⟨⟨houtdated, ?_, classify_ne_noReference time renditions, ?_, ?_, ?_⟩, ?_,
    assess_candidates asset⟩
  · rw [classify_eq_fresh_iff, Ne, houtdated]
  · exact fun others hperm => classify_perm hperm
  · exact fun later hlater => classify_later hlater
  · rintro earlier further rendition rfl hyoung
    exact classify_insert hyoung
  · exact fun other hreordered => assess_reordered hreordered

/-- Two candidates and a rendition of the time of the first one, which may stand
anywhere between them.  If the candidates change places, the later one is the reference,
and the verdict is another. -/
theorem assess_reordered_candidates :
    let later : Timestamp :=
      ⟨Timestamp.epoch.date, 60, 0, by decide, by decide, by decide⟩
    let first : Rendition := ⟨"original", "/a/1", .epoch⟩
    let second : Rendition := ⟨"original", "/a/2", later⟩
    let web : Rendition := ⟨"web", "/a/web", .epoch⟩
    let asset : Asset := ⟨"/a", [first, second, web]⟩
    let other : Asset := ⟨"/a", [web, first, second]⟩
    asset.Reordered other ∧ assess other = assess asset ∧ assess asset = .fresh ∧
      assess ⟨"/a", [web, second, first]⟩ = .outdated := by
  intro later first second web asset other
  have hreordered : asset.Reordered other := ⟨by decide +kernel, by decide +kernel⟩
  have hverdict := (verdict_by_set .epoch asset.renditions asset).2.1 other hreordered
  exact ⟨hreordered, hverdict, by decide +kernel, by decide +kernel⟩

end Freshness

end ContentBatch
