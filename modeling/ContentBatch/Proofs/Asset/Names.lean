import ContentBatch.Proofs.Asset.Verdict
import ContentBatch.Proofs.Text.Lowercase

/-!
# Names of renditions

Names are compared ignoring case.  A selector that picks a name picks the same
renditions when some of the characters of that name, or all of them, are replaced by
their small forms.

The name of originals is ASCII, and none of its letters is the small form of a character
outside ASCII.  So the texts that are equal to it ignoring case are the spellings in
capital and small letters, and no others: there is no rendition that is protected as an
original because of a letter from elsewhere.

## Main results

* `Selector.selects_named_loweredAt`: a picked name may be given in small letters.
* `equalIgnoringCase_originalName_iff`, `Rendition.isOriginal_iff`: the spellings of the
  name of originals.
* `names_ignore_case`: both, for all names, renditions and assets.
-/

namespace ContentBatch

/-- A text that consists of the letters of the original's name, each of them capital or
small. -/
def SpellsOriginal (text : String) : Prop :=
  List.Forall₂ (fun letter c => c = letter ∨ c = letter.toUpper)
    ['o', 'r', 'i', 'g', 'i', 'n', 'a', 'l'] text.toList

instance (text : String) : Decidable (SpellsOriginal text) :=
  inferInstanceAs (Decidable (List.Forall₂ _ _ _))

/-- The spellings in capital and small letters are all that is equal to the original's
name. -/
theorem equalIgnoringCase_originalName_iff (text : String) :
    Text.equalIgnoringCase text originalName = true ↔ SpellsOriginal text := by
  have hplain : ∀ letter ∈ originalName.toList, Text.Plain letter :=
    Text.plain_of_all (by decide +kernel)
  exact Text.Plain.equalIgnoringCase_iff hplain text

theorem Rendition.isOriginal_iff (rendition : Rendition) :
    rendition.isOriginal = true ↔ SpellsOriginal rendition.name :=
  equalIgnoringCase_originalName_iff rendition.name

namespace Selector

theorem selects_named_loweredAt (chosen : Nat → Bool) (name : String) :
    (named (Text.loweredAt chosen name)).selects = (named name).selects := by
  funext rendition
  rw [selects, selects, Rendition.nameMatches, Rendition.nameMatches,
    Text.equalIgnoringCase, Text.equalIgnoringCase, Text.lowercaseChars_loweredAt]

/-- The removal of all but the originals leaves the renditions with a spelling of the
original's name. -/
theorem remaining_allButOriginal (renditions : List Rendition) :
    allButOriginal.remaining renditions =
      renditions.filter fun rendition => decide (SpellsOriginal rendition.name) := by
  refine List.filter_congr ?_
  intro rendition _
  rw [selects, Bool.not_not, Bool.eq_iff_iff, rendition.isOriginal_iff,
    decide_eq_true_iff]

end Selector

/-- The reference of an asset has a spelling of the original's name. -/
theorem Asset.spellsOriginal_of_original? {asset : Asset} {reference : Rendition}
    (h : asset.original? = some reference) : SpellsOriginal reference.name := by
  obtain ⟨hname, _⟩ := original?_eq_some_iff.1 h
  rw [hname]
  decide

/-- What ignoring case does to names.

* The equality of two names, and what a selector picks by name from any asset, are the
  same when any of the characters are replaced by their small forms, or all of them.
* The texts that are equal to the original's name are its spellings in capital and small
  letters.  A rendition with another name is neither protected from the removal of all
  others nor an original in any other way. -/
theorem names_ignore_case :
    (∀ (a b : String) (chosen chosen' : Nat → Bool),
      Text.equalIgnoringCase (Text.loweredAt chosen a) (Text.loweredAt chosen' b) =
        Text.equalIgnoringCase a b) ∧
    (∀ (name : String) (asset : Asset),
      (∀ chosen : Nat → Bool,
        asset.renditions.filter (Selector.named (Text.loweredAt chosen name)).selects =
          asset.renditions.filter (Selector.named name).selects) ∧
      asset.renditions.filter (Selector.named (Text.lowercaseText name)).selects =
        asset.renditions.filter (Selector.named name).selects) ∧
    (∀ text, Text.equalIgnoringCase text originalName = true ↔ SpellsOriginal text) ∧
    (∀ rendition : Rendition, rendition.isOriginal = true ↔
      SpellsOriginal rendition.name) ∧
    ∀ asset : Asset,
      (Selector.allButOriginal.remaining asset.renditions =
        asset.renditions.filter fun rendition =>
          decide (SpellsOriginal rendition.name)) ∧
      ∀ reference, asset.original? = some reference →
        SpellsOriginal reference.name := by
  refine ⟨?_, ?_, equalIgnoringCase_originalName_iff, Rendition.isOriginal_iff, ?_⟩
  · intro a b chosen chosen'
    exact Text.equalIgnoringCase_loweredAt chosen chosen' a b
  · intro name asset
    refine ⟨?_, ?_⟩
    · intro chosen
      rw [Selector.selects_named_loweredAt]
    · rw [← Text.loweredAt_all, Selector.selects_named_loweredAt]
  · intro asset
    refine ⟨Selector.remaining_allButOriginal asset.renditions, ?_⟩
    intro reference hreference
    exact Asset.spellsOriginal_of_original? hreference

end ContentBatch
