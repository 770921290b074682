import ContentBatch.Text.Lowercase
import Mathlib.Data.List.Forall2

/-!
# Small forms are small

The small form of a small form is the form itself.  So a character may be replaced by
its small form, which can be two characters, wherever it stands: the small form of the
text stays the same, although the characters behind it move.

This holds because no run of the table leads to a code point that a run holds.
`settled` checks it run by run and not for each capital: the code points of a run are
again a run after the shift, and two runs of the table without a common code point are
either one behind the other or interleaved.

The other direction starts from a small form and asks which texts have it.  Only one
character has a small form of two, and the second of them is a combining dot; a small
form without that dot belongs to texts of the same length, which have it character by
character.  Behind most ASCII letters the table has nothing but the capital, so names
made of these letters are spelled in ASCII only.

## Main results

* `shifted_shifted`, `settled_lowercaseRuns`: small forms are not shifted again.
* `lowercaseChars_loweredAt`: small forms in place of characters do not change the small
  form of the text.
* `flatMap_lowercase_eq_iff`: the texts with a small form that has no combining dot.
* `Plain.equalIgnoringCase_iff`: the texts that are equal, ignoring case, to a name of
  plain letters.
-/

namespace ContentBatch.Text

/-! ## Runs without a common code point -/

namespace CodeRun

variable {a b : CodeRun} {code : Nat}

/-- Whether all code points of the run are seen to be even, or to be odd, as the first
one is. -/
def alternates (run : CodeRun) : Bool :=
  run.stride == 2 || run.first == run.last

/-- Whether one run ends before the other one begins, or one holds even code points and
the other odd ones.  The comparisons are by `Nat.blt`, which the kernel evaluates in one
step: a table has many pairs of runs. -/
def apart (a b : CodeRun) : Bool :=
  a.last.blt b.first || b.last.blt a.first ||
    (a.alternates && b.alternates && a.first % 2 != b.first % 2)

theorem mod_two_of_alternates (halternates : a.alternates = true)
    (hcovers : a.covers code = true) :
    code % 2 = a.first % 2 := by
  obtain ⟨hfirst, hlast, hstride⟩ := (covers_iff a code).1 hcovers
  simp only [alternates, Bool.or_eq_true, beq_iff_eq] at halternates
  obtain htwo | hsingle := halternates
  · rw [htwo] at hstride
    omega
  · have hcode : code = a.first := by omega
    rw [hcode]

theorem not_covers_of_apart (hapart : a.apart b = true)
    (hcovers : a.covers code = true) :
    b.covers code = false := by
  by_contra hother
  rw [Bool.not_eq_false] at hother
  obtain ⟨hfirst, hlast, _⟩ := (covers_iff a code).1 hcovers
  obtain ⟨hotherFirst, hotherLast, _⟩ := (covers_iff b code).1 hother
  simp only [apart, Bool.or_eq_true, Bool.and_eq_true, Nat.blt_eq, bne_iff_ne] at hapart
  obtain (hbefore | hbehind) | ⟨⟨ha, hb⟩, hparity⟩ := hapart
  · omega
  · omega
  · have hcode := mod_two_of_alternates ha hcovers
    have hcode' := mod_two_of_alternates hb hother
    omega

end CodeRun

/-! ## Tables that lead out of themselves -/

namespace CaseRun

variable {run : CaseRun} {code : Nat}

/-- Where the run takes its code points, again as a run. -/
def imageRun (run : CaseRun) : CodeRun :=
  ⟨run.image run.span.first, run.image run.span.last, run.span.stride⟩

/-- A run that moves its first code point to a code point moves all of them evenly. -/
theorem image_eq (hfirst : 0 ≤ run.span.first + run.shift)
    (hcode : run.span.first ≤ code) :
    run.image code = run.image run.span.first + (code - run.span.first) := by
  unfold image
  omega

theorem covers_imageRun (hfirst : 0 ≤ run.span.first + run.shift)
    (hcovers : run.span.covers code = true) :
    run.imageRun.covers (run.image code) = true := by
  obtain ⟨hlow, hhigh, hstride⟩ := (CodeRun.covers_iff run.span code).1 hcovers
  have hcode := image_eq hfirst hlow
  have hlast := image_eq hfirst (Nat.le_trans hlow hhigh)
  rw [CodeRun.covers_iff]
  refine ⟨?_, ?_, ?_⟩
  · show run.image run.span.first ≤ run.image code
    omega
  · show run.image code ≤ run.image run.span.last
    omega
  · show (run.image code - run.image run.span.first) % run.span.stride = 0
    rw [hcode, Nat.add_sub_cancel_left, hstride]

/-- The way back from where a run has taken a code point, unless that is zero. -/
theorem preimage?_image (hcovers : run.span.covers code = true)
    (hpos : 0 < run.image code) :
    run.preimage? (run.image code) = some code := by
  have horigin : (((run.image code : Nat) : Int) - run.shift).toNat = code := by
    unfold image at hpos ⊢
    omega
  unfold preimage?
  simp [horigin, hcovers]

end CaseRun

/-- Whether no run of the table is seen to lead to a code point that a run holds. -/
def settled (runs : List CaseRun) : Bool :=
  runs.all fun run =>
    0 ≤ run.span.first + run.shift && runs.all fun other =>
      run.imageRun.apart other.span

variable {runs : List CaseRun} {code : Nat}

/-- What a run of the table does to a code point, and a code point that no run holds. -/
theorem shifted_cases (runs : List CaseRun) (code : Nat) :
    (∃ run ∈ runs, run.span.covers code = true ∧ shifted runs code = run.image code) ∨
      (∀ run ∈ runs, run.span.covers code = false) ∧ shifted runs code = code := by
  unfold shifted
  split
  · rename_i run hfind
    have hcovers := List.find?_some hfind
    exact .inl ⟨run, List.mem_of_find?_eq_some hfind, hcovers, rfl⟩
  · rename_i hfind
    refine .inr ⟨?_, rfl⟩
    intro run hrun
    simpa using List.find?_eq_none.1 hfind run hrun

theorem shifted_of_not_covers (h : ∀ run ∈ runs, run.span.covers code = false) :
    shifted runs code = code := by
  obtain ⟨run, hrun, hcovers, _⟩ | ⟨_, hshifted⟩ := shifted_cases runs code
  · rw [h run hrun] at hcovers
    cases hcovers
  · exact hshifted

/-- In a settled table nothing is shifted twice. -/
theorem shifted_shifted (h : settled runs = true) (code : Nat) :
    shifted runs (shifted runs code) = shifted runs code := by
  obtain ⟨run, hrun, hcovers, hshifted⟩ | ⟨_, hshifted⟩ := shifted_cases runs code
  · rw [hshifted]
    refine shifted_of_not_covers ?_
    intro other hother
    simp only [settled, List.all_eq_true, Bool.and_eq_true, decide_eq_true_eq] at h
    obtain ⟨hfirst, haparts⟩ := h run hrun
    exact CodeRun.not_covers_of_apart (haparts other hother)
      (CaseRun.covers_imageRun hfirst hcovers)
  · rw [hshifted, hshifted]

/-- A code point is found behind where it was shifted to, unless that is zero. -/
theorem eq_or_mem_preimages {image : Nat} (h : shifted runs code = image)
    (hpos : 0 < image) :
    code = image ∨ code ∈ preimages runs image := by
  obtain ⟨run, hrun, hcovers, hshifted⟩ | ⟨_, hshifted⟩ := shifted_cases runs code
  · have himage : run.image code = image := by rw [← hshifted, h]
    rw [← himage] at hpos ⊢
    exact .inr (List.mem_filterMap.2 ⟨run, hrun, CaseRun.preimage?_image hcovers hpos⟩)
  · exact .inl (hshifted.symm.trans h)

theorem settled_lowercaseRuns : settled lowercaseRuns = true := by
  decide +kernel

/-! ## Small forms of characters -/

variable {c d : Char} {text : List Char}

theorem lowercase_of_ne (h : c ≠ '\u0130') :
    lowercase c = [Char.ofNat (shifted lowercaseRuns c.toNat)] :=
  if_neg h

/-- A number is the code of the character that it stands for, or stands for the one with
code zero. -/
theorem toNat_ofNat_or_eq_zero (code : Nat) :
    (Char.ofNat code).toNat = code ∨ (Char.ofNat code).toNat = 0 := by
  by_cases hvalid : code.isValidChar
  · have hchar : Char.ofNat code = Char.ofNatAux code hvalid := dif_pos hvalid
    rw [hchar]
    exact .inl rfl
  · have hchar : Char.ofNat code = Char.ofNat 0 := dif_neg hvalid
    rw [hchar]
    exact .inr rfl

/-- A character whose small form is `d` is found behind `d` in the table. -/
theorem eq_or_toNat_mem_preimages (h : lowercase c = [d]) (hd : 0 < d.toNat) :
    c = d ∨ c.toNat ∈ preimages lowercaseRuns d.toNat := by
  have hplain : c ≠ '\u0130' := by
    rintro rfl
    cases h
  rw [lowercase_of_ne hplain] at h
  obtain ⟨rfl, _⟩ := List.cons.inj h
  obtain hcode | hzero := toNat_ofNat_or_eq_zero (shifted lowercaseRuns c.toNat)
  · rw [hcode] at hd ⊢
    obtain hsame | hbehind := eq_or_mem_preimages rfl hd
    · rw [← hsame, Char.ofNat_toNat]
      exact .inl rfl
    · exact .inr hbehind
  · rw [hzero] at hd
    cases hd

/-- The capital I with a dot is not the small form of another character. -/
theorem lowercase_ne_dotted (h : c ≠ '\u0130') : lowercase c ≠ ['\u0130'] := by
  intro hlower
  obtain hsame | hbehind := eq_or_toNat_mem_preimages hlower (by decide)
  · exact h hsame
  · have hnone : preimages lowercaseRuns ('\u0130').toNat = [] := by decide +kernel
    rw [hnone] at hbehind
    cases hbehind

/-- Every character of a small form is its own small form. -/
theorem lowercase_of_mem_lowercase (h : d ∈ lowercase c) : lowercase d = [d] := by
  by_cases hdotted : c = '\u0130'
  · have hpair : lowercase c = ['i', '\u0307'] := if_pos hdotted
    rw [hpair, List.mem_pair] at h
    obtain rfl | rfl := h
    · decide +kernel
    · decide +kernel
  · have hform := lowercase_of_ne hdotted
    have hne := lowercase_ne_dotted hdotted
    rw [hform, List.mem_singleton] at h
    rw [hform, ← h] at hne
    have hplain : d ≠ '\u0130' := by
      rintro rfl
      exact hne rfl
    have hfixed : shifted lowercaseRuns d.toNat = d.toNat := by
      rw [h]
      obtain hcode | hzero := toNat_ofNat_or_eq_zero (shifted lowercaseRuns c.toNat)
      · rw [hcode]
        exact shifted_shifted settled_lowercaseRuns c.toNat
      · rw [hzero]
        decide +kernel
    rw [lowercase_of_ne hplain, hfixed, Char.ofNat_toNat]

/-- So the small form of a small form is the form itself. -/
theorem flatMap_lowercase_lowercase (c : Char) :
    (lowercase c).flatMap lowercase = lowercase c := by
  have hsame : (lowercase c).flatMap lowercase = (lowercase c).flatMap fun d => [d] :=
    List.flatMap_congr fun _ hd => lowercase_of_mem_lowercase hd
  rw [hsame, List.flatMap_singleton']

/-! ## Small forms of texts -/

/-- The text with the small form of the character at each chosen position in its
place. -/
def loweredAt (chosen : Nat → Bool) (text : String) : String :=
  String.ofList <| text.toList.zipIdx.flatMap fun place =>
    if chosen place.2 then lowercase place.1 else [place.1]

theorem flatMap_zipIdx (f : Char → List Char) (text : List Char) :
    (text.zipIdx.flatMap fun place => f place.1) = text.flatMap f := by
  rw [← List.flatMap_map Prod.fst f, List.zipIdx_map_fst]

/-- With all positions chosen, the text is in small letters. -/
theorem loweredAt_all (text : String) :
    loweredAt (fun _ => true) text = lowercaseText text := by
  have hall := flatMap_zipIdx lowercase text.toList
  exact congrArg String.ofList hall

/-- The small form of a text does not depend on which of its characters are small
already. -/
theorem lowercaseChars_loweredAt (chosen : Nat → Bool) (text : String) :
    lowercaseChars (loweredAt chosen text) = lowercaseChars text := by
  unfold loweredAt lowercaseChars
  rw [String.toList_ofList, List.flatMap_assoc, ← flatMap_zipIdx lowercase text.toList]
  refine List.flatMap_congr ?_
  intro place _
  by_cases hchosen : chosen place.2 = true
  · rw [if_pos hchosen, flatMap_lowercase_lowercase]
  · rw [if_neg hchosen, List.flatMap_singleton]

example : loweredAt (· == 1) "A\u0130B" = "Ai\u0307B" := by decide +kernel

/-- Equality ignoring case is blind to characters being replaced by their small forms,
on either side. -/
theorem equalIgnoringCase_loweredAt (chosen chosen' : Nat → Bool) (a b : String) :
    equalIgnoringCase (loweredAt chosen a) (loweredAt chosen' b) =
      equalIgnoringCase a b := by
  unfold equalIgnoringCase
  rw [lowercaseChars_loweredAt, lowercaseChars_loweredAt]

/-- A small form without a combining dot belongs to the texts that have it character by
character. -/
theorem flatMap_lowercase_eq_iff {text small : List Char} (h : '\u0307' ∉ small) :
    text.flatMap lowercase = small ↔
    List.Forall₂ (fun d c => lowercase c = [d]) small text := by
  induction text generalizing small with
  | nil => simp [eq_comm]
  | cons c text ih =>
      rw [List.flatMap_cons]
      by_cases hdotted : c = '\u0130'
      · -- the small form of this character is not a single one, and has the dot
        have hpair : lowercase c = ['i', '\u0307'] := if_pos hdotted
        rw [hpair]
        constructor
        · rintro rfl
          simp at h
        · intro hforall
          cases hforall with
          | cons hsingle _ =>
              rw [hpair] at hsingle
              cases hsingle
      · rw [lowercase_of_ne hdotted, List.singleton_append]
        cases small with
        | nil => simp
        | cons d small =>
            have hrest : '\u0307' ∉ small := fun hdot => h (List.mem_cons_of_mem d hdot)
            rw [List.forall₂_cons, ← ih hrest, lowercase_of_ne hdotted, List.cons.injEq,
              List.cons.injEq]
            simp

/-! ## Letters with a single capital -/

/-- A small letter that is the small form of no character but itself and its ASCII
capital. -/
structure Plain (letter : Char) : Prop where
  small : lowercase letter = [letter]
  capital : lowercase letter.toUpper = [letter]
  behind : preimages lowercaseRuns letter.toNat = [letter.toUpper.toNat]

theorem plain_iff (letter : Char) :
    Plain letter ↔ lowercase letter = [letter] ∧ lowercase letter.toUpper = [letter] ∧
      preimages lowercaseRuns letter.toNat = [letter.toUpper.toNat] :=
  ⟨fun h => ⟨h.small, h.capital, h.behind⟩,
    fun ⟨small, capital, behind⟩ => ⟨small, capital, behind⟩⟩

instance (letter : Char) : Decidable (Plain letter) :=
  decidable_of_iff' _ (plain_iff letter)

/-- Plainness of all letters of a list is evaluated letter by letter. -/
theorem plain_of_all {letters : List Char}
    (h : letters.all (fun letter => decide (Plain letter)) = true) :
    ∀ letter ∈ letters, Plain letter := by
  intro letter hletter
  exact of_decide_eq_true (List.all_eq_true.1 h letter hletter)

namespace Plain

variable {letter : Char} {letters : List Char}

theorem toNat_pos (h : Plain letter) : 0 < letter.toNat := by
  have hzero : preimages lowercaseRuns 0 = [] := by decide +kernel
  have hbehind := h.behind
  rw [Nat.pos_iff_ne_zero]
  intro hletter
  rw [hletter, hzero] at hbehind
  cases hbehind

theorem ne_dot (h : Plain letter) : letter ≠ '\u0307' := by
  have hdot : preimages lowercaseRuns ('\u0307').toNat = [] := by decide +kernel
  have hbehind := h.behind
  rintro rfl
  rw [hdot] at hbehind
  cases hbehind

theorem lowercase_eq_iff (h : Plain letter) :
    lowercase c = [letter] ↔ c = letter ∨ c = letter.toUpper := by
  constructor
  · intro hlower
    obtain hsame | hbehind := eq_or_toNat_mem_preimages hlower h.toNat_pos
    · exact .inl hsame
    · rw [h.behind, List.mem_singleton] at hbehind
      exact .inr (Char.toNat_inj.1 hbehind)
  · rintro (rfl | rfl)
    · exact h.small
    · exact h.capital

-- the sign for kelvin
example : ¬ Plain 'k' ∧ lowercase '\u212A' = ['k'] := by decide +kernel

/-- A text has plain letters as its small form if it has them in order, each of them
small or capital. -/
theorem flatMap_lowercase_eq_iff (h : ∀ letter ∈ letters, Plain letter) :
    text.flatMap lowercase = letters ↔
      List.Forall₂ (fun letter c => c = letter ∨ c = letter.toUpper) letters text := by
  have hdot : '\u0307' ∉ letters := fun hmem => (h _ hmem).ne_dot rfl
  rw [Text.flatMap_lowercase_eq_iff hdot]
  constructor
  · intro hforall
    have hplain := (List.forall₂_and_left _ _).2 ⟨h, hforall⟩
    exact hplain.imp fun _ _ hletter => hletter.1.lowercase_eq_iff.1 hletter.2
  · intro hforall
    have hplain := (List.forall₂_and_left _ _).2 ⟨h, hforall⟩
    exact hplain.imp fun _ _ hletter => hletter.1.lowercase_eq_iff.2 hletter.2

/-- A text is equal to a name of plain letters, ignoring case, if it has these letters
in order, each of them small or capital. -/
theorem equalIgnoringCase_iff {name : String} (h : ∀ letter ∈ name.toList, Plain letter)
    (text : String) :
    equalIgnoringCase text name = true ↔
      List.Forall₂ (fun letter c => c = letter ∨
        c = letter.toUpper) name.toList text.toList := by
  have hname : lowercaseChars name = name.toList := by
    have hsame := List.flatMap_congr fun letter hletter => (h letter hletter).small
    rw [lowercaseChars, hsame, List.flatMap_singleton']
  rw [Text.equalIgnoringCase_iff, hname]
  exact flatMap_lowercase_eq_iff h

end Plain

end ContentBatch.Text
