import ContentBatch.Pattern.Reader

/-!
# Reading a pattern that goes on

A pattern for paths is put into a group, so that when it has been read, the text goes on
with a closing parenthesis and a dollar sign.  What is read from the pattern alone is
read from it there: no token reaches beyond its own characters.  The one exception is a
comment at the very end of a verbose pattern, which swallows whatever is on its line.

What cannot be read from the pattern alone may be read there, if it takes from what
follows.  Escapes do so in two places: a backslash at the end takes the parenthesis for
an escaped character, and after a word boundary an opening brace at the end is taken for
a character of its own, which it is not.  Codes and names in braces have ends of their
own, which what follows does not contain.

`Continued` relates a text to the text with what follows, and admits the exception.
`Seam` compares the reading of both: what is read is the same and leaves less of the
text, and what is read only with what follows is of a given kind.  It has one rule for
each way in which readers are put together.

## Main results

* `spanSignificant_continued`: the blanks, comments and characters that are passed over
  are the same.
* `Escape.read_seam`: how escapes are read at the end of a pattern.
-/

namespace ContentBatch.Pattern

/-! ## Texts that go on -/

/-- What follows a pattern in its group. -/
def closing : List Char := [')', '$']

/-- A text, and what is left of it if the pattern goes on.  At the end of a pattern this
is what follows, or nothing if a comment has swallowed it. -/
inductive Continued : List Char → List Char → Prop where
  | followed (text : List Char) : Continued text (text ++ closing)
  | swallowed : Continued [] []

namespace Continued

variable {c : Char} {text text' rest rest' : List Char}

theorem cons (h : Continued (c :: rest) text') :
    ∃ rest', text' = c :: rest' ∧ Continued rest rest' := by
  cases h
  exact ⟨rest ++ closing, rfl, .followed rest⟩

theorem nil (h : Continued [] text') : text' = closing ∨ text' = [] := by
  cases h
  · exact .inl rfl
  · exact .inr rfl

theorem length_le (h : Continued text text') : text.length ≤ text'.length := by
  cases h with
  | followed => exact List.length_append ▸ Nat.le_add_right _ _
  | swallowed => exact Nat.le_refl _

/-- A character at the start, if it is no parenthesis, is one of the pattern. -/
theorem uncons (h : Continued text (c :: rest)) (hc : c ≠ ')') :
    ∃ left, text = c :: left := by
  cases text with
  | nil =>
      rcases h.nil with hclosing | hnil
      · exact absurd (List.cons.inj hclosing).1 hc
      · cases hnil
  | cons d left =>
      obtain ⟨rest', heq, -⟩ := h.cons
      exact ⟨left, by rw [(List.cons.inj heq).1]⟩

/-- Two characters at the start, if the second is no parenthesis, are of the pattern. -/
theorem not_pair {first second : Char} (hsecond : second ≠ ')')
    (h : Continued rest rest') (hpair : ∀ tail, ¬c :: rest = first :: second :: tail) :
    ∀ tail, ¬c :: rest' = first :: second :: tail := by
  intro tail heq
  obtain ⟨rfl, rfl⟩ := List.cons.inj heq
  obtain ⟨left, rfl⟩ := h.uncons hsecond
  exact hpair left rfl

end Continued

variable {α β : Type}

/-- What is read from a text is also read if the text goes on, and at most `bound`
characters are left. -/
def Agrees (bound : Nat) (reading reading' : Except Fault (α × List Char)) : Prop :=
  ∀ value rest, reading = .ok (value, rest) →
    rest.length ≤ bound ∧ ∃ rest', reading' = .ok (value, rest') ∧ Continued rest rest'

/-- What cannot be read from a text, but is read if the text goes on, is allowed. -/
def Overruns (allowed : α → List Char → Prop)
    (reading reading' : Except Fault (α × List Char)) : Prop :=
  ∀ fault value rest', reading = .error fault → reading' = .ok (value, rest') →
    allowed value rest'

/-- What is read from a text is read in the same way if the text goes on, and only what
is allowed is read otherwise. -/
structure Seam (allowed : α → List Char → Prop) (bound : Nat)
    (reading reading' : Except Fault (α × List Char)) : Prop where
  agrees : Agrees bound reading reading'
  overruns : Overruns allowed reading reading'

/-- What is read from a text is read in the same way if the text goes on, and nothing is
read otherwise. -/
abbrev Sealed (bound : Nat) (reading reading' : Except Fault (α × List Char)) : Prop :=
  Seam (fun _ _ => False) bound reading reading'

namespace Seam

variable {allowed : α → List Char → Prop} {bound bound' : Nat}
  {reading reading' : Except Fault (α × List Char)}

theorem error (fault fault' : Fault) :
    Seam allowed bound (.error fault) (.error fault') where
  agrees := by rintro value rest ⟨⟩
  overruns := by rintro _ value rest' _ ⟨⟩

theorem ok {rest rest' : List Char} (value : α) (hlength : rest.length ≤ bound)
    (h : Continued rest rest') :
    Seam allowed bound (.ok (value, rest)) (.ok (value, rest')) where
  agrees := by
    rintro _ _ ⟨⟩
    exact ⟨hlength, rest', rfl, h⟩
  overruns := by rintro _ _ _ ⟨⟩

theorem allow {value : α} {rest' : List Char} (fault : Fault)
    (h : allowed value rest') :
    Seam allowed bound (.error fault) (.ok (value, rest')) where
  agrees := by rintro _ _ ⟨⟩
  overruns := by
    rintro _ _ _ _ ⟨⟩
    exact h

theorem mono (hbound : bound ≤ bound') (h : Seam allowed bound reading reading') :
    Seam allowed bound' reading reading' where
  agrees := by
    intro value rest hok
    obtain ⟨hlength, hcontinued⟩ := h.agrees value rest hok
    exact ⟨Nat.le_trans hlength hbound, hcontinued⟩
  overruns := h.overruns

theorem of_sealed (h : Sealed bound reading reading') :
    Seam allowed bound reading reading' where
  agrees := h.agrees
  overruns :=
    fun fault value rest' herror hok => (h.overruns fault value rest' herror hok).elim

/-- What was read first is the same, or of the kind that is allowed there.  Then the
rest starts from there. -/
theorem bind {between : β → List Char → Prop} {middle : Nat}
    {first first' : Except Fault (β × List Char)}
    {next next' : β × List Char → Except Fault (α × List Char)}
    (hfirst : Seam between middle first first')
    (hbeyond : ∀ value rest', between value rest' →
      ∀ result last, next' (value, rest') = .ok (result, last) → allowed result last)
    (hnext : ∀ value rest rest', rest.length ≤ middle → Continued rest rest' →
      Seam allowed bound (next (value, rest)) (next' (value, rest'))) :
    Seam allowed bound (first >>= next) (first' >>= next') := by
  rcases first with fault | ⟨value, rest⟩
  · rcases first' with fault' | ⟨value, rest'⟩
    · exact .error fault fault'
    · have hbetween := hfirst.overruns fault value rest' rfl rfl
      refine ⟨by rintro _ _ ⟨⟩, ?_⟩
      intro _ result last _ hok
      exact hbeyond value rest' hbetween result last hok
  · obtain ⟨hlength, rest', rfl, hrest⟩ := hfirst.agrees value rest rfl
    exact hnext value rest rest' hlength hrest

/-- If nothing is read beyond the end first, the rest starts where it started. -/
theorem bind_sealed {middle : Nat} {first first' : Except Fault (β × List Char)}
    {next next' : β × List Char → Except Fault (α × List Char)}
    (hfirst : Sealed middle first first')
    (hnext : ∀ value rest rest', rest.length ≤ middle → Continued rest rest' →
      Seam allowed bound (next (value, rest)) (next' (value, rest'))) :
    Seam allowed bound (first >>= next) (first' >>= next') :=
  bind hfirst (fun _ _ => False.elim) hnext

/-- What does not depend on the text is the same. -/
theorem bind_const {value : Except Fault β}
    {next next' : β → Except Fault (α × List Char)}
    (hnext : ∀ result, Seam allowed bound (next result) (next' result)) :
    Seam allowed bound (value >>= next) (value >>= next') := by
  rcases value with fault | value
  · exact .error fault fault
  · exact hnext value

theorem ite {condition : Prop} [Decidable condition]
    {first second first' second' : Except Fault (α × List Char)}
    (hfirst : Seam allowed bound first first')
    (hsecond : Seam allowed bound second second') :
    Seam allowed bound (if condition then first else second)
      (if condition then first' else second') := by
  by_cases h : condition
  · rw [if_pos h, if_pos h]
    exact hfirst
  · rw [if_neg h, if_neg h]
    exact hsecond

end Seam

/-! ## Blanks and comments -/

section Scan

variable {verbose : Bool} {keep : Char → Bool} {c : Char}
  {text text' rest rest' kept taken : List Char}

/-- A span that stops before a parenthesis is the same if the text goes on. -/
theorem spanSignificant_continued (hkeep : keep ')' = false) (comment : Bool)
    (h : Continued text text') :
    (spanSignificant verbose keep comment text').1 =
      (spanSignificant verbose keep comment text).1 ∧
      Continued (spanSignificant verbose keep comment text).2
        (spanSignificant verbose keep comment text').2 := by
  cases h with
  | swallowed => exact ⟨rfl, .swallowed⟩
  | followed =>
      fun_induction spanSignificant verbose keep comment text with
      | case1 comment =>
          cases comment with
          | true => exact ⟨rfl, .swallowed⟩
          | false =>
              have hstops : spanSignificant verbose keep false closing =
                  ([], closing) := by
                have hblank : Text.isBlank ')' = false := by decide
                simp [closing, spanSignificant, hblank, hkeep]
              rw [List.nil_append, hstops]
              exact ⟨rfl, .followed []⟩
      | case2 c rest ih => exact ih
      | case3 c rest hblank ih =>
          rw [List.cons_append, spanSignificant, if_pos hblank]
          exact ih
      | case4 c rest hblank hsign ih =>
          rw [List.cons_append, spanSignificant, if_neg hblank, if_pos hsign]
          exact ih
      | case5 c rest hblank hsign hkept kept left hleft ih =>
          rw [List.cons_append, spanSignificant, if_neg hblank,
            if_neg hsign, if_pos hkept]
          rw [hleft] at ih
          exact ⟨congrArg (c :: ·) ih.1, ih.2⟩
      | case6 c rest hblank hsign hkept =>
          rw [List.cons_append, spanSignificant, if_neg hblank,
            if_neg hsign, if_neg hkept]
          exact ⟨rfl, .followed _⟩

/-- A span that stops within the text does not depend on what follows. -/
theorem spanSignificant_stops (comment : Bool)
    (hspan : spanSignificant verbose keep comment text = (kept, c :: rest))
    (h : Continued text text') :
    ∃ rest', spanSignificant verbose keep comment text' = (kept, c :: rest') ∧
      Continued rest rest' := by
  cases h with
  | swallowed => cases hspan
  | followed =>
      fun_induction spanSignificant verbose keep comment text generalizing kept with
      | case1 comment => cases hspan
      | case2 c rest ih => exact ih hspan
      | case3 c rest hblank ih =>
          rw [List.cons_append, spanSignificant, if_pos hblank]
          exact ih hspan
      | case4 c rest hblank hsign ih =>
          rw [List.cons_append, spanSignificant, if_neg hblank, if_pos hsign]
          exact ih hspan
      | case5 c rest hblank hsign hkept kept left hleft ih =>
          obtain ⟨rfl, rfl⟩ := Prod.mk.inj hspan
          obtain ⟨rest', hrest', hcontinued⟩ := ih hleft
          rw [List.cons_append, spanSignificant, if_neg hblank, if_neg hsign,
            if_pos hkept, hrest']
          exact ⟨rest', rfl, hcontinued⟩
      | case6 c rest hblank hsign hkept =>
          cases hspan
          rw [List.cons_append, spanSignificant, if_neg hblank,
            if_neg hsign, if_neg hkept]
          exact ⟨_, rfl, .followed _⟩

/-- A span that takes all of a text takes what follows too, if that has nothing to stop
it. -/
theorem spanSignificant_all (hkeep : ∀ c ∈ closing, keep c = true) (comment : Bool)
    (hall : (spanSignificant verbose keep comment text).2 = [])
    (h : Continued text text') :
    (spanSignificant verbose keep comment text').2 = [] := by
  cases h with
  | swallowed => exact hall
  | followed =>
      fun_induction spanSignificant verbose keep comment text with
      | case1 comment =>
          have hparenthesis := hkeep ')' (by decide)
          have hdollar := hkeep '$' (by decide)
          have hblank : Text.isBlank ')' = false ∧ Text.isBlank '$' = false := by decide
          cases comment <;> simp [closing, spanSignificant, hblank,
            hparenthesis, hdollar]
      | case2 c rest ih => exact ih hall
      | case3 c rest hblank ih =>
          rw [List.cons_append, spanSignificant, if_pos hblank]
          exact ih hall
      | case4 c rest hblank hsign ih =>
          rw [List.cons_append, spanSignificant, if_neg hblank, if_pos hsign]
          exact ih hall
      | case5 c rest hblank hsign hkept kept left hleft ih =>
          rw [List.cons_append, spanSignificant, if_neg hblank,
            if_neg hsign, if_pos hkept]
          rw [hleft] at ih
          exact ih hall
      | case6 c rest hblank hsign hkept => cases hall

theorem spanSignificant_length (comment : Bool) (text : List Char) :
    (spanSignificant verbose keep comment text).2.length ≤ text.length := by
  fun_induction spanSignificant verbose keep comment text with
  | case1 => exact Nat.le_refl _
  | case2 c rest ih => exact Nat.le_succ_of_le ih
  | case3 c rest _ ih => exact Nat.le_succ_of_le ih
  | case4 c rest _ _ ih => exact Nat.le_succ_of_le ih
  | case5 c rest _ _ _ kept left hleft ih =>
      rw [hleft] at ih
      exact Nat.le_succ_of_le ih
  | case6 c rest _ _ _ => exact Nat.le_refl _

theorem skip_continued (verbose : Bool) (h : Continued text text') :
    Continued (skip verbose text) (skip verbose text') :=
  (spanSignificant_continued rfl false h).2

theorem skip_closing (verbose : Bool) : skip verbose closing = closing := by
  cases verbose <;> decide

theorem skip_dollar (verbose : Bool) : skip verbose ['$'] = ['$'] := by
  cases verbose <;> decide

theorem skip_length (verbose : Bool) (text : List Char) :
    (skip verbose text).length ≤ text.length :=
  spanSignificant_length false text

/-- Of the blank-free part of a text the next characters are the same if the text goes
on. -/
theorem takeSignificant_continued (count : Nat)
    (htaken : takeSignificant verbose count text = some (taken, rest))
    (h : Continued text text') :
    rest.length + count ≤ text.length ∧
      ∃ rest', takeSignificant verbose count text' = some (taken, rest') ∧
        Continued rest rest' := by
  induction count generalizing text text' taken with
  | zero =>
      obtain ⟨rfl, rfl⟩ := Prod.mk.inj (Option.some.inj htaken)
      exact ⟨skip_length verbose text, _, rfl, skip_continued verbose h⟩
  | succ count ih =>
      have hskip := skip_continued verbose h
      have hlength := skip_length verbose text
      rw [takeSignificant] at htaken ⊢
      rcases hleft : skip verbose text with _ | ⟨c, left⟩
      · rw [hleft] at htaken
        cases htaken
      · rw [hleft] at htaken hskip hlength
        obtain ⟨left', hleft', hcontinued⟩ := hskip.cons
        obtain ⟨⟨taken, rest⟩, hmore, heq⟩ := Option.map_eq_some_iff.1 htaken
        obtain ⟨rfl, rfl⟩ := Prod.mk.inj heq
        obtain ⟨hshorter, rest', hmore', hrest⟩ := ih hmore hcontinued
        rw [hleft']
        refine ⟨?_, rest', ?_, hrest⟩
        · rw [List.length_cons] at hlength
          omega
        · show (takeSignificant verbose count left').map _ = _
          rw [hmore']
          rfl

/-- If there are too few characters in a text, the parenthesis after it is taken. -/
theorem takeSignificant_overrun (count : Nat)
    (hnone : takeSignificant verbose count text = none)
    (htaken : takeSignificant verbose count text' = some (taken, rest'))
    (h : Continued text text') :
    ')' ∈ taken := by
  induction count generalizing text text' taken with
  | zero => cases hnone
  | succ count ih =>
      have hskip := skip_continued verbose h
      rw [takeSignificant] at hnone htaken
      generalize skip verbose text = left at hskip hnone
      generalize skip verbose text' = left' at hskip htaken
      rcases left with _ | ⟨c, rest⟩
      · rcases hskip.nil with rfl | rfl
        · obtain ⟨⟨more, last⟩, -, heq⟩ := Option.map_eq_some_iff.1 htaken
          cases heq
          exact List.mem_cons_self
        · cases htaken
      · obtain ⟨rest', rfl, hrest⟩ := hskip.cons
        obtain ⟨⟨more, last⟩, hmore, heq⟩ := Option.map_eq_some_iff.1 htaken
        cases heq
        exact List.mem_cons_of_mem c (ih (Option.map_eq_none_iff.1 hnone) hmore hrest)

theorem untilBrace_continued {inside : List Char}
    (hinside : untilBrace verbose text = some (inside, rest))
    (h : Continued text text') :
    rest.length < text.length ∧
      ∃ rest', untilBrace verbose text' = some (inside, rest') ∧
        Continued rest rest' := by
  have hlength :
      (spanSignificant verbose (· != '\x7d') false text).2.length ≤ text.length :=
    spanSignificant_length false text
  unfold untilBrace at hinside ⊢
  rcases hspan : spanSignificant verbose (· != '\x7d') false text with
      ⟨kept, _ | ⟨c, left⟩⟩
  · rw [hspan] at hinside
    cases hinside
  · rw [hspan] at hinside hlength
    obtain ⟨rfl, rfl⟩ := Prod.mk.inj (Option.some.inj hinside)
    obtain ⟨rest', hspan', hrest⟩ := spanSignificant_stops false hspan h
    rw [hspan']
    exact ⟨hlength, rest', rfl, hrest⟩

/-- What follows does not hold the brace that is looked for. -/
theorem untilBrace_eq_none (hnone : untilBrace verbose text = none)
    (h : Continued text text') :
    untilBrace verbose text' = none := by
  unfold untilBrace at hnone ⊢
  rcases hspan : spanSignificant verbose (· != '\x7d') false text with
      ⟨inside, _ | ⟨c, rest⟩⟩
  · have hkeep : ∀ c ∈ closing, (c != '\x7d') = true := by simp [closing]
    have hall := spanSignificant_all hkeep false (congrArg Prod.snd hspan) h
    generalize spanSignificant verbose (· != '\x7d') false text' = span at hall
    obtain ⟨inside', rest'⟩ := span
    cases hall
    rfl
  · rw [hspan] at hnone
    cases hnone

end Scan

/-! ## Escapes -/

namespace Escape

variable {text text' : List Char}

theorem readCode_seam (verbose : Bool) (count : Nat) (h : Continued text text') :
    Sealed text.length (readCode verbose count text)
      (readCode verbose count text') := by
  have hskip := skip_continued verbose h
  have hlength := skip_length verbose text
  unfold readCode
  generalize skip verbose text = left at hskip hlength
  generalize skip verbose text' = left' at hskip
  by_cases hbrace : ∃ rest, left = '\x7b' :: rest
  · obtain ⟨rest, rfl⟩ := hbrace
    obtain ⟨rest', rfl, hrest⟩ := hskip.cons
    rw [List.length_cons] at hlength
    simp only
    rcases huntil : untilBrace verbose rest with _ | ⟨digits, left⟩
    · rw [untilBrace_eq_none huntil hrest]
      exact .error _ _
    · obtain ⟨hshorter, left', huntil', hleft⟩ := untilBrace_continued huntil hrest
      rw [huntil']
      refine .ite (.error _ _) ?_
      cases characterOf? digits with
      | none => exact .error _ _
      | some c =>
          have hskipped := skip_length verbose left
          exact .ok _ (by omega) (skip_continued verbose hleft)
  · have hbrace' : ∀ rest', left' ≠ '\x7b' :: rest' := by
      rintro rest' rfl
      obtain ⟨rest, rfl⟩ := hskip.uncons (by decide)
      exact hbrace ⟨rest, rfl⟩
    rw [not_exists] at hbrace
    simp only
    rcases htaken : takeSignificant verbose count left with _ | ⟨digits, rest⟩
    · -- with the parenthesis among them, the characters are no digits
      rcases htaken' : takeSignificant verbose count left' with _ | ⟨digits, rest'⟩
      · exact .error _ _
      · have hdigits : ¬digits.all (Number.isDigitOf 16) = true := by
          rw [List.all_eq_true]
          intro hall
          exact absurd (hall ')' (takeSignificant_overrun count htaken htaken' hskip))
            (by decide)
        simp only [Bool.not_eq_true] at hdigits
        simp only [hdigits]
        exact .error _ _
    · obtain ⟨hshorter, rest', htaken', hrest⟩ :=
        takeSignificant_continued count htaken hskip
      rw [htaken']
      refine .ite (.error _ _) ?_
      cases characterOf? digits with
      | none => exact .error _ _
      | some c => exact .ok _ (by omega) hrest

/-- The escapes that are read beyond the end of a pattern, with what is left after them:
the parenthesis, also as the name of a property, and a word boundary before a brace at
the end. -/
inductive Beyond (verbose : Bool) : Escape → List Char → Prop where
  | parenthesis : Beyond verbose (.character ')' false) ['$']
  | property {negated : Bool} : Beyond verbose (.property (.letter ')') negated) ['$']
  | brace {rest : List Char} : Continued [] (skip verbose rest) →
      Beyond verbose (.edge .wordBoundary) ('\x7b' :: rest)

theorem readProperty_seam (verbose negated : Bool) (h : Continued text text') :
    Seam (Beyond verbose) text.length (readProperty verbose negated text)
      (readProperty verbose negated text') := by
  have hskip := skip_continued verbose h
  have hlength := skip_length verbose text
  unfold readProperty
  generalize skip verbose text = left at hskip hlength
  generalize skip verbose text' = left' at hskip
  rcases left with _ | ⟨c, rest⟩
  · rcases hskip.nil with rfl | rfl
    · show Seam _ _ _ (.ok (Escape.property (.letter ')') negated, skip verbose ['$']))
      rw [skip_dollar]
      exact .allow _ .property
    · exact .error _ _
  · obtain ⟨rest', rfl, hrest⟩ := hskip.cons
    rw [List.length_cons] at hlength
    by_cases hbrace : c = '\x7b'
    · subst hbrace
      simp only
      rcases huntil : untilBrace verbose rest with _ | ⟨inside, left⟩
      · rw [untilBrace_eq_none huntil hrest]
        exact .error _ _
      · obtain ⟨hshorter, left', huntil', hleft⟩ := untilBrace_continued huntil hrest
        rw [huntil']
        exact .ok _ (by omega) hleft
    by_cases hbackslash : c = '\\'
    · subst hbackslash
      exact .error _ _
    have hskipped := skip_length verbose rest
    simp only
    exact .ok _ (by omega) (skip_continued verbose hrest)

/-- A boundary may end where the text ends, and what follows is no name of a
boundary. -/
theorem readBoundary_seam (verbose : Bool) (h : Continued text text') :
    Seam (Beyond verbose) text.length (readBoundary verbose text)
      (readBoundary verbose text') := by
  rcases text with _ | ⟨c, rest⟩
  · rcases h.nil with rfl | rfl
    · exact .ok _ (Nat.le_refl _) (.followed [])
    · exact .ok _ (Nat.le_refl _) .swallowed
  obtain ⟨rest', rfl, hrest⟩ := h.cons
  by_cases hbrace : c = '\x7b'
  · subst hbrace
    have hskip := skip_continued verbose hrest
    unfold readBoundary
    simp only
    generalize hleft : skip verbose rest = left at hskip
    generalize hleft' : skip verbose rest' = left' at hskip
    rcases left with _ | ⟨c, left⟩
    · rcases hskip.nil with rfl | rfl
      · -- the parenthesis is no letter, so the brace is left for the next token
        refine .allow _ (.brace ?_)
        rw [hleft']
        exact .followed []
      · exact .error _ _
    · obtain ⟨left', rfl, -⟩ := hskip.cons
      refine .ite (.ok _ (Nat.le_refl _) h) ?_
      have hlength :
          (spanSignificant verbose isEdgeLetter false rest).2.length ≤ rest.length :=
        spanSignificant_length false rest
      rcases hspan : spanSignificant verbose isEdgeLetter false rest with
          ⟨name, _ | ⟨d, after⟩⟩
      · have hafter : _ ∧ Continued (spanSignificant verbose isEdgeLetter false rest).2
            (spanSignificant verbose isEdgeLetter false rest').2 :=
          spanSignificant_continued (by decide) false hrest
        rw [hspan] at hafter
        generalize spanSignificant verbose isEdgeLetter false rest' = span' at hafter
        obtain ⟨name', after'⟩ := span'
        rcases hafter.2.nil with hclosing | hnil
        · cases hclosing
          exact .error _ _
        · cases hnil
          exact .error _ _
      · obtain ⟨after', hspan', hafter⟩ := spanSignificant_stops false hspan hrest
        rw [hspan, List.length_cons] at hlength
        rw [hspan']
        by_cases hclosing : d = '\x7d'
        · subst hclosing
          simp only
          cases edgeOf? (String.ofList name) with
          | none => exact .error _ _
          | some found =>
              rw [List.length_cons]
              exact .ok _ (by omega) hafter
        · simp only [Prod.mk.injEq, List.cons.injEq, hclosing, false_and,
            and_false, imp_self, implies_true]
          exact .error _ _
  · unfold readBoundary
    simp only [List.cons.injEq, hbrace, false_and, imp_self, implies_true]
    exact .ok _ (Nat.le_refl _) h

/-- An escape is read as before, and takes a character at least. -/
theorem read_seam (verbose : Bool) (h : Continued text text') :
    Seam (Beyond verbose) (text.length - 1) (read verbose text)
      (read verbose text') := by
  fun_cases read verbose text
  case case1 =>
    rcases h.nil with rfl | rfl
    · exact .allow _ .parenthesis
    · exact .error _ _
  all_goals
    obtain ⟨rest', rfl, hrest⟩ := h.cons
    rw [List.length_cons, Nat.add_sub_cancel]
  case case2 rest => exact .of_sealed (readCode_seam verbose _ hrest)
  case case3 rest => exact .of_sealed (readCode_seam verbose _ hrest)
  case case4 rest => exact .of_sealed (readCode_seam verbose _ hrest)
  case case5 rest => exact readProperty_seam verbose false hrest
  case case6 rest => exact readProperty_seam verbose true hrest
  case case15 rest => exact readBoundary_seam verbose hrest
  case case19 special hletter =>
    unfold read
    simp only [hletter]
    exact .ok _ (Nat.le_refl _) hrest
  case case20 hletter hitself =>
    unfold read
    simp only [hletter, if_pos hitself]
    exact .ok _ (Nat.le_refl _) hrest
  case case21 hletter hitself =>
    unfold read
    simp only [hletter, if_neg hitself]
    exact .error _ _
  all_goals exact .ok _ (Nat.le_refl _) hrest

end Escape

end ContentBatch.Pattern
