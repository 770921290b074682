import ContentBatch.Proofs.Pattern.Classes

/-!
# Tokens of a pattern that goes on

Counted repetitions, groups and changes of flags are read from a pattern as before if a
parenthesis and a dollar sign come after it.  Each of them ends with a mark of its own:
a brace, an angle bracket, a colon.  A pattern that is well formed contains that mark,
and it is looked for in order, so what comes after the pattern is not reached.

A token that cannot be read from the pattern alone is read with what follows in three
places only: an escape at the end takes the parenthesis, a word boundary leaves a brace,
and flags that are not ended are ended by the parenthesis.  So it is an atom or a change
of flags.

## Main results

* `readToken_seam`: a token is read as before, and takes a character at least; the
  tokens that are read beyond the end of a pattern.
* `readToken_close`: only a parenthesis ends a group.
-/

namespace ContentBatch.Pattern

variable {flags : Flags} {text text' : List Char}

/-! ## Repetitions -/

theorem dropWhile_continued {skipped : Char → Bool} (hskipped : skipped ')' = false)
    (h : Continued text text') :
    Continued (text.dropWhile skipped) (text'.dropWhile skipped) := by
  cases h with
  | swallowed => exact .swallowed
  | followed =>
      induction text with
      | nil =>
          unfold closing
          rw [List.nil_append, List.dropWhile_cons_of_neg (by rw [hskipped]; decide)]
          exact .followed []
      | cons c rest ih =>
          by_cases hc : skipped c = true
          · rw [List.cons_append, List.dropWhile_cons_of_pos hc,
              List.dropWhile_cons_of_pos hc]
            exact ih
          · rw [List.cons_append, List.dropWhile_cons_of_neg hc,
              List.dropWhile_cons_of_neg hc]
            exact .followed (c :: rest)

theorem dropLazyMark_length (text : List Char) :
    (dropLazyMark text).length ≤ text.length := by
  fun_cases dropLazyMark text
  · exact Nat.le_succ _
  · exact Nat.le_refl _

theorem dropLazyMark_continued (h : Continued text text') :
    Continued (dropLazyMark text) (dropLazyMark text') := by
  rcases text with _ | ⟨c, rest⟩
  · rcases h.nil with rfl | rfl
    · exact .followed []
    · exact .swallowed
  · have hsame := h
    obtain ⟨rest', rfl, hrest⟩ := h.cons
    by_cases hmark : c = '?'
    · subst hmark
      exact hrest
    · unfold dropLazyMark
      simp only [List.cons.injEq, hmark, false_and, imp_self, implies_true]
      exact hsame

theorem readCount_seam (verbose : Bool) (h : Continued text text') :
    Sealed text.length (readCount verbose text) (readCount verbose text') := by
  have hblank : Text.isBlank ')' = false := by decide
  have hspan :
      (spanSignificant verbose Char.isDigit false (text'.dropWhile Text.isBlank)).1 =
      (spanSignificant verbose Char.isDigit false (text.dropWhile Text.isBlank)).1 ∧
      _ :=
    spanSignificant_continued (by decide) false (dropWhile_continued hblank h)
  have hlength : (spanSignificant verbose Char.isDigit false
      (text.dropWhile Text.isBlank)).2.length ≤
      (text.dropWhile Text.isBlank).length := spanSignificant_length false _
  have hdropped : (text.dropWhile Text.isBlank).length ≤ text.length :=
    (List.dropWhile_suffix _).length_le
  unfold readCount
  generalize spanSignificant verbose Char.isDigit false (text.dropWhile Text.isBlank) =
    span
    at hspan hlength
  generalize spanSignificant verbose Char.isDigit false (text'.dropWhile Text.isBlank) =
    span' at hspan
  obtain ⟨digits, rest⟩ := span
  obtain ⟨digits', rest'⟩ := span'
  obtain ⟨rfl, hrest⟩ := hspan
  have hshorter : (rest.dropWhile Text.isBlank).length ≤ rest.length :=
    (List.dropWhile_suffix _).length_le
  exact .ite (.error _ _)
    (.ok _ (by simp only at hlength; omega) (dropWhile_continued hblank hrest))

/-- No number can be read from what follows a pattern. -/
theorem readCount_closing (verbose : Bool) (h : Continued [] text) :
    readCount verbose text = .error .badCount := by
  rcases h.nil with rfl | rfl
  · cases verbose <;> rfl
  · rfl

/-- A counted repetition is read to the question mark after its closing brace. -/
theorem readCounts_seam (verbose : Bool) (h : Continued text text') :
    Sealed text.length (readCounts verbose text) (readCounts verbose text') := by
  refine .bind_sealed (readCount_seam verbose (skip_continued verbose h)) ?_
  intro least rest rest' hlength hrest
  have hskipped := skip_length verbose text
  have hfinish (token : Token) {left left' : List Char}
      (hshorter : left.length ≤ text.length)
      (hleft : Continued left left') :
      Sealed text.length (.ok (token, dropLazyMark (skip verbose left)))
        (.ok (token, dropLazyMark (skip verbose left'))) :=
    .ok token
      (Nat.le_trans (dropLazyMark_length _)
        (Nat.le_trans (skip_length verbose left) hshorter))
      (dropLazyMark_continued (skip_continued verbose hleft))
  rcases rest with _ | ⟨c, rest⟩
  · rcases hrest.nil with rfl | rfl <;> exact .error _ _
  obtain ⟨rest', rfl, hafter⟩ := hrest.cons
  rw [List.length_cons] at hlength
  by_cases hbrace : c = '\x7d'
  · subst hbrace
    exact hfinish _ (by omega) hafter
  by_cases hcomma : c = ','
  · subst hcomma
    have hskip := skip_continued verbose hafter
    have hshorter := skip_length verbose rest
    simp only
    generalize skip verbose rest = left at hskip hshorter
    generalize skip verbose rest' = left' at hskip
    rcases left with _ | ⟨d, left⟩
    · -- no number can be read where the pattern ends
      rcases hskip.nil with rfl | rfl
      · show Sealed _ _ (readCount verbose closing >>= _)
        rw [readCount_closing verbose hskip]
        exact .error _ _
      · exact .error _ _
    obtain ⟨left', rfl, hleft⟩ := hskip.cons
    rw [List.length_cons] at hshorter
    by_cases hends : d = '\x7d'
    · subst hends
      exact hfinish _ (by omega) hleft
    · simp only [List.cons.injEq, hends, false_and, imp_self, implies_true]
      refine .bind_sealed (readCount_seam verbose hskip) ?_
      intro greatest last last' hless hlast
      rw [List.length_cons] at hless
      rcases last with _ | ⟨e, last⟩
      · rcases hlast.nil with rfl | rfl <;> exact .error _ _
      obtain ⟨last', rfl, hrest⟩ := hlast.cons
      by_cases hclosed : e = '\x7d'
      · subst hclosed
        rw [List.length_cons] at hless
        exact .ite (.error _ _) (hfinish _ (by omega) hrest)
      · simp only [Prod.mk.injEq, List.cons.injEq, hclosed, false_and, and_false,
          imp_self, implies_true]
        exact .error _ _
  · simp only [List.cons.injEq, hbrace, hcomma, false_and, imp_self, implies_true]
    exact .error _ _

/-! ## Groups and flags -/

/-- The name of a group ends with an angle bracket, which does not come after the
pattern. -/
theorem readNamedGroup_seam (h : Continued text text') :
    Sealed text.length (readNamedGroup text) (readNamedGroup text') := by
  cases h with
  | swallowed => exact .error _ _
  | followed =>
      unfold readNamedGroup
      simp only
      rw [List.takeWhile_append]
      by_cases hall : (text.takeWhile (· != '>')).length = text.length
      · have hclosing : closing.takeWhile (· != '>') = closing := by decide
        rw [if_pos hall, hclosing, hall, List.drop_length, List.drop_length]
        exact .error _ _
      · have hlt : (text.takeWhile (· != '>')).length < text.length :=
          Nat.lt_of_le_of_ne (List.takeWhile_prefix _).length_le hall
        rw [if_neg hall, List.drop_append_of_le_length (Nat.le_of_lt hlt)]
        have hlength :
            (text.drop (text.takeWhile (· != '>')).length).length ≤ text.length :=
          (List.drop_suffix _ _).length_le
        rw [List.drop_eq_getElem_cons hlt] at hlength ⊢
        exact .ite (.ok _ (Nat.le_of_succ_le hlength) (.followed _)) (.error _ _)

/-- Flags that are not ended are ended by the parenthesis. -/
theorem Flags.readChange_seam (dash : Flags.Dash) (changes : FlagChange)
    (h : Continued text text') :
    Seam (fun read rest' => read.2 = ')' ∧ rest' = ['$']) text.length
      (Flags.readChange dash changes text) (Flags.readChange dash changes text') := by
  induction text generalizing text' dash changes with
  | nil =>
      rcases h.nil with rfl | rfl
      · show Seam _ _ _ (if dash =
            .last then _ else .ok ((changes.reverse, ')'), ['$']))
        by_cases hlast : dash = .last
        · rw [if_pos hlast]
          exact .error _ _
        · rw [if_neg hlast]
          exact .allow _ ⟨rfl, rfl⟩
      · exact .error _ _
  | cons c rest ih =>
      obtain ⟨rest', rfl, hrest⟩ := h.cons
      unfold Flags.readChange
      refine .ite (.ite (.error _ _) (.ok _ (Nat.le_succ _) hrest)) ?_
      refine .ite (.ite ((ih _ _ hrest).mono (Nat.le_succ _)) (.error _ _)) ?_
      cases Flag.ofLetter? c with
      | none => exact .error _ _
      | some flag => exact .ite (.error _ _) ((ih _ _ hrest).mono (Nat.le_succ _))

/-- The tokens that are read beyond the end of a pattern, with what is left after them:
a change of flags, and atoms by escapes. -/
inductive Token.Beyond (verbose : Bool) : Token → List Char → Prop where
  | switch (change : FlagChange) : Token.Beyond verbose (.switch change) ['$']
  | parenthesis (regex : Nested WrittenRegex) : Token.Beyond verbose (.atom regex) ['$']
  | brace (regex : Nested WrittenRegex) {rest : List Char} :
      Continued [] (skip verbose rest) →
      Token.Beyond verbose (.atom regex) ('\x7b' :: rest)

/-- Whatever is made of a property that a parenthesis names, it is an atom. -/
theorem Token.Beyond.of_property {verbose : Bool} {atom : Except Fault WrittenRegex}
    {token : Token} {rest : List Char}
    (h : (atom >>= fun regex => atomOf regex ['$']) = .ok (token, rest)) :
    Token.Beyond verbose token rest := by
  cases atom with
  | error fault => cases h
  | ok regex =>
      cases h
      exact .parenthesis _

/-- A change of flags, with or without a group of its own, after its question mark. -/
def readFlags (text : List Char) : Except Fault (Token × List Char) := do
  let ((change, closing), rest) ← Flags.readChange .unread [] text
  if closing == ':' then return (.open change none, rest)
  else if change.isEmpty then .error .nothingToRepeat
  else return (.switch change, rest)

theorem readFlags_seam (verbose : Bool) (h : Continued text text') :
    Seam (Token.Beyond verbose) text.length (readFlags text) (readFlags text') := by
  refine .bind (Flags.readChange_seam .unread [] h) ?_ ?_
  · rintro ⟨change, last⟩ _ ⟨rfl, rfl⟩ token rest hok
    simp only at hok
    by_cases hempty : change.isEmpty = true
    · rw [if_neg (by decide), if_pos hempty] at hok
      cases hok
    · rw [if_neg (by decide), if_neg hempty] at hok
      cases hok
      exact .switch change
  · rintro ⟨change, last⟩ rest rest' hlength hrest
    exact .ite (.ok _ hlength hrest) (.ite (.error _ _) (.ok _ hlength hrest))

/-- What comes after an opening parenthesis and a question mark. -/
def readMarked : List Char → Except Fault (Token × List Char)
  | '=' :: _ => .error .lookAround
  | '!' :: _ => .error .lookAround
  | '<' :: '=' :: _ => .error .lookAround
  | '<' :: '!' :: _ => .error .lookAround
  | 'P' :: '<' :: rest => readNamedGroup rest
  | '<' :: rest => readNamedGroup rest
  | rest => readFlags rest

theorem readOpening_marked {rest : List Char}
    (h : skip flags.verbose text = '?' :: rest) :
    readOpening flags text = readMarked rest := by
  unfold readOpening
  rw [h]
  fun_cases readMarked rest
  case case6 => simp only
  case case7 =>
    simp only
    rfl
  all_goals rfl

theorem readMarked_seam (verbose : Bool) (h : Continued text text') :
    Seam (Token.Beyond verbose) text.length (readMarked text) (readMarked text') := by
  have hflags := readFlags_seam verbose h
  rcases text with _ | ⟨c, rest⟩
  · rcases h.nil with rfl | rfl <;> exact hflags
  obtain ⟨rest', rfl, hrest⟩ := h.cons
  rw [List.length_cons] at *
  by_cases hequal : c = '='
  · subst hequal
    exact .error _ _
  by_cases hnot : c = '!'
  · subst hnot
    exact .error _ _
  by_cases hangle : c = '<'
  · subst hangle
    have hname : Seam (Token.Beyond verbose) (rest.length + 1) (readNamedGroup rest)
        (readNamedGroup rest') :=
      .of_sealed ((readNamedGroup_seam hrest).mono (Nat.le_succ _))
    rcases rest with _ | ⟨d, rest⟩
    · rcases hrest.nil with rfl | rfl <;> exact hname
    obtain ⟨rest', rfl, -⟩ := hrest.cons
    by_cases hequal : d = '='
    · subst hequal
      exact .error _ _
    by_cases hnot : d = '!'
    · subst hnot
      exact .error _ _
    unfold readMarked
    simp only [List.cons.injEq, hequal, hnot, false_and, imp_self, implies_true]
    exact hname
  by_cases hnamed : ∃ tail, c :: rest = 'P' :: '<' :: tail
  · obtain ⟨tail, heq⟩ := hnamed
    obtain ⟨rfl, rfl⟩ := List.cons.inj heq
    obtain ⟨tail', rfl, htail⟩ := hrest.cons
    rw [List.length_cons]
    exact .of_sealed ((readNamedGroup_seam htail).mono (by omega))
  rw [not_exists] at hnamed
  have hnamed' := Continued.not_pair (by decide) hrest hnamed
  unfold readMarked
  simp only [List.cons.injEq, hequal, hnot, hangle, false_and, imp_self, implies_true]
  exact hflags

theorem readOpening_seam (h : Continued text text') :
    Seam (Token.Beyond flags.verbose) text.length (readOpening flags text)
      (readOpening flags text') := by
  have hskip := skip_continued flags.verbose h
  have hlength := skip_length flags.verbose text
  by_cases hmarked : ∃ rest, skip flags.verbose text = '?' :: rest
  · obtain ⟨rest, hleft⟩ := hmarked
    rw [hleft] at hskip hlength
    obtain ⟨rest', hleft', hrest⟩ := hskip.cons
    rw [readOpening_marked hleft, readOpening_marked hleft']
    rw [List.length_cons] at hlength
    exact (readMarked_seam flags.verbose hrest).mono (by omega)
  · rw [not_exists] at hmarked
    unfold readOpening
    generalize skip flags.verbose text = left at hskip hlength hmarked
    generalize skip flags.verbose text' = left' at hskip
    rcases left with _ | ⟨c, rest⟩
    · rcases hskip.nil with rfl | rfl
      · exact .ok _ hlength (.followed [])
      · exact .ok _ hlength .swallowed
    · have hsame := hskip
      obtain ⟨rest', rfl, -⟩ := hskip.cons
      have hmark : c ≠ '?' := by
        rintro rfl
        exact hmarked rest rfl
      simp only [List.cons.injEq, hmark, false_and, imp_self, implies_true]
      exact .ok _ hlength hsame

/-! ## Tokens -/

/-- A token is read as before, and takes a character at least.  Only changes of flags
and atoms are read otherwise. -/
theorem readToken_seam (hnonempty : text ≠ []) (h : Continued text text') :
    Seam (Token.Beyond flags.verbose) (text.length - 1) (readToken flags text)
      (readToken flags text') := by
  fun_cases readToken flags text
  case case1 => exact absurd rfl hnonempty
  all_goals
    obtain ⟨rest', rfl, hrest⟩ := h.cons
    rw [List.length_cons, Nat.add_sub_cancel]
  case case2 rest => exact readOpening_seam hrest
  case case5 rest =>
    exact .ok _ (dropLazyMark_length rest) (dropLazyMark_continued hrest)
  case case6 rest =>
    exact .ok _ (dropLazyMark_length rest) (dropLazyMark_continued hrest)
  case case7 rest =>
    exact .ok _ (dropLazyMark_length rest) (dropLazyMark_continued hrest)
  case case8 rest => exact .of_sealed (readCounts_seam flags.verbose hrest)
  case case9 rest =>
    refine .bind_sealed (readClass_seam hrest) ?_
    intro members left left' hlength hleft
    exact .ok _ hlength hleft
  case case10 rest =>
    refine .bind (Escape.read_seam flags.verbose hrest) ?_ ?_
    · rintro escape rest' (_ | _ | hbrace) token last hok
      · cases hok
        exact .parenthesis _
      · exact .of_property hok
      · cases hok
        exact .brace _ hbrace
    · intro escape left left' hlength hleft
      exact .bind_const fun regex => .ok _ (by omega) hleft
  case case11 rest hunicode =>
    unfold readToken
    simp only [if_pos hunicode]
    exact .ok _ (Nat.le_refl _) hrest
  case case12 hunicode =>
    unfold readToken
    simp only [if_neg hunicode]
    exact .error _ _
  case case15 c rest _ _ _ _ _ _ _ _ _ _ _ _ =>
    unfold readToken
    simp only
    exact .ok _ (Nat.le_refl _) hrest
  all_goals exact .ok _ (Nat.le_refl _) hrest

theorem readToken_length {c : Char} {rest after : List Char} {token : Token}
    (h : readToken flags (c :: rest) = .ok (token, after)) :
    after.length ≤ rest.length :=
  ((readToken_seam (List.cons_ne_nil c rest) (.followed (c :: rest))).agrees
    token after h).1

/-! ## The end of a group -/

/-- What is read is not the end of a group. -/
def ClosesNone (reading : Except Fault (Token × List Char)) : Prop :=
  ∀ left, reading ≠ .ok (.close, left)

namespace ClosesNone

theorem error (fault : Fault) : ClosesNone (.error fault) := nofun

theorem other {token : Token} {rest : List Char} (h : token ≠ .close) :
    ClosesNone (.ok (token, rest)) := by
  rintro left hok
  exact h (Prod.mk.inj (Except.ok.inj hok)).1

theorem bind {α : Type} {first : Except Fault α}
    {next : α → Except Fault (Token × List Char)}
    (h : ∀ value, ClosesNone (next value)) :
    ClosesNone (first >>= next) := by
  rcases first with fault | value
  · exact error fault
  · exact h value

theorem ite {condition : Prop} [Decidable condition]
    {first second : Except Fault (Token × List Char)} (hfirst : ClosesNone first)
    (hsecond : ClosesNone second) :
    ClosesNone (if condition then first else second) := by
  by_cases h : condition
  · rw [if_pos h]
    exact hfirst
  · rw [if_neg h]
    exact hsecond

theorem readCounts (verbose : Bool) (text : List Char) :
    ClosesNone (readCounts verbose text) := by
  refine bind ?_
  rintro ⟨least, rest⟩
  simp only
  split
  · exact other (by rintro ⟨⟩)
  · split
    · exact other (by rintro ⟨⟩)
    · refine bind ?_
      rintro ⟨greatest, last⟩
      split
      · exact ite (error _) (other (by rintro ⟨⟩))
      · exact error _
  · exact error _

theorem readNamedGroup (text : List Char) : ClosesNone (readNamedGroup text) := by
  unfold Pattern.readNamedGroup
  simp only
  generalize text.drop (text.takeWhile (· != '>')).length = left
  cases left with
  | nil => exact error _
  | cons c rest => exact ite (other (by rintro ⟨⟩)) (error _)

theorem readFlags (text : List Char) : ClosesNone (readFlags text) :=
  bind fun _ => ite (other (by rintro ⟨⟩)) (ite (error _) (other (by rintro ⟨⟩)))

theorem readMarked (text : List Char) : ClosesNone (readMarked text) := by
  fun_cases Pattern.readMarked text
  case case5 rest => exact readNamedGroup rest
  case case6 rest _ _ => exact readNamedGroup rest
  case case7 => exact readFlags text
  all_goals exact error _

theorem readOpening (flags : Flags) (text : List Char) :
    ClosesNone (readOpening flags text) := by
  by_cases hmarked : ∃ rest, skip flags.verbose text = '?' :: rest
  · obtain ⟨rest, hleft⟩ := hmarked
    rw [readOpening_marked hleft]
    exact readMarked rest
  · rw [not_exists] at hmarked
    unfold Pattern.readOpening
    generalize skip flags.verbose text = left at hmarked
    rcases left with _ | ⟨c, rest⟩
    · exact other (by rintro ⟨⟩)
    · have hmark : c ≠ '?' := by
        rintro rfl
        exact hmarked rest rfl
      simp only [List.cons.injEq, hmark, false_and, imp_self, implies_true]
      exact other (by rintro ⟨⟩)

theorem readToken (flags : Flags) {text : List Char} (h : ∀ rest, text ≠ ')' :: rest) :
    ClosesNone (readToken flags text) := by
  fun_cases Pattern.readToken flags text
  case case1 => exact error _
  case case2 rest => exact readOpening flags rest
  case case3 rest => exact absurd rfl (h rest)
  case case8 rest => exact readCounts flags.verbose rest
  case case9 => exact bind fun _ => other (by rintro ⟨⟩)
  case case10 => exact bind fun _ => bind fun _ => other (by rintro ⟨⟩)
  case case12 => exact error _
  all_goals exact other (by rintro ⟨⟩)

end ClosesNone

/-- Only a parenthesis is the end of a group. -/
theorem readToken_close {flags : Flags} {c : Char} {rest after : List Char}
    (h : readToken flags (c :: rest) = .ok (.close, after)) : c = ')' ∧ after = rest :=
  by
  by_cases hclose : c = ')'
  · subst hclose
    cases h
    exact ⟨rfl, rfl⟩
  · have hother : ∀ rest', c :: rest ≠ ')' :: rest' :=
      fun _ heq => hclose (List.cons.inj heq).1
    exact absurd h (ClosesNone.readToken flags hother after)

end ContentBatch.Pattern
