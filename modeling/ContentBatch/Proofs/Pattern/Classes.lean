import ContentBatch.Proofs.Pattern.Continuation

/-!
# Classes of a pattern that goes on

A class in brackets is read from a pattern as before if a parenthesis and a dollar sign
come after it, and a class that is not closed in the pattern is not closed by them.  It
ends with a bracket, which is looked for in order.  Only an item or a range can be read
beyond the end of the pattern, and after it there is nothing but a dollar sign.

Where a reader looks ahead, the characters it looks for are not those of `closing`.

## Main results

* `readClassFrom_seam`: a class is read as before, whatever is nested in it and however
  much fuel there is.
* `readClass_seam`: the same from the opening bracket on.
-/

namespace ContentBatch.Pattern

variable {α β : Type} {flags : Flags} {text text' : List Char}

/-! ## Items and ranges -/

/-- What is left does not depend on a step that reads nothing. -/
theorem left_of_bind {value : Except Fault β} {next : β → α} {left last : List Char}
    {result : α}
    (h : (value >>= fun found => .ok (next found, left)) = .ok (result, last)) :
    last = left := by
  cases value with
  | error fault => cases h
  | ok found =>
      cases h
      rfl

/-- Only the dollar sign is left. -/
abbrev DollarLeft (_ : α) (rest' : List Char) : Prop := rest' = ['$']

theorem readClassItem_seam (h : Continued text text') :
    Seam DollarLeft (text.length - 1) (readClassItem flags text)
      (readClassItem flags text') := by
  rcases text with _ | ⟨c, rest⟩
  · rcases h.nil with rfl | rfl
    · exact .allow _ rfl
    · exact .error _ _
  · obtain ⟨rest', rfl, hrest⟩ := h.cons
    rw [List.length_cons, Nat.add_sub_cancel]
    by_cases hescape : c = '\\'
    · subst hescape
      refine .bind (Escape.read_seam flags.verbose hrest) ?_ ?_
      · rintro escape rest' (_ | _ | hbrace) result last hok
        · cases hok
          rfl
        · exact left_of_bind hok
        · cases hok
      · intro escape left left' hlength hleft
        have hbound : left.length ≤ rest.length := by omega
        cases escape with
        | character c isByte => exact .ok _ hbound hleft
        | letterClass name negated =>
          exact .bind_const fun members => .ok _ hbound hleft
        | property name negated => exact .bind_const fun members => .ok _ hbound hleft
        | edge kind => exact .error _ _
    · unfold readClassItem
      simp only
      exact .ok _ (Nat.le_refl _) hrest

theorem skipOneSign_closing (seen : Bool) (text : List Char) :
    skipOneSign seen (text ++ closing) = skipOneSign seen text ++ closing ∧
      (skipOneSign seen text = [] →
        ∀ c ∈ text.head?, Text.isBlank c = true ∨ c = '#') := by
  fun_induction skipOneSign seen text with
  | case1 seen =>
      have hstops : skipOneSign seen closing = closing := by
        have hblank : Text.isBlank ')' = false := by decide
        simp [closing, skipOneSign, hblank]
      refine ⟨hstops, ?_⟩
      rintro _ c ⟨⟩
  | case2 seen c rest hblank ih =>
      rw [List.cons_append, skipOneSign, if_pos hblank]
      refine ⟨ih.1, ?_⟩
      rintro _ _ ⟨⟩
      exact .inl hblank
  | case3 seen c rest hblank hsign ih =>
      rw [List.cons_append, skipOneSign, if_neg hblank, if_pos hsign]
      refine ⟨ih.1, ?_⟩
      rintro _ _ ⟨⟩
      simp only [Bool.and_eq_true, beq_iff_eq] at hsign
      exact .inr hsign.1
  | case4 seen c rest hblank hsign =>
      rw [List.cons_append, skipOneSign, if_neg hblank, if_neg hsign]
      exact ⟨rfl, fun hnil => by cases hnil⟩

/-- Whether a bracket or a dash follows can be seen without looking at what comes after
the pattern. -/
theorem following_continued (verbose : Bool) {c : Char} (hc : c = ']' ∨ c = '-')
    (h : Continued text text') :
    following verbose text' = some c ↔ following verbose text = some c := by
  cases h with
  | swallowed => exact Iff.rfl
  | followed =>
      have hother : ')' ≠ c := by
        rcases hc with rfl | rfl <;> decide
      cases verbose with
      | false =>
          cases text with
          | nil => simp [following, closing, hother]
          | cons d rest => exact Iff.rfl
      | true =>
          obtain ⟨happend, hblanks⟩ := skipOneSign_closing false text
          unfold following
          rw [if_pos rfl, if_pos rfl, happend]
          rcases hleft : skipOneSign false text with _ | ⟨d, left⟩
          · have hnone : text.head? ≠ some c := by
              intro hhead
              have hblank := hblanks hleft c hhead
              rcases hc with rfl | rfl <;> revert hblank <;> decide
            simp [closing, hother, hnone]
          · exact Iff.rfl

theorem readClassRange_seam (h : Continued text text') :
    Seam DollarLeft (text.length - 1) (readClassRange flags text)
      (readClassRange flags text') := by
  refine .bind (readClassItem_seam h) ?_ ?_
  · rintro item _ rfl result last hok
    simp only [skip_dollar] at hok
    exact left_of_bind hok
  intro item left left' hlength hleft
  have hskip := skip_continued flags.verbose hleft
  have hskipped := skip_length flags.verbose left
  simp only
  generalize skip flags.verbose left = rest at hskip hskipped
  generalize skip flags.verbose left' = rest' at hskip
  have hbound : rest.length ≤ text.length - 1 := by omega
  rcases rest with _ | ⟨c, after⟩
  · rcases hskip.nil with rfl | rfl
    · exact .bind_const fun members => .ok members hbound (.followed [])
    · exact .bind_const fun members => .ok members hbound .swallowed
  obtain ⟨after', rfl, hafter⟩ := hskip.cons
  by_cases hdash : c = '-'
  · subst hdash
    simp only
    by_cases hbracket : following flags.verbose after = some ']'
    · rw [hbracket, (following_continued flags.verbose (.inl rfl) hafter).2 hbracket]
      exact .bind_const fun members => .ok members hbound hskip
    by_cases hdashes : following flags.verbose after = some '-'
    · rw [hdashes, (following_continued flags.verbose (.inr rfl) hafter).2 hdashes]
      exact .bind_const fun members => .ok members hbound hskip
    have hbracket' :=
      mt (following_continued flags.verbose (.inl rfl) hafter).1 hbracket
    have hdashes' := mt (following_continued flags.verbose (.inr rfl) hafter).1 hdashes
    simp only
    refine .bind (readClassItem_seam (skip_continued flags.verbose hafter)) ?_ ?_
    · rintro last _ rfl result rest' hok
      cases item with
      | set members => cases hok
      | character first =>
          cases last with
          | set members => cases hok
          | character last => exact left_of_bind hok
    · intro last rest rest' hlast hrest
      have hskipped := skip_length flags.verbose after
      rw [List.length_cons] at hbound
      have hlength : rest.length ≤ text.length - 1 := by omega
      cases item with
      | set members => exact .error _ _
      | character first =>
          cases last with
          | set members => exact .error _ _
          | character last => exact .bind_const fun members => .ok members hlength hrest
  · simp only [List.cons.injEq, hdash, false_and, imp_self, implies_true]
    exact .bind_const fun members => .ok members hbound hskip

/-! ## Openings of classes -/

theorem dropPrefix?_nil (text : List Char) : dropPrefix? [] text = some text := by
  simp [dropPrefix?]

theorem dropPrefix?_cons (c d : Char) (start text : List Char) :
    dropPrefix? (c :: start) (d :: text) = if c =
      d then dropPrefix? start text else none := by
  unfold dropPrefix?
  by_cases hc : c = d <;> simp [hc]

/-- Whether a text starts with some characters does not depend on a parenthesis that
comes after it. -/
theorem dropPrefix?_continued {start : List Char} (hstart : ')' ∉ start)
    (h : Continued text text') :
    (dropPrefix? start text = none → dropPrefix? start text' = none) ∧
      ∀ rest, dropPrefix? start text = some rest →
        rest.length ≤ text.length ∧
          ∃ rest', dropPrefix? start text' = some rest' ∧ Continued rest rest' := by
  induction start generalizing text text' with
  | nil =>
      rw [dropPrefix?_nil, dropPrefix?_nil]
      refine ⟨nofun, ?_⟩
      rintro rest ⟨⟩
      exact ⟨Nat.le_refl _, text', rfl, h⟩
  | cons c start ih =>
      rw [List.mem_cons, not_or] at hstart
      rcases text with _ | ⟨d, text⟩
      · have hnone : dropPrefix? (c :: start) text' = none := by
          rcases h.nil with rfl | rfl
          · unfold closing
            rw [dropPrefix?_cons, if_neg (Ne.symm hstart.1)]
          · rfl
        refine ⟨fun _ => hnone, ?_⟩
        rintro rest ⟨⟩
      · obtain ⟨text', rfl, htext⟩ := h.cons
        rw [dropPrefix?_cons, dropPrefix?_cons]
        by_cases hc : c = d
        · rw [if_pos hc, if_pos hc]
          obtain ⟨hnone, hsome⟩ := ih hstart.2 htext
          refine ⟨hnone, ?_⟩
          intro rest hrest
          obtain ⟨hlength, hcontinued⟩ := hsome rest hrest
          exact ⟨Nat.le_succ_of_le hlength, hcontinued⟩
        · rw [if_neg hc, if_neg hc]
          refine ⟨id, ?_⟩
          rintro rest ⟨⟩

/-- What was found if a text goes on: the same class, or none again. -/
def SameClass (bound : Nat)
    (found found' : Option (Bool × WrittenSet × List Char)) : Prop :=
  (found = none → found' = none) ∧
    ∀ negated members rest, found = some (negated, members, rest) →
      rest.length ≤ bound ∧
        ∃ rest', found' = some (negated, members, rest') ∧ Continued rest rest'

theorem SameClass.none {bound : Nat} : SameClass bound none none :=
  ⟨fun _ => rfl, nofun⟩

theorem SameClass.mono {bound bound' : Nat}
    {found found' : Option (Bool × WrittenSet × List Char)} (hbound : bound ≤ bound')
    (h : SameClass bound found found') : SameClass bound' found found' := by
  refine ⟨h.1, ?_⟩
  intro negated members rest hfound
  obtain ⟨hlength, hcontinued⟩ := h.2 negated members rest hfound
  exact ⟨Nat.le_trans hlength hbound, hcontinued⟩

/-- The class of ASCII characters whose name stands at the head of a text, with a colon
and a bracket after it. -/
def namedClass? (negated : Bool) (text : List Char) :
    Option (Bool × WrittenSet × List Char) := do
  let name := text.takeWhile (· != ':')
  let rest ← dropPrefix? [':', ']'] (text.drop name.length)
  let members ← CharSet.asciiClasses.lookup (String.ofList name)
  return (negated, members, rest)

theorem asciiClass?_cons (c : Char) (text : List Char) :
    asciiClass? (c :: text) =
      if c = ':' then
        match text with
        | '^' :: rest => namedClass? true rest
        | _ => namedClass? false text
      else none := by
  unfold asciiClass?
  rw [dropPrefix?_cons]
  by_cases hc : ':' = c
  · rw [if_pos hc, if_pos hc.symm, dropPrefix?_nil]
    rcases text with _ | ⟨d, rest⟩
    · rfl
    · by_cases hcaret : d = '^'
      · subst hcaret
        rfl
      · show Option.bind (some (d :: rest)) _ = _
        rw [Option.bind_some]
        simp only [List.cons.injEq, hcaret, false_and, imp_self, implies_true]
        rfl
  · rw [if_neg hc, if_neg (Ne.symm hc)]
    rfl

/-- The name of a class ends with a colon, which does not come after the pattern. -/
theorem namedClass?_continued (negated : Bool) (h : Continued text text') :
    SameClass text.length (namedClass? negated text) (namedClass? negated text') := by
  cases h with
  | swallowed => exact .none
  | followed =>
      unfold namedClass?
      simp only
      rw [List.takeWhile_append]
      by_cases hall : (text.takeWhile (· != ':')).length = text.length
      · have hclosing : closing.takeWhile (· != ':') = closing := by decide
        rw [if_pos hall, hclosing, hall, List.drop_length, List.drop_length]
        exact .none
      · have hle : (text.takeWhile (· != ':')).length ≤ text.length :=
          (List.takeWhile_prefix _).length_le
        rw [if_neg hall, List.drop_append_of_le_length hle]
        obtain ⟨hnone, hsome⟩ := dropPrefix?_continued (by decide : ')' ∉ [':', ']'])
          (.followed (text.drop (text.takeWhile (· != ':')).length))
        rcases hrest : dropPrefix? [':', ']']
            (text.drop (text.takeWhile (· != ':')).length) with _ | rest
        · rw [hnone hrest]
          exact .none
        · obtain ⟨hlength, rest', hrest', hcontinued⟩ := hsome rest hrest
          rw [hrest']
          rw [List.length_drop] at hlength
          cases CharSet.asciiClasses.lookup
            (String.ofList (text.takeWhile (· != ':'))) with
          | none => exact .none
          | some members =>
              refine ⟨nofun, ?_⟩
              rintro _ _ rest ⟨⟩
              exact ⟨by omega, rest', rfl, hcontinued⟩

theorem asciiClass?_continued (h : Continued text text') :
    SameClass text.length (asciiClass? text) (asciiClass? text') := by
  rcases text with _ | ⟨c, text⟩
  · rcases h.nil with rfl | rfl
    · unfold closing
      rw [asciiClass?_cons, if_neg (by decide)]
      exact .none
    · exact .none
  · obtain ⟨text', rfl, htext⟩ := h.cons
    rw [asciiClass?_cons, asciiClass?_cons]
    by_cases hc : c = ':'
    · rw [if_pos hc, if_pos hc]
      rcases text with _ | ⟨d, text⟩
      · have hsame := namedClass?_continued false htext
        rcases htext.nil with rfl | rfl <;> exact hsame.mono (Nat.zero_le _)
      · by_cases hcaret : d = '^'
        · subst hcaret
          obtain ⟨rest', rfl, hrest⟩ := htext.cons
          refine (namedClass?_continued true hrest).mono ?_
          rw [List.length_cons, List.length_cons]
          omega
        · have hsame := (namedClass?_continued false htext).mono (Nat.le_succ _)
          obtain ⟨text', rfl, -⟩ := htext.cons
          simp only [List.cons.injEq, hcaret, false_and, imp_self, implies_true]
          exact hsame
    · rw [if_neg hc, if_neg hc]
      exact .none

/-- An open class from after the caret that may negate it. -/
def openListing (flags : Flags) (negated : Bool)
    (text : List Char) : ClassLevel × List Char :=
  let (dashes, text) := spanSignificant flags.verbose (· == '-') false text
  let level : ClassLevel :=
    { negated, listed := dashes.map fun c => ⟨flags.closure (.single c), 0⟩ }
  match dashes, text with
  | [], ']' :: rest =>
    (level.add ⟨flags.closure (.single ']'), 0⟩, skip flags.verbose rest)
  | _, _ => (level, text)

theorem openClass_eq (flags : Flags) (text : List Char) :
    openClass flags text =
      match skip flags.verbose text with
      | '^' :: rest => openListing flags true (skip flags.verbose rest)
      | _ => openListing flags false (skip flags.verbose text) := by
  unfold openClass
  generalize skip flags.verbose text = left
  rcases left with _ | ⟨c, rest⟩
  · rfl
  · by_cases hcaret : c = '^'
    · subst hcaret
      rfl
    · simp only [List.cons.injEq, hcaret, false_and, imp_self, implies_true]
      rfl

theorem openListing_continued (flags : Flags) (negated : Bool)
    (h : Continued text text') :
    (openListing flags negated text').1 = (openListing flags negated text).1 ∧
      (openListing flags negated text).2.length ≤ text.length ∧
      Continued (openListing flags negated text).2
        (openListing flags negated text').2 := by
  have hspan : (spanSignificant flags.verbose (· == '-') false text').1 =
      (spanSignificant flags.verbose (· == '-') false text).1 ∧ _ :=
    spanSignificant_continued rfl false h
  have hlength :
      (spanSignificant flags.verbose (· == '-') false text).2.length ≤ text.length :=
    spanSignificant_length false text
  unfold openListing
  generalize spanSignificant flags.verbose (· == '-') false text = span at hspan hlength
  generalize spanSignificant flags.verbose (· == '-') false text' = span' at hspan
  obtain ⟨dashes, rest⟩ := span
  obtain ⟨dashes', rest'⟩ := span'
  obtain ⟨rfl, hrest⟩ := hspan
  rcases dashes' with _ | ⟨dash, dashes⟩
  · rcases rest with _ | ⟨c, rest⟩
    · rcases hrest.nil with rfl | rfl
      · exact ⟨rfl, hlength, .followed []⟩
      · exact ⟨rfl, hlength, .swallowed⟩
    · by_cases hbracket : c = ']'
      · subst hbracket
        obtain ⟨rest', rfl, hafter⟩ := hrest.cons
        have hskipped := skip_length flags.verbose rest
        exact ⟨rfl, Nat.le_trans hskipped (Nat.le_of_succ_le hlength),
          skip_continued flags.verbose hafter⟩
      · have hsame := hrest
        obtain ⟨rest', rfl, -⟩ := hrest.cons
        simp only [List.cons.injEq, hbracket, false_and, imp_self, implies_true]
        exact ⟨trivial, hlength, hsame⟩
  · exact ⟨rfl, hlength, hrest⟩

theorem openClass_continued (flags : Flags) (h : Continued text text') :
    (openClass flags text').1 = (openClass flags text).1 ∧
      (openClass flags text).2.length ≤ text.length ∧
      Continued (openClass flags text).2 (openClass flags text').2 := by
  have hskip := skip_continued flags.verbose h
  have hlength := skip_length flags.verbose text
  rw [openClass_eq, openClass_eq]
  generalize skip flags.verbose text = left at hskip hlength
  generalize skip flags.verbose text' = left' at hskip
  rcases left with _ | ⟨c, rest⟩
  · obtain ⟨hlevel, hshorter, hcontinued⟩ := openListing_continued flags false hskip
    rcases hskip.nil with rfl | rfl
    · exact ⟨hlevel, Nat.le_trans hshorter hlength, hcontinued⟩
    · exact ⟨hlevel, Nat.le_trans hshorter hlength, hcontinued⟩
  · have hsame := openListing_continued flags false hskip
    obtain ⟨rest', rfl, hrest⟩ := hskip.cons
    by_cases hcaret : c = '^'
    · subst hcaret
      obtain ⟨hlevel, hshorter, hcontinued⟩ :=
        openListing_continued flags true (skip_continued flags.verbose hrest)
      have hskipped := skip_length flags.verbose rest
      rw [List.length_cons] at hlength
      exact ⟨hlevel, by simp only; omega, hcontinued⟩
    · simp only [List.cons.injEq, hcaret, false_and, imp_self, implies_true]
      exact ⟨hsame.1, by omega, hsame.2.2⟩

/-! ## Levels of classes -/

theorem readClassFrom_skip {other : List Char}
    (h : skip flags.verbose text = skip flags.verbose other) (fuel : Nat)
    (level : ClassLevel) (outer : List ClassLevel) :
    readClassFrom flags fuel level outer text =
      readClassFrom flags fuel level outer other := by
  cases fuel with
  | zero => rfl
  | succ fuel => rw [readClassFrom, readClassFrom, h]

theorem readClassFrom_nil (fuel : Nat) (level : ClassLevel) (outer : List ClassLevel) :
    readClassFrom flags fuel level outer [] = .error .unclosedClass := by
  cases fuel with
  | zero => rfl
  | succ fuel => rfl

/-- What follows a pattern holds no bracket, so no class ends there. -/
theorem readClassFrom_dollar (fuel : Nat) (level : ClassLevel)
    (outer : List ClassLevel) :
    ∃ fault, readClassFrom flags fuel level outer ['$'] = .error fault := by
  cases fuel with
  | zero => exact ⟨_, rfl⟩
  | succ fuel =>
      rw [readClassFrom, skip_dollar]
      show ∃ fault, (readClassRange flags ['$'] >>= _) = _
      have hrange : readClassRange flags ['$'] = flags.range '$' '$' >>= fun members =>
          .ok (members, []) := rfl
      rw [hrange]
      cases flags.range '$' '$' with
      | error fault => exact ⟨fault, rfl⟩
      | ok members => exact ⟨_, readClassFrom_nil fuel _ outer⟩

theorem readClassFrom_closing (fuel : Nat) (level : ClassLevel)
    (outer : List ClassLevel) :
    ∃ fault, readClassFrom flags fuel level outer closing = .error fault := by
  cases fuel with
  | zero => exact ⟨_, rfl⟩
  | succ fuel =>
      rw [readClassFrom, skip_closing]
      show ∃ fault, (readClassRange flags closing >>= _) = _
      have hrange : readClassRange flags closing =
          flags.range ')' ')' >>= fun members => .ok (members, ['$']) := by
        have hitem : readClassItem flags closing = .ok (.character ')', ['$']) := rfl
        simp only [readClassRange, hitem, bind, Except.bind, skip_dollar]
        rfl
      rw [hrange]
      cases flags.range ')' ')' with
      | error fault => exact ⟨fault, rfl⟩
      | ok members => exact readClassFrom_dollar fuel _ outer

/-- The next step of a class is chosen by one or two characters, and is the same if the
text goes on. -/
theorem readClassFrom_step {bound fuel fuel' : Nat} {level : ClassLevel}
    {outer : List ClassLevel} {c : Char} {rest rest' : List Char}
    (hskip : skip flags.verbose text = c :: rest)
    (hskip' : skip flags.verbose text' = c :: rest')
    (h : Continued (c :: rest) (c :: rest')) (hbound : rest.length ≤ bound)
    (hgoesOn : ∀ (level : ClassLevel) (outer : List ClassLevel)
      {left left' : List Char}, left.length ≤ rest.length → Continued left left' →
      Sealed bound (readClassFrom flags fuel level outer left)
        (readClassFrom flags fuel' level outer left')) :
    Sealed bound (readClassFrom flags (fuel + 1) level outer text)
      (readClassFrom flags (fuel' + 1) level outer text') := by
  obtain ⟨_, heq, hrest⟩ := h.cons
  obtain rfl := (List.cons.inj heq).2
  rw [readClassFrom, readClassFrom, hskip, hskip']
  by_cases hopen : c = '['
  · subst hopen
    simp only
    obtain ⟨hnone, hsome⟩ := asciiClass?_continued hrest
    rcases hclass : asciiClass? rest with _ | ⟨negated, members, left⟩
    · rw [hnone hclass]
      obtain ⟨hlevel, hshorter, hleft⟩ := openClass_continued flags hrest
      simp only
      rw [hlevel]
      exact hgoesOn _ _ hshorter hleft
    · obtain ⟨hshorter, left', hclass', hleft⟩ := hsome negated members left hclass
      rw [hclass']
      exact .bind_const fun members => hgoesOn _ _ hshorter hleft
  by_cases hclose : c = ']'
  · subst hclose
    refine .bind_const fun closed => ?_
    cases outer with
    | nil => exact .ok closed hbound hrest
    | cons next outer => exact hgoesOn _ _ (Nat.le_refl _) hrest
  by_cases hboth : ∃ tail, c :: rest = '&' :: '&' :: tail
  · obtain ⟨tail, heq⟩ := hboth
    obtain ⟨rfl, rfl⟩ := List.cons.inj heq
    obtain ⟨tail', rfl, htail⟩ := hrest.cons
    exact hgoesOn _ _ (Nat.le_succ _) htail
  by_cases hleftOnly : ∃ tail, c :: rest = '-' :: '-' :: tail
  · obtain ⟨tail, heq⟩ := hleftOnly
    obtain ⟨rfl, rfl⟩ := List.cons.inj heq
    obtain ⟨tail', rfl, htail⟩ := hrest.cons
    exact hgoesOn _ _ (Nat.le_succ _) htail
  by_cases hone : ∃ tail, c :: rest = '~' :: '~' :: tail
  · obtain ⟨tail, heq⟩ := hone
    obtain ⟨rfl, rfl⟩ := List.cons.inj heq
    obtain ⟨tail', rfl, htail⟩ := hrest.cons
    exact hgoesOn _ _ (Nat.le_succ _) htail
  -- an operator is seen by its two characters, and neither of them comes after the
  -- pattern
  rw [not_exists] at hboth hleftOnly hone
  have hboth' := Continued.not_pair (by decide) hrest hboth
  have hleftOnly' := Continued.not_pair (by decide) hrest hleftOnly
  have hone' := Continued.not_pair (by decide) hrest hone
  simp only [List.cons.injEq, hopen, hclose, false_and, imp_self, implies_true]
  refine .bind (readClassRange_seam h) ?_ ?_
  · rintro members _ rfl result last hok
    obtain ⟨fault, herror⟩ := readClassFrom_dollar fuel' (level.add ⟨members, 0⟩) outer
    cases hok.symm.trans herror
  · intro members left left' hshorter hleft
    exact hgoesOn _ _ hshorter hleft

/-- A class is read to its closing bracket, and what follows the pattern does not close
it.  With enough fuel, more of it changes nothing. -/
theorem readClassFrom_seam {fuel fuel' : Nat} (hfuel : text.length < fuel)
    (hmore : fuel ≤ fuel') (level : ClassLevel) (outer : List ClassLevel)
    (h : Continued text text') :
    Sealed (text.length - 1) (readClassFrom flags fuel level outer text)
      (readClassFrom flags fuel' level outer text') := by
  induction fuel generalizing fuel' level outer text text' with
  | zero => omega
  | succ fuel ih =>
      obtain ⟨fuel', rfl⟩ : ∃ more, fuel' = more + 1 := ⟨fuel' - 1, by omega⟩
      have hskip := skip_continued flags.verbose h
      have hlength := skip_length flags.verbose text
      rcases hleft : skip flags.verbose text with _ | ⟨c, rest⟩
      · have hempty : skip flags.verbose text = skip flags.verbose [] := hleft
        rw [readClassFrom_skip hempty, readClassFrom_nil]
        rw [hleft] at hskip
        rcases hskip.nil with hclosing | hnil
        · obtain ⟨fault, herror⟩ := readClassFrom_closing (fuel' + 1) level outer
          rw [readClassFrom_skip (hclosing.trans (skip_closing flags.verbose).symm),
            herror]
          exact .error _ fault
        · have hempty' : skip flags.verbose text' = skip flags.verbose [] := hnil
          rw [readClassFrom_skip hempty', readClassFrom_nil]
          exact .error _ _
      · rw [hleft] at hskip hlength
        obtain ⟨rest', hleft', -⟩ := hskip.cons
        rw [hleft'] at hskip
        rw [List.length_cons] at hlength
        refine readClassFrom_step hleft hleft' hskip (by omega) ?_
        intro level outer left left' hshorter hleft
        exact (ih (by omega) (Nat.le_of_succ_le_succ hmore) level outer hleft).mono
          (by omega)

/-- A class is read from after its opening bracket to after its closing one. -/
theorem readClass_seam (h : Continued text text') :
    Sealed text.length (readClass flags text) (readClass flags text') := by
  obtain ⟨hlevel, hlength, hrest⟩ := openClass_continued flags h
  have hmore : (openClass flags text).2.length ≤ (openClass flags text').2.length :=
    hrest.length_le
  unfold readClass
  simp only
  rw [hlevel]
  exact (readClassFrom_seam (Nat.lt_succ_self _)
    (Nat.succ_le_succ hmore) _ _ hrest).mono (by omega)

end ContentBatch.Pattern
