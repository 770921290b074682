import ContentBatch.Proofs.Pattern.Tokens

/-!
# A pattern in its group

A pattern for paths is read within a group between the assertions for both ends of the
text.  That this takes the pattern as a whole is not plain from its characters: an
alternative could end the group early, a flag could turn the end of the text into the
end of a line, a class or a comment could swallow the parenthesis.

`Builder.inside` is the reader with that group open around all that the pattern opens
itself.  Token by token it does what the reader of the pattern alone does.  If it gets
to the end of the pattern, the group is closed and the flags return to what they were at
the start.  A comment that swallows the parenthesis leaves the group open, and so does a
token that is read beyond the end of the pattern.  What is left is a parenthesis of the
pattern itself that closes nothing in it: that one closes the group.

`Reaches` reads token by token.  `Completes` says that a text is read to its end with
all groups closed and is not nested too deeply.

## Main results

* `Builder.completes_iff`: `Completes` says what the reader does.
* `Builder.completes_inside_iff`: how a pattern in its group is read to the end.
-/

namespace ContentBatch.Pattern.Builder

/-! ## Reading token by token -/

/-- What a builder becomes by reading some tokens of a text, and what is left of the
text. -/
inductive Reaches : Builder → List Char → Builder → List Char → Prop where
  | start {builder : Builder} {text : List Char} : Reaches builder text builder text
  | token {builder next final : Builder} {text rest after left : List Char} {c : Char}
      {token : Token} :
      skip builder.flags.verbose text = c :: rest →
      readToken builder.flags (c :: rest) = .ok (token, after) →
      builder.take token = .ok next →
      Reaches next after final left → Reaches builder text final left

/-- The expression that was read, if no group is open and it is not nested too
deeply. -/
def finish (builder : Builder) : Except Fault WrittenRegex :=
  let whole := builder.level.whole
  if !builder.outer.isEmpty then .error .unclosedGroup
  else if maxNesting < whole.depth then .error .nestedTooDeeply
  else .ok whole.value

/-- A text is read to its end, and gives an expression. -/
def Completes (builder : Builder) (text : List Char) (regex : WrittenRegex) : Prop :=
  ∃ final left, Reaches builder text final left ∧ skip final.flags.verbose left = [] ∧
    final.finish = .ok regex

variable {builder own next final : Builder}
  {text text' rest after left last : List Char} {token : Token} {regex : WrittenRegex}
  {fuel : Nat} {c : Char}

theorem readFrom_nil (builder : Builder) (h : skip builder.flags.verbose text = []) :
    readFrom fuel builder text = .ok builder := by
  cases fuel with
  | zero => rfl
  | succ fuel => rw [readFrom, h]

theorem readFrom_token (builder : Builder)
    (hskip : skip builder.flags.verbose text = c :: rest)
    (htoken : readToken builder.flags (c :: rest) = .ok (token, after))
    (hnext : builder.take token = .ok next) :
    readFrom (fuel + 1) builder text = readFrom fuel next after := by
  rw [readFrom, hskip]
  show (readToken builder.flags (c :: rest) >>= _) = _
  rw [htoken]
  show (builder.take token >>= _) = _
  rw [hnext]
  rfl

/-- The tokens that were read have taken a character each, so there is fuel left for the
rest. -/
theorem Reaches.readFrom_eq (h : Reaches builder text final left)
    (hfuel : text.length < fuel) :
    ∃ fuel', left.length < fuel' ∧
      readFrom fuel builder text = readFrom fuel' final left := by
  induction h generalizing fuel with
  | start => exact ⟨fuel, hfuel, rfl⟩
  | @token builder _ _ text rest _ _ c _ hskip htoken hnext _ ih =>
      obtain ⟨fuel, rfl⟩ :=
        Nat.exists_eq_succ_of_ne_zero (Nat.ne_of_gt (Nat.zero_lt_of_lt hfuel))
      have hlength := skip_length builder.flags.verbose text
      rw [hskip, List.length_cons] at hlength
      have hshorter := readToken_length htoken
      rw [readFrom_token builder hskip htoken hnext]
      exact ih (by omega)

theorem exists_reaches (h : readFrom fuel builder text = .ok final)
    (hfuel : text.length < fuel) :
    ∃ left, Reaches builder text final left ∧ skip final.flags.verbose left = [] := by
  induction fuel generalizing builder text with
  | zero => omega
  | succ fuel ih =>
      have hlength := skip_length builder.flags.verbose text
      rcases hskip : skip builder.flags.verbose text with _ | ⟨c, rest⟩
      · rw [readFrom_nil builder hskip] at h
        cases h
        exact ⟨text, .start, hskip⟩
      · rw [hskip, List.length_cons] at hlength
        rcases htoken : readToken builder.flags (c :: rest) with fault | ⟨token, after⟩
        · rw [readFrom, hskip] at h
          simp only [bind, Except.bind, htoken] at h
          cases h
        · have hshorter := readToken_length htoken
          rcases hnext : builder.take token with fault | next
          · rw [readFrom, hskip] at h
            simp only [bind, Except.bind, htoken, hnext] at h
            cases h
          · rw [readFrom_token builder hskip htoken hnext] at h
            obtain ⟨left, hreaches, hend⟩ := ih h (by omega)
            exact ⟨left, .token hskip htoken hnext hreaches, hend⟩

/-- With enough fuel, the reader gives what the tokens of the text give. -/
theorem completes_iff (hfuel : text.length < fuel) :
    (readFrom fuel builder text >>= finish) = .ok regex ↔
    Completes builder text regex := by
  constructor
  · intro h
    rcases hread : readFrom fuel builder text with fault | final
    · rw [hread] at h
      cases h
    · rw [hread] at h
      obtain ⟨left, hreaches, hend⟩ := exists_reaches hread hfuel
      exact ⟨final, left, hreaches, hend, h⟩
  · rintro ⟨final, left, hreaches, hend, hfinish⟩
    obtain ⟨fuel', -, hread⟩ := hreaches.readFrom_eq hfuel
    rw [hread, readFrom_nil final hend]
    exact hfinish

theorem finish_eq_ok_iff :
    final.finish = .ok regex ↔ final.outer = [] ∧ final.level.whole.depth ≤ maxNesting ∧
      final.level.whole.value = regex := by
  unfold finish
  simp only
  by_cases houter : final.outer = []
  · rw [houter, if_neg (by decide)]
    by_cases hdepth : maxNesting < final.level.whole.depth
    · rw [if_pos hdepth]
      exact ⟨nofun, fun h => absurd hdepth (Nat.not_lt.2 h.2.1)⟩
    rw [if_neg hdepth]
    exact ⟨fun h => ⟨rfl, Nat.not_lt.1 hdepth, Except.ok.inj h⟩,
      fun h => congrArg Except.ok h.2.2⟩
  · have hopen : (!final.outer.isEmpty) = true := by
      rw [Bool.not_eq_true', Bool.eq_false_iff, ne_eq, List.isEmpty_iff]
      exact houter
    rw [if_pos hopen]
    exact ⟨nofun, fun h => absurd h.1 houter⟩

/-- A parenthesis that closes nothing is where the reading ends. -/
theorem Reaches.unopened (h : Reaches builder text own left) (houter : own.outer = [])
    (hskip : skip own.flags.verbose left = ')' :: rest) (hfuel : text.length < fuel) :
    readFrom fuel builder text = .error .unopenedGroup := by
  obtain ⟨fuel', hfuel', hread⟩ := h.readFrom_eq hfuel
  obtain ⟨fuel', rfl⟩ :=
    Nat.exists_eq_succ_of_ne_zero (Nat.ne_of_gt (Nat.zero_lt_of_lt hfuel'))
  rw [hread, readFrom, hskip]
  simp only [readToken, bind, Except.bind, take, houter]

theorem Reaches.trans (h : Reaches builder text own left)
    (hrest : Reaches own left final last) :
    Reaches builder text final last := by
  induction h with
  | start => exact hrest
  | token hskip htoken hnext _ ih => exact .token hskip htoken hnext (ih hrest)

/-! ## What is left after the pattern -/

theorem Reaches.of_nil (h : Reaches builder [] final left) :
    final = builder ∧ left = [] := by
  cases h with
  | start => exact ⟨rfl, rfl⟩
  | token hskip _ _ _ => cases hskip

/-- The dollar sign stands for the end of the text. -/
theorem Reaches.dollar (h : Reaches builder ['$'] final left) :
    final.outer = builder.outer ∧ (skip final.flags.verbose left = [] →
      final = { builder with
        level := builder.level.add (some ⟨.test builder.flags.dollar, 0⟩) }) := by
  cases h with
  | start =>
      refine ⟨rfl, ?_⟩
      rw [skip_dollar]
      nofun
  | token hskip htoken hnext hrest =>
      rw [skip_dollar] at hskip
      cases hskip
      cases htoken
      cases hnext
      obtain ⟨rfl, rfl⟩ := hrest.of_nil
      exact ⟨rfl, fun _ => rfl⟩

theorem skip_brace (verbose : Bool) (text : List Char) :
    skip verbose ('\x7b' :: text) = '\x7b' :: text := by
  cases verbose <;> rfl

/-- A token that is read beyond the end of the pattern closes no group, and neither does
what is left. -/
theorem Reaches.beyond (hbeyond : Token.Beyond builder.flags.verbose token rest)
    (hnext : builder.take token = .ok next) (h : Reaches next rest final left) :
    final.outer = builder.outer := by
  cases hbeyond with
  | switch change =>
      cases hnext
      exact h.dollar.1
  | parenthesis regex =>
      cases hnext
      exact h.dollar.1
  | @brace regex rest hclosing =>
      cases hnext
      cases h with
      | start => rfl
      | token hskip htoken _ _ =>
          rw [skip_brace] at hskip
          cases hskip
          have hcount := readCount_closing builder.flags.verbose hclosing
          have htoken : (readCount builder.flags.verbose
              (skip builder.flags.verbose rest) >>= _) = _ := htoken
          rw [hcount] at htoken
          cases htoken

/-! ## The pattern in its group -/

/-- The builder within one more group, which is open around all others. -/
def inside (builder : Builder) (bottom : GroupLevel × Flags) : Builder :=
  { builder with outer := builder.outer ++ [bottom] }

/-- Within one more group a token is taken as before. -/
theorem take_inside (bottom : GroupLevel × Flags) (h : builder.take token = .ok next) :
    (builder.inside bottom).take token = .ok (next.inside bottom) := by
  rcases builder with ⟨flags, level, outer, names⟩
  cases token with
  | atom regex =>
      cases h
      rfl
  | repeated least greatest =>
      unfold take inside at *
      simp only at h ⊢
      cases hlevel : level.repeatLast least greatest with
      | error fault =>
          rw [hlevel] at h
          cases h
      | ok level =>
          rw [hlevel] at h
          cases h
          rfl
  | «open» change name =>
      unfold take inside at *
      simp only at h ⊢
      by_cases hrepeated : name.any names.contains = true
      · rw [if_pos hrepeated] at h
        cases h
      · rw [if_neg hrepeated] at h ⊢
        cases h
        rfl
  | close =>
      rcases outer with _ | ⟨⟨last, former⟩, outer⟩
      · cases h
      · cases h
        rfl
  | bar =>
      cases h
      rfl
  | switch change =>
      cases h
      rfl

/-- The group that holds the start of the text, within which a pattern is read. -/
def startOfText : GroupLevel × Flags :=
  (({} : GroupLevel).add (some ⟨.test .textStart, 0⟩), {})

theorem readFrom_opening (fuel : Nat) (text : List Char) :
    readFrom (fuel + 2) {} ('^' :: '(' :: '?' :: ':' :: text) =
      readFrom fuel (inside {} startOfText) text := by
  rw [readFrom_token {} rfl rfl rfl, readFrom_token _ rfl rfl rfl]
  rfl

/-- The builder after the group around the pattern is closed. -/
def closed (builder : Builder) : Builder :=
  { builder with
    flags := {}
    level := startOfText.1.add
      (some ⟨builder.level.whole.value, builder.level.whole.depth + 1⟩)
    outer := [] }

theorem take_close (houter : own.outer = []) :
    (own.inside startOfText).take .close = .ok own.closed := by
  rcases own with ⟨flags, level, outer, names⟩
  cases houter
  rfl

theorem take_close_outer (houter : own.outer ≠ [])
    (h : (own.inside startOfText).take .close = .ok next) :
    next.outer ≠ [] := by
  rcases own with ⟨flags, level, _ | ⟨⟨last, former⟩, outer⟩, names⟩
  · exact absurd rfl houter
  · cases h
    exact List.append_ne_nil_of_right_ne_nil _ (List.cons_ne_nil _ _)

theorem inside_outer_ne_nil (builder : Builder) :
    (builder.inside startOfText).outer ≠ [] :=
  List.append_ne_nil_of_right_ne_nil _ (List.cons_ne_nil _ _)

/-- A token that is refused, but not within the group, is a parenthesis that closes the
group. -/
theorem take_of_inside {fault : Fault} (hrefused : builder.take token = .error fault)
    (h : (builder.inside startOfText).take token = .ok next) :
    token = .close ∧ builder.outer = [] ∧ next = builder.closed := by
  rcases builder with ⟨flags, level, outer, names⟩
  cases token with
  | atom regex => cases hrefused
  | repeated least greatest =>
      unfold take inside at *
      simp only at hrefused h
      cases hlevel : level.repeatLast least greatest with
      | error fault =>
          rw [hlevel] at h
          cases h
      | ok level =>
          rw [hlevel] at hrefused
          cases hrefused
  | «open» change name =>
      unfold take inside at *
      simp only at hrefused h
      by_cases hrepeated : name.any names.contains = true
      · rw [if_pos hrepeated] at h
        cases h
      · rw [if_neg hrepeated] at hrefused
        cases hrefused
  | close =>
      rcases outer with _ | ⟨⟨last, former⟩, outer⟩
      · cases h
        exact ⟨rfl, rfl, rfl⟩
      · cases hrefused
  | bar => cases hrefused
  | switch change => cases hrefused

theorem Reaches.inside (h : Reaches builder text own left) :
    Reaches (builder.inside startOfText) text (own.inside startOfText) left := by
  induction h with
  | start => exact .start
  | token hskip htoken hnext _ ih =>
    exact .token hskip htoken (take_inside startOfText hnext) ih

theorem Reaches.continued (h : Reaches builder text own left)
    (htext : Continued text text') :
    ∃ left', Reaches builder text' own left' ∧ Continued left left' := by
  induction h generalizing text' with
  | start => exact ⟨text', .start, htext⟩
  | @token builder _ _ _ _ _ _ _ token hskip htoken hnext _ ih =>
      have hcontinued := skip_continued builder.flags.verbose htext
      rw [hskip] at hcontinued
      obtain ⟨rest', hskip', -⟩ := hcontinued.cons
      rw [hskip'] at hcontinued
      obtain ⟨-, after', htoken', hafter⟩ :=
        (readToken_seam (List.cons_ne_nil _ _) hcontinued).agrees token _ htoken
      obtain ⟨left', hreaches, hleft⟩ := ih hafter
      exact ⟨left', .token hskip' htoken' hnext hreaches, hleft⟩

/-- A pattern is read to its end with all groups closed, and what follows it is read
next.  Or a parenthesis of the pattern, where it has no open group, closes the group
around the pattern, and the reading goes on from there. -/
theorem Reaches.of_inside (h : Reaches (builder.inside startOfText) text' final last)
    (hend : skip final.flags.verbose last = []) (houter : final.outer = [])
    (htext : Continued text text') :
    (∃ own left left', Reaches builder text own left ∧
      skip own.flags.verbose left = [] ∧
      Reaches builder text' own left' ∧ skip own.flags.verbose left' = closing ∧
      own.outer = [] ∧
      Reaches own.closed ['$'] final last) ∨
    ∃ own left rest, Reaches builder text own left ∧ own.outer = [] ∧
      skip own.flags.verbose left = ')' :: rest ∧
      Reaches own.closed (rest ++ closing) final last := by
  generalize hinside : builder.inside startOfText = inner at h
  induction h generalizing builder text with
  | start =>
      subst hinside
      exact absurd houter (inside_outer_ne_nil builder)
  | @token inner next final text' rest' after' last c token hskip' htoken'
      hnext' htail ih =>
      subst hinside
      have hskip := skip_continued builder.flags.verbose htext
      have hskip' : skip builder.flags.verbose text' = c :: rest' := hskip'
      have htoken' : readToken builder.flags (c :: rest') = .ok (token, after') :=
        htoken'
      rw [hskip'] at hskip
      rcases hskipped : skip builder.flags.verbose text with _ | ⟨d, rest⟩
      · -- the pattern is at its end, and what follows closes a group
        rw [hskipped] at hskip
        rcases hskip.nil with hclosing | hnil
        · cases hclosing
          cases htoken'
          by_cases hown : builder.outer = []
          · rw [take_close hown] at hnext'
            cases hnext'
            exact .inl ⟨builder, text, text', .start, hskipped, .start,
              hskip', hown, htail⟩
          · exact absurd (htail.dollar.1.symm.trans houter)
              (take_close_outer hown hnext')
        · cases hnil
      · rw [hskipped] at hskip
        obtain ⟨rfl, rfl⟩ : c = d ∧ rest' = rest ++ closing := by
          cases hskip
          exact ⟨rfl, rfl⟩
        have hseam : Seam (Token.Beyond builder.flags.verbose)
            _ (readToken builder.flags (c :: rest)) _ :=
          readToken_seam (List.cons_ne_nil c rest) hskip
        rcases htoken : readToken builder.flags (c :: rest) with fault | ⟨own, after⟩
        · -- the token ends beyond the pattern, so the group is left open
          have hbeyond :
              Token.Beyond (builder.inside startOfText).flags.verbose token after' :=
            hseam.overruns fault token after' htoken htoken'
          exact absurd ((htail.beyond hbeyond hnext').symm.trans houter)
            (inside_outer_ne_nil builder)
        · obtain ⟨-, after'', heq, hafter⟩ := hseam.agrees own after htoken
          obtain ⟨rfl, rfl⟩ := Prod.mk.inj (Except.ok.inj (htoken'.symm.trans heq))
          rcases hnext : builder.take token with fault | own
          · -- only the parenthesis that closes the group can be taken
            obtain ⟨rfl, hown, rfl⟩ := take_of_inside hnext hnext'
            obtain ⟨rfl, rfl⟩ := readToken_close htoken'
            exact .inr ⟨builder, text, rest, .start, hown, hskipped, htail⟩
          · obtain rfl :=
              Except.ok.inj (hnext'.symm.trans (take_inside startOfText hnext))
            rcases ih hend houter hafter rfl with
              ⟨last, left, left', hown, hleft, hown', hrest⟩ | ⟨last, left,
                more, hown, hrest⟩
            · exact .inl ⟨last, left, left', .token hskipped htoken hnext hown, hleft,
                .token hskip' htoken' hnext hown', hrest⟩
            · exact .inr ⟨last, left, more, .token hskipped htoken hnext hown, hrest⟩

/-- The builder after the group and the end of the text. -/
def ended (builder : Builder) : Builder :=
  { builder.closed with level := builder.closed.level.add (some ⟨.test .textEnd, 0⟩) }

theorem reaches_closed (houter : own.outer = [])
    (hskip : skip own.flags.verbose left = ')' :: rest) :
    Reaches (own.inside startOfText) left own.closed rest :=
  .token hskip rfl (take_close houter) .start

theorem reaches_ended (builder : Builder) :
    Reaches builder.closed ['$'] builder.ended [] :=
  .token (skip_dollar _) rfl rfl .start

/-- A pattern in its group is read to the end in one of two ways: as it is read alone,
or by closing the group. -/
theorem completes_inside_iff :
    Completes (builder.inside startOfText) (text ++ closing) regex ↔
      (∃ own left left', Reaches builder text own left ∧
        skip own.flags.verbose left = [] ∧
        Reaches builder (text ++ closing) own left' ∧
        skip own.flags.verbose left' = closing ∧
        own.outer = [] ∧ own.ended.finish = .ok regex) ∨
      ∃ own left rest, Reaches builder text own left ∧ own.outer = [] ∧
        skip own.flags.verbose left = ')' :: rest ∧
        own.closed.Completes (rest ++ closing) regex := by
  constructor
  · rintro ⟨final, last, hreaches, hend, hfinish⟩
    have houter := (finish_eq_ok_iff.1 hfinish).1
    rcases hreaches.of_inside hend houter (.followed text) with
      ⟨own, left, left', hown, hleft, hown', hleft', hclosed, hrest⟩ |
      ⟨own, left, rest, hown, hclosed, hskip, hrest⟩
    · obtain rfl : final = own.ended := hrest.dollar.2 hend
      exact .inl ⟨own, left, left', hown, hleft, hown', hleft', hclosed, hfinish⟩
    · exact .inr ⟨own, left, rest, hown, hclosed, hskip, final, last,
        hrest, hend, hfinish⟩
  · rintro (⟨own, left, left', -, -, hown, hleft, houter, hfinish⟩ |
      ⟨own, left, rest, hown, houter, hskip, final, last, hrest, hend, hfinish⟩)
    · exact ⟨own.ended, [], (hown.inside.trans (reaches_closed houter hleft)).trans
        (reaches_ended own), rfl, hfinish⟩
    · obtain ⟨left', hown', hleft'⟩ := hown.continued (.followed text)
      have hskip' := skip_continued own.flags.verbose hleft'
      rw [hskip] at hskip'
      generalize hlast : skip own.flags.verbose left' = found at hskip'
      cases hskip'
      exact ⟨final, last,
        (hown'.inside.trans (reaches_closed houter hlast)).trans hrest, hend, hfinish⟩

end ContentBatch.Pattern.Builder
