import ContentBatch.Filter
import ContentBatch.Proofs.Pattern.Grouping

/-!
# Which patterns are accepted

A pattern for paths is checked within its group only, never on its own.  So a pattern
that is well formed may be refused, and one that is not may be accepted.

* Within the group a pattern has a little less room: the group and the sequence around
  it make it deeper by two, and the ends of the text belong to what the engine has to
  admit.
* A comment at the end of a verbose pattern swallows the end of the group.
* A pattern that closes a group which it has not opened closes the one around it.  It is
  accepted if it makes up for that, so that what was meant to end the group ends
  something else.

There is no other way.  If a pattern is both well formed and accepted, its own
expression stands between the ends of the text.  All of this is decided by the text of
the pattern; what the engine knows of properties and how much it admits comes after it.

## Main results

* `WrittenRegex.ofPattern?_anchored_eq_ok_iff`: what is read from a pattern in its
  group.
* `Regex.ofPattern?_anchored`: between the ends of the text stands the expression of the
  pattern alone.
* `Filter.matching_accepts_iff`: the patterns that are accepted.
-/

namespace ContentBatch

namespace Pattern

/-! ## Patterns on their own and in their group -/

/-- An expression that is put into a group between the ends of the text. -/
def Expression.betweenEnds {α : Type}
    (own : Expression α Assertion) : Expression α Assertion :=
  .sequences [.test .textStart, own, .test .textEnd]

/-- The text of a pattern in a group between the ends of the text. -/
def anchoredText (text : List Char) : List Char :=
  '^' :: '(' :: '?' :: ':' :: (text ++ closing)

theorem Builder.whole_ended (builder : Builder) :
    builder.ended.level.whole =
      ⟨builder.level.whole.value.betweenEnds, builder.level.whole.depth + 2⟩ := by
  show (⟨_, max (max 0 (builder.level.whole.depth + 1)) 0 + 1⟩ : Nested WrittenRegex) =
      _
  rw [Nat.zero_max, Nat.max_zero]
  rfl

namespace WrittenRegex

/-- A pattern on its own is read to its end with all groups closed, however deeply it is
nested. -/
def Reads (text : List Char) (own : Nested WrittenRegex) : Prop :=
  ∃ final left, Builder.Reaches {} text final left ∧
    skip final.flags.verbose left = [] ∧
    final.outer = [] ∧ final.level.whole = own

/-- A pattern that ends in a comment: a parenthesis may come after it, which would close
nothing otherwise. -/
def EndsInComment (text : List Char) : Prop :=
  ∃ own, Reads (text ++ closing) own

/-- A pattern that fits into its group. -/
structure Fits (text : List Char) (own : Nested WrittenRegex) : Prop where
  reads : Reads text own
  followed : ¬EndsInComment text
  depth : own.depth + 2 ≤ maxNesting

/-- A pattern that closes the group around it.  Read on its own, it gets to a
parenthesis where no group is open.  If that closes the group, the rest of the pattern,
with the end that was meant for the group, is read to its end. -/
def Escapes (text : List Char) (written : WrittenRegex) : Prop :=
  ∃ builder left rest, Builder.Reaches {} text builder left ∧ builder.outer = [] ∧
    skip builder.flags.verbose left = ')' :: rest ∧
    builder.closed.Completes (rest ++ closing) written

/-- An engine knows all properties that are named in an expression. -/
def KnownTo (engine : Engine) (written : WrittenRegex) : Prop :=
  ∃ regex, written.resolve engine = some regex

variable {engine : Engine} {text : List Char} {written : WrittenRegex}

theorem resolve_betweenEnds (engine : Engine) (written : WrittenRegex) :
    resolve engine written.betweenEnds =
      (written.resolve engine).map Expression.betweenEnds := by
  show (written.resolve engine >>= fun own => _) >>= _ = _
  cases written.resolve engine <;> rfl

theorem knownTo_betweenEnds :
    KnownTo engine written.betweenEnds ↔ written.KnownTo engine := by
  unfold KnownTo
  rw [resolve_betweenEnds]
  cases written.resolve engine <;> simp

/-- A pattern is read if it is read to its end and is not nested too deeply. -/
theorem ofPattern?_eq_ok_iff :
    ofPattern? text = .ok written ↔
      ∃ own, Reads text own ∧ own.depth ≤ maxNesting ∧ own.value = written := by
  have hcompletes : ofPattern? text = .ok written ↔ Builder.Completes {} text written :=
    Builder.completes_iff (Nat.lt_succ_self text.length)
  rw [hcompletes]
  constructor
  · rintro ⟨final, left, hreaches, hend, hfinish⟩
    obtain ⟨houter, hdepth⟩ := Builder.finish_eq_ok_iff.1 hfinish
    exact ⟨_, ⟨final, left, hreaches, hend, houter, rfl⟩, hdepth⟩
  · rintro ⟨_, ⟨final, left, hreaches, hend, houter, rfl⟩, hdepth⟩
    exact ⟨final, left, hreaches, hend, Builder.finish_eq_ok_iff.2 ⟨houter, hdepth⟩⟩

/-- A pattern that escapes is not well formed on its own. -/
theorem Escapes.ofPattern?_eq (h : Escapes text written) :
    ofPattern? text = .error .unopenedGroup := by
  obtain ⟨builder, left, rest, hreaches, houter, hskip, -⟩ := h
  unfold ofPattern?
  rw [hreaches.unopened houter hskip (Nat.lt_succ_self text.length)]
  rfl

/-- Where the parenthesis after a pattern is not part of a comment, it closes
nothing. -/
theorem not_endsInComment {own : Builder} {left : List Char}
    (h : Builder.Reaches {} (text ++ closing) own left) (houter : own.outer = [])
    (hskip : skip own.flags.verbose left = closing) : ¬EndsInComment text := by
  rintro ⟨_, final, last, hreaches, hend, -, -⟩
  have hunopened := h.unopened houter hskip (Nat.lt_succ_self _)
  obtain ⟨fuel, -, hread⟩ := hreaches.readFrom_eq (Nat.lt_succ_self _)
  rw [hread, Builder.readFrom_nil final hend] at hunopened
  cases hunopened

/-- A pattern in its group is read as it is alone if it fits, and otherwise only if it
escapes. -/
theorem ofPattern?_anchored_eq_ok_iff :
    ofPattern? (anchoredText text) = .ok written ↔
      (∃ own, Fits text own ∧ own.value.betweenEnds = written) ∨
      Escapes text written := by
  have hcompletes : ofPattern? (anchoredText text) = .ok written ↔
      (Builder.inside {} Builder.startOfText).Completes (text ++ closing) written := by
    rw [← Builder.completes_iff
      (Nat.lt_add_of_pos_right (by decide : 0 < 3)), ← Builder.readFrom_opening]
    rfl
  rw [hcompletes, Builder.completes_inside_iff]
  refine or_congr ?_ Iff.rfl
  constructor
  · rintro ⟨own, left, left', hown, hend, hown', hclosing, houter, hfinish⟩
    obtain ⟨-, hdepth, hwritten⟩ := Builder.finish_eq_ok_iff.1 hfinish
    rw [Builder.whole_ended] at hdepth hwritten
    exact ⟨own.level.whole,
      { reads := ⟨own, left, hown, hend, houter, rfl⟩
        followed := not_endsInComment hown' houter hclosing
        depth := hdepth }, hwritten⟩
  · rintro ⟨_, hfits, rfl⟩
    obtain ⟨own, left, hown, hend, houter, rfl⟩ := hfits.reads
    obtain ⟨left', hown', hleft'⟩ := hown.continued (.followed text)
    have hskip := skip_continued own.flags.verbose hleft'
    rw [hend] at hskip
    rcases hskip.nil with hclosing | hempty
    · refine ⟨own, left, left', hown, hend, hown', hclosing, houter,
        Builder.finish_eq_ok_iff.2 ?_⟩
      rw [Builder.whole_ended]
      exact ⟨rfl, hfits.depth, rfl⟩
    · exact absurd ⟨own.level.whole, own, left', hown', hempty, houter,
        rfl⟩ hfits.followed

/-- A pattern between the ends of the text stands for its own expression between them.
Whatever its flags are, they end with its group. -/
theorem ofPattern?_anchored {own : WrittenRegex} (hown : ofPattern? text = .ok own)
    (hwhole : ofPattern? (anchoredText text) = .ok written) :
    written = own.betweenEnds := by
  rcases ofPattern?_anchored_eq_ok_iff.1 hwhole with ⟨fitting, hfits, rfl⟩ | hescapes
  · have hread : ofPattern? text = .ok fitting.value :=
      ofPattern?_eq_ok_iff.2 ⟨fitting, hfits.reads,
        Nat.le_of_add_right_le hfits.depth, rfl⟩
    rw [Except.ok.inj (hown.symm.trans hread)]
  · cases hown.symm.trans hescapes.ofPattern?_eq

end WrittenRegex

/-! ## Engines -/

namespace Regex

variable {engine : Engine} {text : List Char} {regex : Regex}

theorem ofPattern?_eq_ok_iff :
    ofPattern? engine text = .ok regex ↔
      ∃ written, WrittenRegex.ofPattern? text = .ok written ∧
        written.resolve engine = some regex ∧ engine.admits text = true := by
  unfold ofPattern?
  rcases WrittenRegex.ofPattern? text with fault | written
  · constructor
    · rintro ⟨⟩
    · rintro ⟨_, ⟨⟩, _⟩
  simp only [bind, Except.bind]
  rcases hresolve : written.resolve engine with _ | resolved
  · constructor
    · rintro ⟨⟩
    · rintro ⟨_, ⟨⟩, hresolved, -⟩
      cases hresolve.symm.trans hresolved
  rcases hadmits : engine.admits text
  · constructor
    · rintro ⟨⟩
    · rintro ⟨_, _, _, ⟨⟩⟩
  · constructor
    · rintro ⟨⟩
      exact ⟨written, rfl, hresolve, rfl⟩
    · rintro ⟨_, ⟨⟩, hresolved, -⟩
      cases hresolve.symm.trans hresolved
      rfl

theorem exists_ofPattern?_iff :
    (∃ regex, ofPattern? engine text = .ok regex) ↔
      engine.admits text = true ∧
        ∃ written, WrittenRegex.ofPattern? text = .ok written ∧
          written.KnownTo engine := by
  simp only [ofPattern?_eq_ok_iff]
  constructor
  · rintro ⟨regex, written, hread, hresolve, hadmits⟩
    exact ⟨hadmits, written, hread, regex, hresolve⟩
  · rintro ⟨hadmits, written, hread, regex, hresolve⟩
    exact ⟨regex, written, hread, hresolve, hadmits⟩

/-- Between the ends of the text stands the expression that a pattern has on its own. -/
theorem ofPattern?_anchored {own : Regex} (hown : ofPattern? engine text = .ok own)
    (hwhole : ofPattern? engine (anchoredText text) = .ok regex) :
    regex = own.betweenEnds := by
  obtain ⟨written, hread, hresolve, -⟩ := ofPattern?_eq_ok_iff.1 hown
  obtain ⟨_, hanchored, hresolved, -⟩ := ofPattern?_eq_ok_iff.1 hwhole
  obtain rfl := WrittenRegex.ofPattern?_anchored hread hanchored
  rw [WrittenRegex.resolve_betweenEnds, hresolve] at hresolved
  exact (Option.some.inj hresolved).symm

end Regex

end Pattern

open Pattern

namespace PathPattern

variable {engine : Engine}

theorem toList_anchored (text : String) :
    (anchored text).toList = anchoredText text.toList := by
  simp only [anchored, String.toList_append, anchoredText, closing]
  rfl

theorem exists_ofText?_iff (text : String) :
    (∃ pattern, ofText? text engine = .ok pattern) ↔
      ∃ regex, Regex.ofPattern? engine (anchoredText text.toList) = .ok regex := by
  rw [← toList_anchored]
  unfold ofText?
  cases Regex.ofPattern? engine (anchored text).toList with
  | error fault => exact ⟨nofun, nofun⟩
  | ok regex => exact ⟨fun _ => ⟨regex, rfl⟩, fun _ => ⟨_, rfl⟩⟩

theorem error_of_ofText? {text : String} {error : ActionError}
    (h : ofText? text engine = .error error) :
    ∃ fault : Fault,
      error = .validation ("Invalid path pattern: " ++ fault.message) := by
  unfold ofText? at h
  cases hread : Regex.ofPattern? engine (anchored text).toList with
  | error fault =>
      rw [hread] at h
      cases h
      exact ⟨fault, rfl⟩
  | ok regex =>
      rw [hread] at h
      cases h

end PathPattern

namespace Filter

variable {σ : Type} {engine : Engine}

theorem exists_matching_iff (text : String) :
    (∃ filter : Filter σ, matching text engine = .ok filter) ↔
      ∃ pattern, PathPattern.ofText? text engine = .ok pattern := by
  unfold matching
  cases PathPattern.ofText? text engine with
  | error error => exact ⟨nofun, nofun⟩
  | ok pattern => exact ⟨fun _ => ⟨pattern, rfl⟩, fun _ => ⟨_, rfl⟩⟩

/-- Of the patterns whose properties an engine knows and which it admits with the ends
of the text around them, exactly two kinds are accepted.  The first are well formed on
their own: they have room in the group around them and do not end in a comment.  The
others are not well formed on their own: they close the group around them.  Everything
else is refused as not valid, with the fault that was found. -/
theorem matching_accepts_iff (engine : Engine) (text : String) :
    ((∃ filter : Filter σ, matching text engine = .ok filter) ↔
      engine.admits (PathPattern.anchored text).toList = true ∧
        ((∃ own, WrittenRegex.Fits text.toList own ∧ own.value.KnownTo engine) ∨
          ∃ written, WrittenRegex.Escapes text.toList written ∧
            written.KnownTo engine)) ∧
    ((∃ regex, Regex.ofPattern? engine text.toList = .ok regex) ↔
      engine.admits text.toList = true ∧
        ∃ own, WrittenRegex.Reads text.toList own ∧ own.depth ≤ maxNesting ∧
          own.value.KnownTo engine) ∧
    (∀ written, WrittenRegex.Escapes text.toList written →
      Regex.ofPattern? engine text.toList = .error .unopenedGroup) ∧
    ∀ error, (matching text engine : Except ActionError (Filter σ)) = .error error →
      ∃ fault : Fault,
        error = .validation ("Invalid path pattern: " ++ fault.message) := by
  refine ⟨?_, ?_, ?_, ?_⟩
  · rw [exists_matching_iff, PathPattern.exists_ofText?_iff,
      Regex.exists_ofPattern?_iff, PathPattern.toList_anchored]
    refine and_congr_right fun _ => ?_
    simp only [WrittenRegex.ofPattern?_anchored_eq_ok_iff]
    constructor
    · rintro ⟨written, ⟨own, hfits, rfl⟩ | hescapes, hknown⟩
      · exact .inl ⟨own, hfits, WrittenRegex.knownTo_betweenEnds.1 hknown⟩
      · exact .inr ⟨written, hescapes, hknown⟩
    · rintro (⟨own, hfits, hknown⟩ | ⟨written, hescapes, hknown⟩)
      · exact ⟨_, .inl ⟨own, hfits, rfl⟩, WrittenRegex.knownTo_betweenEnds.2 hknown⟩
      · exact ⟨written, .inr hescapes, hknown⟩
  · rw [Regex.exists_ofPattern?_iff]
    refine and_congr_right fun _ => ?_
    simp only [WrittenRegex.ofPattern?_eq_ok_iff]
    constructor
    · rintro ⟨_, ⟨own, hreads, hdepth, rfl⟩, hknown⟩
      exact ⟨own, hreads, hdepth, hknown⟩
    · rintro ⟨own, hreads, hdepth, hknown⟩
      exact ⟨own.value, ⟨own, hreads, hdepth, rfl⟩, hknown⟩
  · intro written hescapes
    unfold Regex.ofPattern?
    rw [hescapes.ofPattern?_eq]
    rfl
  · intro error herror
    rcases hpattern : PathPattern.ofText? text engine with fault | pattern
    · rw [matching, hpattern] at herror
      cases herror
      exact PathPattern.error_of_ofText? hpattern
    · rw [matching, hpattern] at herror
      cases herror

/-- A pattern that is not well formed is accepted, because it closes the group around
it.  A pattern that is well formed is refused, because it ends in a comment. -/
theorem escaping_pattern_is_accepted :
    Regex.ofPattern? .standard "a)(?:b".toList = .error .unopenedGroup ∧
      (∃ filter : Filter Unit, matching "a)(?:b" = .ok filter) ∧
      (∃ regex, Regex.ofPattern? .standard "(?x)a#b".toList = .ok regex) ∧
      (matching "(?x)a#b" : Except ActionError (Filter Unit)) =
        .error (.validation "Invalid path pattern: a group is not closed") := by
  refine ⟨by rfl, ⟨_, by rfl⟩, ⟨_, by rfl⟩, by rfl⟩

end Filter

end ContentBatch
