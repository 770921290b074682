import ContentBatch.Proofs.Pattern.Acceptance
import ContentBatch.Proofs.Pattern.Matching

/-!
# Patterns describe whole paths

If a pattern is well formed on its own, then between the ends of the text stands its own
expression, whatever flags, alternatives and assertions are in it.  So it is found in a
path if and only if it describes the path from its start to its end.

## Main results

* `Regex.occursIn_betweenEnds`: an expression between the ends of the text is found in a
  text if and only if the text as a whole is described.
* `Filter.matching_accepts_whole_paths`: filters accept exactly the paths that their
  patterns describe.
-/

namespace ContentBatch

namespace Pattern

variable {text : List Char}

/-! ## Whole texts -/

theorem Assertion.holdsAt_textStart {place : Nat} (hplace : place ≤ text.length) :
    Assertion.textStart.holdsAt text place = true ↔ place = 0 := by
  simp only [holdsAt, holds, Option.isNone_iff_eq_none, List.getLast?_eq_none_iff,
    List.take_eq_nil_iff]
  constructor
  · rintro (hzero | rfl)
    · exact hzero
    · exact Nat.le_zero.1 hplace
  · exact .inl

theorem Assertion.holdsAt_textEnd {place : Nat} (hplace : place ≤ text.length) :
    Assertion.textEnd.holdsAt text place = true ↔ place = text.length := by
  simp only [holdsAt, holds, Option.isNone_iff_eq_none, List.head?_eq_none_iff,
    List.drop_eq_nil_iff]
  exact ⟨Nat.le_antisymm hplace, Nat.le_of_eq ∘ Eq.symm⟩

/-- An expression between the ends of the text is found in a text if and only if it
describes the text as a whole. -/
theorem Regex.occursIn_betweenEnds (own : Regex) (text : List Char) :
    Regex.occursIn own.betweenEnds text = true ↔
    Regex.Describes text own 0 text.length := by
  rw [Regex.occursIn_iff]
  constructor
  · rintro ⟨first, last, -, middle, ⟨rfl, hfirst, hstart⟩, after, hown,
        rfl, hlast, hend⟩
    rw [Assertion.holdsAt_textStart hfirst] at hstart
    rw [Assertion.holdsAt_textEnd hlast] at hend
    subst hstart hend
    exact hown
  · intro hown
    have hstart := (Assertion.holdsAt_textStart (Nat.zero_le text.length)).2 rfl
    have hend := (Assertion.holdsAt_textEnd (Nat.le_refl text.length)).2 rfl
    exact ⟨0, text.length, Nat.zero_le _, 0, ⟨rfl, Nat.zero_le _, hstart⟩,
      text.length, hown, rfl, Nat.le_refl _, hend⟩

end Pattern

open Pattern

namespace PathPattern

/-- The expression of a pattern for paths, if the pattern is one on its own. -/
theorem regex_ofText? {engine : Engine} {text : String} {own : Regex}
    {pattern : PathPattern} (hown : Regex.ofPattern? engine text.toList = .ok own)
    (hpattern : ofText? text engine = .ok pattern) :
    pattern = ⟨text, own.betweenEnds⟩ := by
  unfold ofText? at hpattern
  rcases hwhole : Regex.ofPattern? engine (anchored text).toList with fault | whole
  · rw [hwhole] at hpattern
    cases hpattern
  · rw [hwhole] at hpattern
    cases hpattern
    rw [toList_anchored] at hwhole
    rw [Regex.ofPattern?_anchored hown hwhole]

theorem isMatch_iff (text : String) (own : Regex) (path : String) :
    isMatch ⟨text, own.betweenEnds⟩ path = true ↔
      Regex.Describes path.toList own 0 path.toList.length :=
  Regex.occursIn_betweenEnds own path.toList

end PathPattern

namespace Filter

variable {σ : Type}

/-- Whatever flags, alternatives, repetitions and assertions are in a pattern that is
well formed on its own, whatever properties it names and whatever the engine makes of
them: the filter for it accepts exactly the paths that it describes from their start to
their end, and the negated filter exactly the others.  Around the expression of the
pattern itself stand the assertions for both ends of the text, not of a line. -/
theorem matching_accepts_whole_paths {engine : Engine} {text : String} {own : Regex}
    {filter : Filter σ} (hown : Regex.ofPattern? engine text.toList = .ok own)
    (hfilter : matching text engine = .ok filter) :
    filter = .pathMatches ⟨text, .sequences [.test .textStart, own, .test .textEnd]⟩ ∧
      notMatching text engine = .ok (.negation filter) ∧
      ∀ (repository : Repository σ) (scope : Scope) (path : String) (batch : Batch σ),
        ∃ accepted,
          filter.accepts repository scope path batch = (.ok accepted, batch) ∧
          (Filter.negation filter).accepts repository scope path batch =
            (.ok (!accepted), batch) ∧
          (accepted = true ↔ Regex.Describes path.toList own 0 path.toList.length) := by
  unfold matching at hfilter
  rcases hpattern : PathPattern.ofText? text engine with error | pattern
  · rw [hpattern] at hfilter
    cases hfilter
  · rw [hpattern] at hfilter
    cases hfilter
    obtain rfl := PathPattern.regex_ofText? hown hpattern
    refine ⟨rfl, ?_, ?_⟩
    · rw [notMatching, hpattern]
      rfl
    · intro repository scope path batch
      exact ⟨_, rfl, rfl, PathPattern.isMatch_iff text own path⟩

/-- A pattern with flags, alternatives, a property and assertions of its own, among them
a dollar sign that means the end of a line. -/
theorem matching_accepts_whole_lines :
    ∃ (own : Regex) (filter : Filter Unit),
      Regex.ofPattern? .standard "(?im)/A+?$|^\\b\\pL(?s:.){2,3}|".toList = .ok own ∧
        matching "(?im)/A+?$|^\\b\\pL(?s:.){2,3}|" = .ok filter ∧
        ∀ (repository : Repository Unit) (path : String) (batch : Batch Unit),
          ∃ accepted,
            filter.accepts repository none path batch = (.ok accepted, batch) ∧
            (Filter.negation filter).accepts repository none path batch =
              (.ok (!accepted), batch) ∧
            (accepted = true ↔
              Regex.Describes path.toList own 0 path.toList.length) := by
  have hread :
      (Regex.ofPattern? .standard "(?im)/A+?$|^\\b\\pL(?s:.){2,3}|".toList).isOk =
      true := by decide +kernel
  have haccepted : (matching "(?im)/A+?$|^\\b\\pL(?s:.){2,3}|" :
      Except _ (Filter Unit)).isOk = true := by
    decide +kernel
  rcases hown : Regex.ofPattern? .standard "(?im)/A+?$|^\\b\\pL(?s:.){2,3}|".toList with
      fault | own
  · rw [hown] at hread
    cases hread
  rcases hfilter : (matching "(?im)/A+?$|^\\b\\pL(?s:.){2,3}|" :
      Except _ (Filter Unit)) with error | filter
  · rw [hfilter] at haccepted
    cases haccepted
  obtain ⟨-, -, haccepts⟩ := matching_accepts_whole_paths hown hfilter
  exact ⟨own, filter, rfl, rfl,
    fun repository path batch => haccepts repository none path batch⟩

example :
    (PathPattern.ofText? "(?im)/A+?$|^\\b(?s:.){2,3}|").toOption.map
      (fun pattern => ["/aAa", "", "/a\n", "x\n/a", "x\n"].map pattern.isMatch) =
      some [true, true, false, false, true] := by
  decide +kernel

/-- An engine that knows a script besides. -/
example :
    let engine : Engine := { Engine.standard with
      property? name :=
        if name = .named "Greek".toList then
          some fun code => 0x370 ≤ code && code < 0x400
        else Engine.standard.property? name }
    (PathPattern.ofText? "\\p\x7bGreek\x7d+|\\pL" engine).toOption.map
      (fun pattern => ["\u03b1\u03b2", "ab", "a"].map pattern.isMatch) =
      some [true, false, true] := by
  decide +kernel

end Filter

end ContentBatch
