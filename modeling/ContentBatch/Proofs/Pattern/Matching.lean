import ContentBatch.Pattern.Expression

/-!
# Which stretches a pattern describes

Matching works on sets of places: `Expression.ends` takes all places where a stretch may
begin to all places where it may end, with the loops cut off where nothing new can be
found.  This module says what a pattern means without any sets, and that the sets are
right.

`Regex.Describes` is the meaning: the stretch of a text from one place to another is
described by an expression.  Repetitions are strung together by `Iterated`; how often
depends on nothing but the bounds.

## Main results

* `Places.testBit_times`, `Places.testBit_reach`: the loops find what is reached in so
  many moves.
* `Places.Follows.sequence`, `Places.Follows.choice`, `Places.Follows.repetition`: steps
  put together follow moves put together.
* `Regex.testBit_ends`: the places found are the ends of the stretches described.
* `Regex.occursIn_iff`: a search succeeds if and only if some stretch of the text is
  described.
-/

namespace ContentBatch.Pattern

/-! ## The meaning of an expression -/

/-- From one place to another by a number of moves, one after the other. -/
inductive Iterated (Move : Nat → Nat → Prop) : Nat → Nat → Nat → Prop where
  | none {place : Nat} : Iterated Move 0 place place
  | next {count first second last : Nat} :
      Move first second → Iterated Move count second last →
      Iterated Move (count + 1) first last

/-- Whether an assertion holds at a place of a text, between the character before it and
the one after. -/
def Assertion.holdsAt (assertion : Assertion) (text : List Char) (place : Nat) : Bool :=
  assertion.holds (text.take place).getLast? (text.drop place).head?

namespace Regex

/-- An expression describes the stretch of a text from one place to another.  A
repetition describes what its body describes `least` times, and up to `greatest - least`
times more. -/
def Describes (text : List Char) : Regex → Nat → Nat → Prop
  | .empty, first, last => first = last
  | .step set, first, last =>
    last = first + 1 ∧ ∃ c ∈ text[first]?, set.mem c.toNat = true
  | .test assertion, first, last =>
    first = last ∧ first ≤ text.length ∧ assertion.holdsAt text first = true
  | .sequence former latter, first, last =>
    ∃ middle, Describes text former first middle ∧ Describes text latter middle last
  | .choice left right, first, last =>
    Describes text left first last ∨ Describes text right first last
  | .repetition body least greatest, first, last =>
    ∃ extra, (∀ most ∈ greatest, extra ≤ most - least) ∧
      Iterated (Describes text body) (least + extra) first last

end Regex

/-! ## Moves -/

namespace Iterated

variable {Move : Nat → Nat → Prop} {count more first middle last length : Nat}

theorem append (hformer : Iterated Move count first middle)
    (hlatter : Iterated Move more middle last) :
    Iterated Move (count + more) first last := by
  induction hformer with
  | none =>
      rw [Nat.zero_add]
      exact hlatter
  | next hmove _ ih =>
      rw [Nat.add_right_comm]
      exact .next hmove (ih hlatter)

theorem split (h : Iterated Move (count + more) first last) :
    ∃ middle, Iterated Move count first middle ∧ Iterated Move more middle last := by
  induction count generalizing first with
  | zero =>
      rw [Nat.zero_add] at h
      exact ⟨first, .none, h⟩
  | succ count ih =>
      rw [Nat.add_right_comm] at h
      cases h with
      | next hmove hrest =>
          obtain ⟨middle, hcount, hmore⟩ := ih hrest
          exact ⟨middle, .next hmove hcount, hmore⟩

/-- What no move leaves, no moves leave. -/
theorem stays {Inside : Nat → Prop}
    (hinside : ∀ first last, Inside first → Move first last → Inside last)
    (h : Iterated Move count first last) (hfirst : Inside first) : Inside last := by
  induction h with
  | none => exact hfirst
  | next hmove _ ih => exact ih (hinside _ _ hfirst hmove)

/-- If moves go forward within a length or stay, then no more moves are needed than
there are places to go forward to. -/
theorem shorten
    (hforward : ∀ first last, Move first last →
      first = last ∨ first < last ∧ last ≤ length)
    (h : Iterated Move count first last) :
    ∃ fewer, fewer ≤ length ∧ Iterated Move fewer first last := by
  -- each move that stays where it is can be left out, and the others gain a place
  have hfewer : ∃ fewer, fewer + first ≤ last ∧ (fewer = 0 ∨ last ≤ length) ∧
      Iterated Move fewer first last := by
    induction h with
    | none => exact ⟨0, by omega, .inl rfl, .none⟩
    | next hmove _ ih =>
        obtain ⟨fewer, hgain, hlength, hrest⟩ := ih
        rcases hforward _ _ hmove with rfl | ⟨hlt, hle⟩
        · exact ⟨fewer, hgain, hlength, hrest⟩
        · refine ⟨fewer + 1, by omega, .inr ?_, .next hmove hrest⟩
          rcases hlength with rfl | hlength
          · cases hrest
            exact hle
          · exact hlength
  obtain ⟨fewer, hgain, hlength, hfewer⟩ := hfewer
  exact ⟨fewer, by omega, hfewer⟩

end Iterated

/-! ## Sets of places -/

namespace Places

variable {Move : Nat → Nat → Prop} {move : Places → Places} {places : Places}
  {place : Nat}

/-- A step on sets of places makes all moves at once. -/
def Follows (move : Places → Places) (Move : Nat → Nat → Prop) : Prop :=
  ∀ places last, (move places).testBit last = true ↔
    ∃ first, places.testBit first = true ∧ Move first last

theorem testBit_ofBits (bits : List Bool) (place : Nat) :
    (ofBits bits).testBit place = true ↔ bits[place]? = some true := by
  induction bits generalizing place with
  | nil => simp [ofBits]
  | cons bit bits ih =>
      cases place with
      | zero => cases bit <;> simp [ofBits, Nat.testBit_zero, Nat.add_mod]
      | succ place =>
          have hhalf : (bit.toNat + 2 * ofBits bits) / 2 = ofBits bits := by
            have hbit := bit.toNat_le
            omega
          rw [ofBits, Nat.testBit_succ, hhalf, List.getElem?_cons_succ]
          exact ih place

theorem testBit_all (length place : Nat) :
    (all length).testBit place = true ↔ place ≤ length := by
  unfold all
  rw [Nat.one_shiftLeft, Nat.testBit_two_pow_sub_one, decide_eq_true_eq,
    Nat.lt_succ_iff]

theorem exists_iterated_zero (places : Places) (last : Nat) :
    (∃ first, places.testBit first = true ∧ Iterated Move 0 first last) ↔
      places.testBit last = true := by
  constructor
  · rintro ⟨first, hfirst, ⟨⟩⟩
    exact hfirst
  · intro hlast
    exact ⟨last, hlast, .none⟩

/-- The first of several moves, made from all places at once. -/
theorem exists_iterated_succ (hmove : Follows move Move) (count : Nat) (places : Places)
    (last : Nat) :
    (∃ first, places.testBit first = true ∧ Iterated Move (count + 1) first last) ↔
      ∃ second, (move places).testBit second = true ∧
        Iterated Move count second last := by
  constructor
  · rintro ⟨first, hfirst, hmoves⟩
    cases hmoves with
    | next hmoved hrest => exact ⟨_, (hmove places _).2 ⟨first, hfirst, hmoved⟩, hrest⟩
  · rintro ⟨second, hsecond, hrest⟩
    obtain ⟨first, hfirst, hmoved⟩ := (hmove places second).1 hsecond
    exact ⟨first, hfirst, .next hmoved hrest⟩

/-- Once nothing changes, any number of moves leads to the same places. -/
theorem exists_iterated_of_fixed (hmove : Follows move Move)
    (hfixed : move places = places) (count last : Nat) :
    (∃ first, places.testBit first = true ∧ Iterated Move count first last) ↔
      places.testBit last = true := by
  induction count with
  | zero => exact exists_iterated_zero places last
  | succ count ih => rw [exists_iterated_succ hmove, hfixed, ih]

theorem testBit_times (hmove : Follows move Move) (count : Nat) (places : Places)
    (last : Nat) :
    (times move count places).testBit last = true ↔
      ∃ first, places.testBit first = true ∧ Iterated Move count first last := by
  induction count generalizing places with
  | zero => exact (exists_iterated_zero places last).symm
  | succ count ih =>
      rw [times]
      by_cases hfixed : move places = places
      · rw [if_pos hfixed]
        exact (exists_iterated_of_fixed hmove hfixed (count + 1) last).symm
      · rw [if_neg hfixed, ih, exists_iterated_succ hmove]

/-- The search keeps the places whose moves have not been followed yet apart from the
others; the moves of the others lead to places that are reached already. -/
structure Frontier (Move : Nat → Nat → Prop) (newest reached : Places) : Prop where
  inside : ∀ place, newest.testBit place = true → reached.testBit place = true
  followed : ∀ first last, reached.testBit first = true → newest.testBit first = false →
    Move first last → reached.testBit last = true

/-- A search begins with all its places still to be followed. -/
theorem Frontier.start (Move : Nat → Nat → Prop) (places : Places) :
    Frontier Move places places where
  inside _ hplace := hplace
  followed first last hfirst hold := by
    rw [hfirst] at hold
    cases hold

/-- The places that the newest ones lead to and that are not reached yet. -/
def found (move : Places → Places) (newest reached : Places) : Places :=
  (move newest ||| reached) ^^^ reached

theorem testBit_found (hmove : Follows move Move) (newest reached : Places)
    (place : Nat) :
    (found move newest reached).testBit place = true ↔
      (∃ first, newest.testBit first = true ∧ Move first place) ∧
      reached.testBit place = false := by
  rw [← hmove newest place, found, Nat.testBit_xor, Nat.testBit_or]
  cases (move newest).testBit place <;> cases reached.testBit place <;> decide

theorem testBit_union (reached found : Places) (place : Nat) :
    (reached ||| found).testBit place = true ↔
      reached.testBit place = true ∨ found.testBit place = true := by
  rw [Nat.testBit_or, Bool.or_eq_true]

section Frontier

variable {newest reached : Places}

/-- Every move from a reached place leads to a place that is reached or found. -/
theorem Frontier.leads (hfrontier : Frontier Move newest reached)
    (hmove : Follows move Move) {first last : Nat}
    (hfirst : reached.testBit first = true) (hmoved : Move first last) :
    reached.testBit last = true ∨ (found move newest reached).testBit last = true := by
  rcases hnew : newest.testBit first
  · exact .inl (hfrontier.followed first last hfirst hnew hmoved)
  · rcases hlast : reached.testBit last
    · exact .inr
        ((testBit_found hmove newest reached last).2 ⟨⟨first, hnew, hmoved⟩, hlast⟩)
    · exact .inl rfl

theorem Frontier.next (hfrontier : Frontier Move newest reached)
    (hmove : Follows move Move) :
    Frontier Move (found move newest reached)
      (reached ||| found move newest reached) where
  inside place hplace := (testBit_union _ _ _).2 (.inr hplace)
  followed first last hfirst hold hmoved := by
    rcases (testBit_union _ _ _).1 hfirst with hfirst | hfirst
    · exact (testBit_union _ _ _).2 (hfrontier.leads hmove hfirst hmoved)
    · rw [hold] at hfirst
      cases hfirst

/-- If nothing is found, then no move leaves the reached places. -/
theorem Frontier.closed (hfrontier : Frontier Move newest reached)
    (hmove : Follows move Move) (hnothing : found move newest reached = 0)
    (first last : Nat) (hfirst : reached.testBit first = true)
    (hmoved : Move first last) :
    reached.testBit last = true := by
  rcases hfrontier.leads hmove hfirst hmoved with hlast | hlast
  · exact hlast
  · rw [hnothing, Nat.zero_testBit] at hlast
    cases hlast

theorem testBit_reach (hmove : Follows move Move) (rounds : Nat)
    (hfrontier : Frontier Move newest reached) (last : Nat) :
    (reach move rounds newest reached).testBit last = true ↔
      ∃ first count, reached.testBit first = true ∧ count ≤ rounds ∧
        Iterated Move count first last := by
  induction rounds generalizing newest reached with
  | zero =>
      constructor
      · intro hlast
        exact ⟨last, 0, hlast, Nat.le_refl 0, .none⟩
      · rintro ⟨first, count, hfirst, hcount, hmoves⟩
        obtain rfl := Nat.le_zero.1 hcount
        cases hmoves
        exact hfirst
  | succ rounds ih =>
      rw [reach]
      show (if found move newest reached = 0 then reached
        else reach move rounds (found move newest reached)
          (reached ||| found move newest reached)).testBit last = true ↔ _
      by_cases hnothing : found move newest reached = 0
      · rw [if_pos hnothing]
        constructor
        · intro hlast
          exact ⟨last, 0, hlast, Nat.zero_le _, .none⟩
        · rintro ⟨first, count, hfirst, _, hiterated⟩
          exact Iterated.stays (hfrontier.closed hmove hnothing) hiterated hfirst
      · rw [if_neg hnothing, ih (hfrontier.next hmove)]
        constructor
        · rintro ⟨first, count, hfirst, hcount, hiterated⟩
          rcases (testBit_union _ _ _).1 hfirst with hfirst | hfirst
          · exact ⟨first, count, hfirst, by omega, hiterated⟩
          · obtain ⟨⟨before, hbefore, hmoved⟩, _⟩ :=
              (testBit_found hmove _ _ _).1 hfirst
            exact ⟨before, count + 1, hfrontier.inside before hbefore, by omega,
              .next hmoved hiterated⟩
        · rintro ⟨first, count, hfirst, hcount, hiterated⟩
          cases hiterated with
          | none =>
            exact ⟨last, 0, (testBit_union _ _ _).2 (.inl hfirst), Nat.zero_le _, .none⟩
          | next hmoved hrest =>
              exact ⟨_, _,
                (testBit_union _ _ _).2 (hfrontier.leads hmove hfirst hmoved), by omega,
                hrest⟩

end Frontier

/-! ### Steps from steps -/

namespace Follows

variable {former latter : Places → Places} {Former Latter : Nat → Nat → Prop}

theorem sequence (hformer : Follows former Former) (hlatter : Follows latter Latter) :
    Follows (fun places => if former places = 0 then 0 else latter (former places))
      fun first last => ∃ middle, Former first middle ∧ Latter middle last := by
  intro places last
  have hmiddles :
      (∃ middle, (former places).testBit middle = true ∧ Latter middle last) ↔
      ∃ first, places.testBit first = true ∧ ∃ middle, Former first middle ∧
        Latter middle last := by
    constructor
    · rintro ⟨middle, hmiddle, hsecond⟩
      obtain ⟨first, hplace, hfirst⟩ := (hformer places middle).1 hmiddle
      exact ⟨first, hplace, middle, hfirst, hsecond⟩
    · rintro ⟨first, hplace, middle, hfirst, hsecond⟩
      exact ⟨middle, (hformer places middle).2 ⟨first, hplace, hfirst⟩, hsecond⟩
  rw [← hmiddles]
  show (if former places = 0 then 0 else latter (former places)).testBit last = true ↔ _
  by_cases hnone : former places = 0
  · rw [if_pos hnone]
    simp only [hnone, Nat.zero_testBit, Bool.false_eq_true, false_and, exists_false]
  · rw [if_neg hnone]
    exact hlatter (former places) last

theorem choice (hformer : Follows former Former) (hlatter : Follows latter Latter) :
    Follows (fun places => former places ||| latter places)
      fun first last => Former first last ∨ Latter first last := by
  intro places last
  rw [testBit_union, hformer, hlatter]
  constructor
  · rintro (⟨first, hplace, hmoved⟩ | ⟨first, hplace, hmoved⟩)
    · exact ⟨first, hplace, .inl hmoved⟩
    · exact ⟨first, hplace, .inr hmoved⟩
  · rintro ⟨first, hplace, hmoved | hmoved⟩
    · exact .inl ⟨first, hplace, hmoved⟩
    · exact .inr ⟨first, hplace, hmoved⟩

theorem repetition (hmove : Follows move Move) (least rounds : Nat) :
    Follows (fun places =>
      reach move rounds (times move least places) (times move least places))
      fun first last => ∃ extra, extra ≤ rounds ∧
        Iterated Move (least + extra) first last := by
  intro places last
  rw [testBit_reach hmove rounds (.start Move _)]
  constructor
  · rintro ⟨middle, extra, hmiddle, hextra, hmore⟩
    obtain ⟨first, hfirst, hleast⟩ :=
      (testBit_times hmove least places middle).1 hmiddle
    exact ⟨first, hfirst, extra, hextra, hleast.append hmore⟩
  · rintro ⟨first, hfirst, extra, hextra, hiterated⟩
    obtain ⟨middle, hleast, hmore⟩ := hiterated.split
    exact ⟨middle, extra,
      (testBit_times hmove least places middle).2 ⟨first, hfirst, hleast⟩,
      hextra, hmore⟩

end Follows

end Places

/-! ## Steps and tests in a text -/

theorem testBit_stepsOver (text : List Char) (set : ResolvedSet) (place : Nat) :
    (stepsOver text set).testBit place = true ↔
    ∃ c ∈ text[place]?, set.mem c.toNat = true := by
  unfold stepsOver
  rw [Places.testBit_ofBits, List.getElem?_map, Option.map_eq_some_iff]
  rfl

/-- The truths of an assertion are those at the places of the text, if the text before
them is given by its last character. -/
theorem testsOf_getElem? (assertion : Assertion) (before text : List Char)
    (place : Nat) :
    (testsOf assertion before.getLast? text)[place]? =
      if place ≤ text.length then
        some (assertion.holds (before ++ text.take place).getLast?
          (text.drop place).head?)
      else none := by
  induction text generalizing before place with
  | nil =>
      cases place with
      | zero => simp [testsOf]
      | succ place => simp [testsOf]
  | cons c rest ih =>
      cases place with
      | zero => simp [testsOf]
      | succ place =>
          have hbefore : some c = (before ++ [c]).getLast? := by simp
          rw [testsOf, List.getElem?_cons_succ, hbefore, ih]
          simp

theorem testBit_testsIn (text : List Char) (assertion : Assertion) (place : Nat) :
    (testsIn text assertion).testBit place = true ↔
      place ≤ text.length ∧ assertion.holdsAt text place = true := by
  have hplace := testsOf_getElem? assertion [] text place
  rw [List.getLast?_nil, List.nil_append] at hplace
  unfold testsIn
  rw [Places.testBit_ofBits, hplace]
  by_cases hle : place ≤ text.length
  · rw [if_pos hle, Option.some_inj]
    exact (and_iff_right hle).symm
  · rw [if_neg hle]
    simp [hle]

/-! ## Matching -/

namespace Regex

variable {text : List Char}

/-- Stretches go forward and end within the text; only empty stretches may lie beyond
it. -/
theorem Describes.forward {regex : Regex} {first last : Nat}
    (h : Describes text regex first last) :
    first = last ∨ first < last ∧ last ≤ text.length := by
  induction regex generalizing first last with
  | empty => exact .inl h
  | step set =>
      obtain ⟨rfl, c, hc, _⟩ := h
      obtain ⟨hlt, _⟩ := List.getElem?_eq_some_iff.1 hc
      exact .inr ⟨by omega, hlt⟩
  | test assertion => exact .inl h.1
  | sequence former latter ihformer ihlatter =>
      obtain ⟨middle, hformer, hlatter⟩ := h
      have hfirst := ihformer hformer
      have hlast := ihlatter hlatter
      omega
  | choice left right ihleft ihright =>
      rcases h with hleft | hright
      · exact ihleft hleft
      · exact ihright hright
  | repetition body least greatest ih =>
      obtain ⟨extra, _, hiterated⟩ := h
      generalize least + extra = count at hiterated
      induction hiterated with
      | none => exact .inl rfl
      | next hmove _ ihrest =>
          have hfirst := ih hmove
          omega

theorem follows_step (text : List Char) (set : ResolvedSet) :
    Places.Follows (fun places => (places &&& stepsOver text set) <<< 1)
      (Describes text (.step set)) := by
  intro places last
  rw [Nat.testBit_shiftLeft, Nat.testBit_and, Bool.and_eq_true, Bool.and_eq_true,
    decide_eq_true_eq, testBit_stepsOver]
  constructor
  · rintro ⟨hone, hfirst, hstep⟩
    exact ⟨last - 1, hfirst, by omega, hstep⟩
  · rintro ⟨first, hfirst, rfl, hstep⟩
    rw [Nat.add_sub_cancel]
    exact ⟨by omega, hfirst, hstep⟩

theorem follows_test (text : List Char) (assertion : Assertion) :
    Places.Follows (fun places => places &&& testsIn text assertion)
      (Describes text (.test assertion)) := by
  intro places last
  rw [Nat.testBit_and, Bool.and_eq_true, testBit_testsIn]
  constructor
  · rintro ⟨hlast, htest⟩
    exact ⟨last, hlast, rfl, htest⟩
  · rintro ⟨first, hfirst, rfl, htest⟩
    exact ⟨hfirst, htest⟩

/-- The places that matching finds are the ends of the stretches that an expression
describes. -/
theorem testBit_ends (text : List Char) (regex : Regex) :
    Places.Follows ((located regex text).ends text.length) (Describes text regex) := by
  induction regex with
  | empty =>
      intro places last
      constructor
      · intro hlast
        exact ⟨last, hlast, rfl⟩
      · rintro ⟨first, hfirst, rfl⟩
        exact hfirst
  | step set => exact follows_step text set
  | test assertion => exact follows_test text assertion
  | sequence former latter ihformer ihlatter => exact ihformer.sequence ihlatter
  | choice left right ihleft ihright => exact ihleft.choice ihright
  | repetition body least greatest ih =>
      intro places last
      cases greatest with
      | some greatest =>
          refine (ih.repetition least (greatest - least) places last).trans ?_
          constructor
          · rintro ⟨first, hfirst, extra, hextra, hiterated⟩
            refine ⟨first, hfirst, extra, ?_, hiterated⟩
            rintro most ⟨⟩
            exact hextra
          · rintro ⟨first, hfirst, extra, hextra, hiterated⟩
            exact ⟨first, hfirst, extra, hextra greatest rfl, hiterated⟩
      | none =>
          -- as many more rounds as the text is long are enough
          refine (ih.repetition least text.length places last).trans ?_
          constructor
          · rintro ⟨first, hfirst, extra, _, hiterated⟩
            refine ⟨first, hfirst, extra, ?_, hiterated⟩
            rintro most ⟨⟩
          · rintro ⟨first, hfirst, extra, _, hiterated⟩
            obtain ⟨middle, hleast, hmore⟩ := hiterated.split
            obtain ⟨fewer, hfewer, hmore⟩ :=
              hmore.shorten (fun _ _ hmove => Describes.forward hmove)
            exact ⟨first, hfirst, fewer, hfewer, hleast.append hmore⟩

/-- A search succeeds if and only if some stretch of the text is described. -/
theorem occursIn_iff (regex : Regex) (text : List Char) :
    regex.occursIn text = true ↔
      ∃ first last, first ≤ text.length ∧ Describes text regex first last := by
  unfold occursIn
  rw [bne_iff_ne]
  constructor
  · intro hsome
    obtain ⟨last, hlast⟩ := Nat.exists_testBit_of_ne_zero hsome
    obtain ⟨first, hfirst, hdescribes⟩ := (testBit_ends text regex _ last).1 hlast
    exact ⟨first, last, (Places.testBit_all _ _).1 hfirst, hdescribes⟩
  · rintro ⟨first, last, hfirst, hdescribes⟩ hnone
    have hlast := (testBit_ends text regex _ last).2
      ⟨first, (Places.testBit_all _ _).2 hfirst, hdescribes⟩
    rw [hnone, Nat.zero_testBit] at hlast
    cases hlast

end Regex

end ContentBatch.Pattern
