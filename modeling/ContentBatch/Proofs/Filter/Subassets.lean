import ContentBatch.Filter
import ContentBatch.Proofs.Pattern.Whole

/-!
# Paths below a folder of subassets

An expression without assertions does not look beyond the stretch that it describes, so
it describes words. `Regex.Spells` says which words these are, and is put together as
expressions are: characters in a row, and the wildcard for any characters, which stops
at the end of a line.

The pattern of everything below a folder of subassets is a word between two wildcards.
It describes a text as a whole if and only if the word is in it and the rest of it is
one line.

## Main results

* `Regex.spells_around`: which words a literal between two wildcards describes.
* `Filter.excludeSubassets_accepts`: which paths are rejected for their folder.
* `Filter.accepts_subasset_on_second_line`: a path below such a folder that is not.
-/

namespace ContentBatch

namespace Pattern

variable {text word front back : List Char} {first middle last : Nat}

/-! ## Stretches and their words -/

/-- The stretch of a text from one place to another reads as a word. -/
structure Stretch (text : List Char) (first last : Nat) (word : List Char) : Prop where
  last_eq : last = first + word.length
  isPrefix : word <+: text.drop first

theorem stretch_nil : Stretch text first last [] ↔ first = last := by
  constructor
  · intro h
    simpa using h.last_eq.symm
  · rintro rfl
    exact ⟨rfl, List.nil_prefix⟩

/-- One word after another is read from one place to a middle one, and from there on. -/
theorem stretch_append :
    Stretch text first last (front ++ back) ↔
      Stretch text first (first + front.length) front ∧
        Stretch text (first + front.length) last back := by
  have hdrop : text.drop (first + front.length) = (text.drop first).drop front.length :=
    List.drop_drop.symm
  constructor
  · rintro ⟨rfl, rest, hrest⟩
    have hfront : front <+: text.drop first :=
      ⟨back ++ rest, by rw [← hrest, List.append_assoc]⟩
    have hback : back <+: text.drop (first + front.length) := by
      rw [hdrop, ← hrest, List.append_assoc, List.drop_left]
      exact List.prefix_append back rest
    exact ⟨⟨rfl, hfront⟩, ⟨by simp [Nat.add_assoc], hback⟩⟩
  · rintro ⟨⟨-, rest, hrest⟩, ⟨rfl, hback⟩⟩
    refine ⟨by simp [Nat.add_assoc], ?_⟩
    rw [hdrop, ← hrest, List.drop_left] at hback
    rw [← hrest]
    exact (List.prefix_append_right_inj front).2 hback

theorem stretch_whole : Stretch text 0 text.length word ↔ word = text := by
  constructor
  · rintro ⟨hlength, hprefix⟩
    exact hprefix.eq_of_length (by simpa using hlength.symm)
  · rintro rfl
    exact ⟨by simp, by simp⟩

theorem stretch_single {c : Char} :
    Stretch text first last [c] ↔ last = first + 1 ∧ text[first]? = some c := by
  have hhead : [c] <+: text.drop first ↔ text[first]? = some c := by
    rw [← List.head?_drop]
    cases text.drop first with
    | nil => simp
    | cons d rest => simp [List.cons_prefix_cons, eq_comm]
  constructor
  · rintro ⟨hlast, hprefix⟩
    exact ⟨hlast, hhead.1 hprefix⟩
  · rintro ⟨hlast, hc⟩
    exact ⟨hlast, hhead.2 hc⟩

theorem CharSet.mem_single {c d : Char} : (single c).mem d.toNat = true ↔ d = c := by
  have hcode : d.toNat = c.toNat ↔ d = c := Char.toNat_inj
  rw [← hcode]
  simp only [single, mem, Bool.and_eq_true, decide_eq_true_eq]
  omega

/-! ## Expressions that describe words -/

namespace Regex

/-- Whatever text it is found in, an expression describes the stretches that read as one
of some words. -/
def Spells (regex : Regex) (Word : List Char → Prop) : Prop :=
  ∀ text first last, Describes text regex first last ↔
    ∃ word, Stretch text first last word ∧ Word word

variable {former latter body : Regex} {Former Latter Body Word : List Char → Prop}

theorem Spells.congr (h : former.Spells Former)
    (hwords : ∀ word, Former word ↔ Word word) :
    former.Spells Word := by
  intro text first last
  rw [h text first last]
  simp [hwords]

/-- The words of an expression are the texts that it describes as a whole. -/
theorem Spells.whole_iff (h : body.Spells Word) :
    Describes text body 0 text.length ↔ Word text := by
  rw [h text 0 text.length]
  simp [stretch_whole]

theorem spells_empty : Spells .empty fun word => word = [] := by
  intro text first last
  simp [Describes, stretch_nil]

theorem spells_step (set : ResolvedSet) :
    Spells (.step set) fun word => ∃ c, word = [c] ∧ set.mem c.toNat = true := by
  intro text first last
  constructor
  · rintro ⟨hlast, c, hc, hmem⟩
    exact ⟨[c], stretch_single.2 ⟨hlast, hc⟩, c, rfl, hmem⟩
  · rintro ⟨_, hstretch, c, rfl, hmem⟩
    obtain ⟨hlast, hc⟩ := stretch_single.1 hstretch
    exact ⟨hlast, c, hc, hmem⟩

theorem Spells.sequence (hformer : former.Spells Former)
    (hlatter : latter.Spells Latter) :
    Spells (.sequence former latter) fun word =>
      ∃ front back, word = front ++ back ∧ Former front ∧ Latter back := by
  intro text first last
  constructor
  · rintro ⟨middle, hfirst, hlast⟩
    obtain ⟨front, hfront, hFormer⟩ := (hformer text first middle).1 hfirst
    obtain ⟨back, hback, hLatter⟩ := (hlatter text middle last).1 hlast
    obtain rfl := hfront.last_eq
    exact ⟨front ++ back, stretch_append.2 ⟨hfront, hback⟩, front, back, rfl,
      hFormer, hLatter⟩
  · rintro ⟨_, hstretch, front, back, rfl, hFormer, hLatter⟩
    obtain ⟨hfront, hback⟩ := stretch_append.1 hstretch
    exact ⟨_, (hformer _ _ _).2 ⟨front, hfront, hFormer⟩,
      (hlatter _ _ _).2 ⟨back, hback, hLatter⟩⟩

/-- The first of several expressions, and then the others. -/
theorem Spells.cons {rest : List Regex} (hformer : former.Spells Former)
    (hrest : Spells (.sequences rest) Latter) :
    Spells (.sequences (former :: rest)) fun word =>
      ∃ front back, word = front ++ back ∧ Former front ∧ Latter back := by
  cases rest with
  | cons next rest => exact hformer.sequence hrest
  | nil =>
      -- a sequence of one expression is that expression, with nothing after it
      have hnothing : ∀ back, Latter back ↔ back = [] := fun _ =>
        hrest.whole_iff.symm.trans spells_empty.whole_iff
      refine hformer.congr ?_
      intro word
      simp [hnothing]

/-- Characters in a row, and what comes after them. -/
theorem Spells.literal {rest : List Regex} (literal : List Char)
    (hrest : Spells (.sequences rest) Latter) :
    Spells (.sequences (literal.map (fun c => .step (.single c)) ++ rest)) fun word =>
      ∃ back, word = literal ++ back ∧ Latter back := by
  induction literal with
  | nil => simpa using hrest
  | cons c literal ih =>
      refine ((spells_step (.single c)).cons ih).congr ?_
      intro word
      constructor
      · rintro ⟨_, _, rfl, ⟨d, rfl, hd⟩, back, rfl, hback⟩
        have hsame : d = c := CharSet.mem_single.1 hd
        exact ⟨back, by rw [hsame]; rfl, hback⟩
      · rintro ⟨back, rfl, hback⟩
        exact ⟨[c], literal ++ back, rfl, ⟨c, rfl, CharSet.mem_single.2 rfl⟩,
          back, rfl, hback⟩

/-- As many characters of a set as there are moves. -/
theorem iterated_step (set : ResolvedSet) (count : Nat) :
    Iterated (Describes text (.step set)) count first last ↔
      ∃ word, Stretch text first last word ∧ word.length = count ∧
        ∀ c ∈ word, set.mem c.toNat = true := by
  induction count generalizing first with
  | zero =>
      constructor
      · rintro ⟨⟩
        exact ⟨[], stretch_nil.2 rfl, rfl, by simp⟩
      · rintro ⟨word, hstretch, hlength, -⟩
        obtain rfl := List.length_eq_zero_iff.1 hlength
        obtain rfl := stretch_nil.1 hstretch
        exact .none
  | succ count ih =>
      constructor
      · rintro (_ | ⟨hmove, hrest⟩)
        obtain ⟨_, hhead, c, rfl, hc⟩ := (spells_step set _ _ _).1 hmove
        obtain ⟨word, htail, rfl, hword⟩ := ih.1 hrest
        obtain rfl := hhead.last_eq
        refine ⟨[c] ++ word, stretch_append.2 ⟨hhead, htail⟩, by simp, ?_⟩
        simpa [hc] using hword
      · rintro ⟨_ | ⟨c, word⟩, hstretch, hlength, hmem⟩
        · cases hlength
        have hword : ∀ d ∈ word, set.mem d.toNat = true :=
          fun d hd => hmem d (by simp [hd])
        have hsplit := (@stretch_append text [c] word first last).1 hstretch
        have hhead :=
          (spells_step set _ _ _).2 ⟨[c], hsplit.1, c, rfl, hmem c (by simp)⟩
        exact .next hhead (ih.2 ⟨word, hsplit.2, by simpa using hlength, hword⟩)

/-- The wildcard stands for any characters within a line. -/
theorem spells_anything : Spells PathPattern.anything fun word => '\n' ∉ word := by
  intro text first last
  have hline : ∀ c : Char,
      (CharSet.complement (.single '\n')).mem c.toNat = true ↔ c ≠ '\n' := by
    intro c
    rw [CharSet.mem, Bool.not_eq_true', ← Bool.not_eq_true, CharSet.mem_single]
  constructor
  · rintro ⟨count, -, hmoves⟩
    obtain ⟨word, hstretch, -, hword⟩ := (iterated_step _ _).1 hmoves
    exact ⟨word, hstretch, fun hmem => (hline _).1 (hword _ hmem) rfl⟩
  · rintro ⟨word, hstretch, hword⟩
    have hmem : ∀ c ∈ word, (CharSet.complement (.single '\n')).mem c.toNat = true :=
      fun c hc => (hline c).2 fun hsame => hword (hsame ▸ hc)
    have hmoves := (iterated_step _ word.length).2 ⟨word, hstretch, rfl, hmem⟩
    rw [← Nat.zero_add word.length] at hmoves
    exact ⟨word.length, by simp, hmoves⟩

/-- A literal between two wildcards describes the words that contain it and have no end
of a line before it or after it. -/
theorem spells_around (literal : List Char) :
    Spells
      (.sequences ([PathPattern.anything] ++ literal.map (fun c => .step (.single c))
        ++ [PathPattern.anything])) fun word =>
        ∃ before after, word = before ++ literal ++ after ∧ '\n' ∉ before ∧
          '\n' ∉ after := by
  have hlast : Spells (.sequences [PathPattern.anything]) fun word => '\n' ∉ word :=
    spells_anything
  refine (spells_anything.cons (hlast.literal literal)).congr ?_
  intro word
  constructor
  · rintro ⟨before, _, rfl, hbefore, after, rfl, hafter⟩
    exact ⟨before, after, by rw [List.append_assoc], hbefore, hafter⟩
  · rintro ⟨before, after, rfl, hbefore, hafter⟩
    exact ⟨before, literal ++
      after, by rw [List.append_assoc], hbefore, after, rfl, hafter⟩

end Regex

end Pattern

open Pattern

/-! ## Subassets -/

namespace PathPattern

/-- The pattern of everything below a folder of subassets is what its text is read as.
It names no properties, so an engine can only find it too large. -/
theorem ofText?_subassets (engine : Engine) :
    ofText? ".*?/subassets/.*" engine =
      if engine.admits (anchored ".*?/subassets/.*").toList then .ok subassets
      else .error
        (.validation ("Invalid path pattern: " ++ Fault.tooLarge.message)) := by
  have hread : WrittenRegex.ofPattern? (anchored ".*?/subassets/.*").toList >>=
      (fun written => .ok (written.resolve engine)) = .ok (some subassets.regex) := rfl
  unfold ofText? Regex.ofPattern?
  rcases hwritten :
      WrittenRegex.ofPattern? (anchored ".*?/subassets/.*").toList with fault | written
  · rw [hwritten] at hread
    cases hread
  · rw [hwritten] at hread
    simp only [bind, Except.bind, Except.ok.injEq] at hread ⊢
    rw [hread]
    cases engine.admits (anchored ".*?/subassets/.*").toList <;> rfl

/-- A path matches the pattern if and only if it goes through a folder of subassets and
is a single line. -/
theorem isMatch_subassets (path : String) :
    subassets.isMatch path = true ↔
    "/subassets/".toList <:+: path.toList ∧ '\n' ∉ path.toList := by
  have hwhole : subassets.isMatch path = true ↔
      ∃ before after, path.toList = before ++ "/subassets/".toList ++ after ∧
        '\n' ∉ before ∧ '\n' ∉ after :=
    (isMatch_iff _ _ path).trans (Regex.spells_around "/subassets/".toList).whole_iff
  rw [hwhole]
  constructor
  · rintro ⟨before, after, hpath, hbefore, hafter⟩
    exact ⟨⟨before, after, hpath.symm⟩, by simp [hpath, hbefore, hafter]⟩
  · rintro ⟨⟨before, after, hpath⟩, hline⟩
    rw [← hpath] at hline
    simp only [List.mem_append, not_or] at hline
    exact ⟨before, after, hpath.symm, hline.1.1, hline.2⟩

end PathPattern

namespace Filter

variable {σ : Type}

/-- What is below a folder of subassets is rejected, if its path is a single line;
everything else is accepted. It is the filter that the text of the pattern gives for
every engine that admits the text, so both give the same verdict on every path. -/
theorem excludeSubassets_accepts (engine : Engine) (repository : Repository σ)
    (scope : Scope) (path : String) (batch : Batch σ) :
    (notMatching ".*?/subassets/.*" engine =
      if engine.admits (PathPattern.anchored ".*?/subassets/.*").toList then
        .ok (excludeSubassets : Filter σ)
      else .error (.validation ("Invalid path pattern: " ++ Fault.tooLarge.message))) ∧
      ∃ accepted,
        excludeSubassets.accepts repository scope path batch = (.ok accepted, batch) ∧
        (accepted = false ↔ "/subassets/".toList <:+: path.toList ∧
          '\n' ∉ path.toList) := by
  constructor
  · rw [notMatching, PathPattern.ofText?_subassets]
    cases engine.admits (PathPattern.anchored ".*?/subassets/.*").toList <;> rfl
  · refine ⟨!PathPattern.subassets.isMatch path, rfl, ?_⟩
    rw [Bool.not_eq_false']
    exact PathPattern.isMatch_subassets path

/-- A path below a folder of subassets, in the second line of the path, is not
rejected. -/
theorem accepts_subasset_on_second_line :
    "/subassets/".toList <:+: "/a\n/subassets/b".toList ∧
      ∀ (repository : Repository Unit) (scope : Scope) (batch : Batch Unit),
        excludeSubassets.accepts repository scope "/a\n/subassets/b" batch =
          (.ok true, batch) := by
  refine ⟨⟨"/a\n".toList, "b".toList, by decide⟩, ?_⟩
  intro repository scope batch
  have hmatch : PathPattern.subassets.isMatch "/a\n/subassets/b" = false := by
    decide +kernel
  show (Except.ok (!PathPattern.subassets.isMatch "/a\n/subassets/b"), batch) = _
  rw [hmatch]
  rfl

end Filter

end ContentBatch
