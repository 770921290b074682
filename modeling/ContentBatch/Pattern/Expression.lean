import ContentBatch.Pattern.Assertion

/-!
# Regular expressions

An `Expression` describes stretches of a text. It is built from steps over one character
and tests of one place; what these are is left open, so that they can be names of
characters and assertions at first and places of a given text later.

`WrittenRegex` is the form that patterns are read into, and `Regex` what it becomes when
an engine knows all properties that are named in it. `Places` are the numbers of places
in a text as the bits of a natural number: place `i` is before character `i`, and the
last place is the end of the text. `Expression.ends` takes all places where a stretch
may begin to all places where it may end, so its cost does not depend on how many ways
there are to match.
-/

namespace ContentBatch.Pattern

/-- Descriptions of stretches of text, over steps `α` and tests `β`. -/
inductive Expression (α β : Type) where
  | empty
  | step (passed : α)
  | test (here : β)
  | sequence (first second : Expression α β)
  | choice (left right : Expression α β)
  | repetition (body : Expression α β) (least : Nat) (greatest : Option Nat)
  deriving Repr

/-- Regular expressions with the names of properties in them. -/
abbrev WrittenRegex := Expression WrittenSet Assertion

/-- Regular expressions over characters. -/
abbrev Regex := Expression ResolvedSet Assertion

/-- Sets of places in a text, as bits. -/
abbrev Places := Nat

namespace Expression

variable {α β α' β' : Type}

/-- The same expression over other steps and tests. -/
def map (onStep : α → α') (onTest : β → β') : Expression α β → Expression α' β'
  | empty => empty
  | step passed => step (onStep passed)
  | test here => test (onTest here)
  | sequence first second =>
    sequence (first.map onStep onTest) (second.map onStep onTest)
  | choice left right => choice (left.map onStep onTest) (right.map onStep onTest)
  | repetition body least greatest => repetition (body.map onStep onTest) least greatest

/-- The same expression over other steps, if there is one for each step. -/
def mapSteps? (onStep : α → Option α') : Expression α β → Option (Expression α' β)
  | empty => some empty
  | step passed => (onStep passed).map step
  | test here => some (test here)
  | sequence first second => do
    return sequence (← first.mapSteps? onStep) (← second.mapSteps? onStep)
  | choice left right => do
    return choice (← left.mapSteps? onStep) (← right.mapSteps? onStep)
  | repetition body least greatest => do
    return repetition (← body.mapSteps? onStep) least greatest

/-- Several expressions one after another. -/
def sequences : List (Expression α β) → Expression α β
  | [] => empty
  | [last] => last
  | first :: rest => sequence first (sequences rest)

/-- One of several expressions. -/
def choices : List (Expression α β) → Expression α β
  | [] => empty
  | [last] => last
  | first :: rest => choice first (choices rest)

end Expression

/-! ## Places -/

namespace Places

/-- Applies a step `count` times, or until nothing changes any more. -/
def times (move : Places → Places) : Nat → Places → Places
  | 0, places => places
  | count + 1, places =>
    let next := move places
    if next = places then places else times move count next

/-- The places reached in at most `rounds` steps: those reached already, and what is
reached from the newest of them. -/
def reach (move : Places → Places) : Nat → Places → Places → Places
  | 0, _, reached => reached
  | rounds + 1, newest, reached =>
    let found := (move newest ||| reached) ^^^ reached
    if found = 0 then reached else reach move rounds found (reached ||| found)

/-- The places at which a list of truth values is true. -/
def ofBits : List Bool → Places
  | [] => 0
  | bit :: bits => bit.toNat + 2 * ofBits bits

/-- Every place of a text of that length. -/
def all (length : Nat) : Places := (1 <<< (length + 1)) - 1

end Places

namespace Expression

/-- Where the stretches described by an expression end that begin at one of some places,
in a text of that length. A step is given by the places before its characters, a test by
the places where it holds. -/
def ends (length : Nat) : Expression Places Places → Places → Places
  | empty, places => places
  | step passed, places => (places &&& passed) <<< 1
  | test here, places => places &&& here
  | sequence first second, places =>
    let middle := first.ends length places
    if middle = 0 then 0 else second.ends length middle
  | choice left right, places => left.ends length places ||| right.ends length places
  | repetition body least greatest, places =>
    let start := Places.times (body.ends length) least places
    let rounds := match greatest with
      | some greatest => greatest - least
      | none => length
    Places.reach (body.ends length) rounds start start

end Expression

/-! ## Matching -/

/-- The places before the characters of a set. -/
def stepsOver (text : List Char) (set : ResolvedSet) : Places :=
  Places.ofBits (text.map fun c => set.mem c.toNat)

/-- The truth of an assertion at each place of a text, given the character before it. -/
def testsOf (assertion : Assertion) : Option Char → List Char → List Bool
  | before, [] => [assertion.holds before none]
  | before, c :: rest =>
    assertion.holds before (some c) :: testsOf assertion (some c) rest

/-- The places where an assertion holds. -/
def testsIn (text : List Char) (assertion : Assertion) : Places :=
  Places.ofBits (testsOf assertion none text)

namespace Regex

/-- An expression with its steps and tests worked out for a text. -/
def located (regex : Regex) (text : List Char) : Expression Places Places :=
  regex.map (stepsOver text) (testsIn text)

/-- Whether some stretch of a text is described by an expression. -/
def occursIn (regex : Regex) (text : List Char) : Bool :=
  (located regex text).ends text.length (Places.all text.length) != 0

end Regex

end ContentBatch.Pattern
