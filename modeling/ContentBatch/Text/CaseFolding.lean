import ContentBatch.Text.CaseFolding.Table

/-!
# Simple case folding

Case-insensitive matching identifies characters that fold to the same character.
`folded` is the folding, `caseVariants` lists the other characters of a class: the fold
itself and everything that folds to it.
-/

namespace ContentBatch.Text

/-- The code point that stands for all case variants of `code`. -/
def folded (code : Nat) : Nat :=
  shifted foldRuns code

/-- The code points with the same folding as the given one. -/
def caseVariants (code : Nat) : List Nat :=
  folded code :: preimages foldRuns (folded code)

end ContentBatch.Text
