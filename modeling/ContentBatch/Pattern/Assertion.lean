import ContentBatch.Pattern.CharSet

/-!
# Assertions

An assertion holds at some places of a text and takes no character. What it depends on
are the characters on both sides of the place; at the ends of the text one is missing.
-/

namespace ContentBatch.Pattern

/-- Where lines end: after a line feed, or after a line feed, a carriage return or both
together. -/
inductive LineEnding where
  | lineFeed
  | any
  deriving DecidableEq, Repr

/-- Conditions on a place in a text. The words of the last six are made of the given
characters. -/
inductive Assertion where
  | textStart
  | textEnd
  | lineStart (ending : LineEnding)
  | lineEnd (ending : LineEnding)
  | wordBoundary (word : ResolvedSet)
  | noWordBoundary (word : ResolvedSet)
  | wordStart (word : ResolvedSet)
  | wordEnd (word : ResolvedSet)
  | wordStartHalf (word : ResolvedSet)
  | wordEndHalf (word : ResolvedSet)

/-- Whether there is a character and it belongs to a set. -/
def isIn (set : ResolvedSet) : Option Char → Bool
  | some c => set.mem c.toNat
  | none => false

namespace Assertion

/-- Whether an assertion holds between two characters. -/
def holds : Assertion → Option Char → Option Char → Bool
  | textStart, before, _ => before.isNone
  | textEnd, _, after => after.isNone
  | lineStart .lineFeed, before, _ => before.isNone || before == some '\n'
  | lineEnd .lineFeed, _, after => after.isNone || after == some '\n'
  | lineStart .any, before, after =>
    before.isNone || before == some '\n' || (before == some '\r' && after != some '\n')
  | lineEnd .any, before, after =>
    after.isNone || after == some '\r' || (after == some '\n' && before != some '\r')
  | wordBoundary word, before, after => isIn word before != isIn word after
  | noWordBoundary word, before, after => isIn word before == isIn word after
  | wordStart word, before, after => !isIn word before && isIn word after
  | wordEnd word, before, after => isIn word before && !isIn word after
  | wordStartHalf word, before, _ => !isIn word before
  | wordEndHalf word, _, after => !isIn word after

end Assertion

end ContentBatch.Pattern
