import ContentBatch.Text.Lowercase.Table

/-!
# Small letters

Every character has a *small form* of one or more characters. Only U+0130, the capital I
with a dot, has one of two. The form does not depend on the neighbours of the character:
a capital sigma becomes the same small sigma at the end of a word as elsewhere.

Two texts are equal ignoring case when their small forms, written one after another,
agree.
-/

namespace ContentBatch.Text

/-- The small form of a character; characters without one stand for themselves. -/
def lowercase (c : Char) : List Char :=
  if c = '\u0130' then ['i', '\u0307'] else [Char.ofNat (shifted lowercaseRuns c.toNat)]

/-- The small forms of the characters of a text, one after another. -/
def lowercaseChars (text : String) : List Char :=
  text.toList.flatMap lowercase

/-- A text in small letters. -/
def lowercaseText (text : String) : String :=
  String.ofList (lowercaseChars text)

/-- Equality of the small forms. -/
def equalIgnoringCase (a b : String) : Bool :=
  lowercaseChars a == lowercaseChars b

theorem equalIgnoringCase_iff (a b : String) :
    equalIgnoringCase a b = true ↔ lowercaseChars a = lowercaseChars b := by
  simp [equalIgnoringCase]

end ContentBatch.Text
