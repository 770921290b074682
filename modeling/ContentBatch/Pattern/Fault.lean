/-!
# Faults of patterns

Why a text is no pattern.
-/

namespace ContentBatch.Pattern

/-- The causes for which a pattern is refused. -/
inductive Fault where
  | unclosedGroup
  | unopenedGroup
  | unclosedClass
  | lookAround
  | badGroupName
  | repeatedGroupName
  | badFlags
  | nothingToRepeat
  | badCount
  | badEscape
  | badCodePoint
  | unknownProperty
  | badRange
  | notACharacter
  | beyondAscii
  | nestedTooDeeply
  | tooLarge
  deriving DecidableEq, Repr

namespace Fault

/-- A fault in words. -/
def message : Fault → String
  | unclosedGroup => "a group is not closed"
  | unopenedGroup => "a group is closed that was not opened"
  | unclosedClass => "a class is not closed"
  | lookAround => "looking ahead or behind is not supported"
  | badGroupName => "a group has no valid name"
  | repeatedGroupName => "two groups have the same name"
  | badFlags => "the flags are not valid"
  | nothingToRepeat => "there is nothing to repeat"
  | badCount => "the number of repetitions is not valid"
  | badEscape => "the escape is not known"
  | badCodePoint => "there is no character with this code"
  | unknownProperty => "the property is not known"
  | badRange => "a range ends before it starts"
  | notACharacter => "a class may hold characters and classes only"
  | beyondAscii => "without Unicode only characters of ASCII can be named or excluded"
  | nestedTooDeeply => "the pattern is nested too deeply"
  | tooLarge => "the pattern is too large"

end Fault

end ContentBatch.Pattern
