import ContentBatch.Text.Category

/-!
# Engines

What a pattern means is settled by its text, except for two things that belong to the
engine which searches for it: which properties of characters have a name, and how large
the program for a pattern may become.  Both change from one edition of an engine to the
next, so `Engine` leaves them open.  Whatever is said of patterns is said for every
engine.

`Engine.standard` knows the general categories and a few properties that cut across
them.
-/

namespace ContentBatch.Pattern

/-- A property as a pattern names it: by one letter, by a name in braces, or by a key
and a value, which are joined as equal or as unequal. -/
inductive PropertyName where
  | letter (c : Char)
  | named (name : List Char)
  | valued (key : List Char) (unequal : Bool) (value : List Char)
  deriving DecidableEq, Repr

/-- What is left open by the syntax of patterns. -/
structure Engine where
  /-- The code points with a property, if there is a property of that name. -/
  property? : PropertyName → Option (Nat → Bool)
  /-- Whether the program for a pattern that is valid otherwise is small enough. -/
  admits : List Char → Bool

namespace Engine

/-- The property that the standard engine knows by a name. Whether a key and its value
are joined as equal or as unequal makes no difference to it. -/
def standardProperty? : PropertyName → Option Text.Property
  | .letter c => Text.Property.ofName? [c]
  | .named name => Text.Property.ofName? name
  | .valued key _ value => Text.Property.ofCategory? key value

/-- The engine that knows the general categories and a few properties more, and sets no
limit to the size of programs. -/
def standard : Engine where
  property? name := (standardProperty? name).map Text.Property.holds
  admits _ := true

end Engine

end ContentBatch.Pattern
