import ContentBatch.Pattern.Engine
import ContentBatch.Text.CaseFolding

/-!
# Sets of characters

A `CharSet` is an expression for a set of code points. Properties that a pattern names
stand in it by their names at first (`WrittenSet`); `resolve` puts what an engine knows
of them in their place (`ResolvedSet`), and then `mem` evaluates the set at one code
point. Nothing is ever expanded, so complements and Unicode properties cost no more than
ranges.

The *closure* of a set adds every case variant of its members. There are two closures,
one for all characters and one that knows the letters of ASCII only.
-/

namespace ContentBatch.Pattern

/-- Expressions for sets of code points, over the properties `π` that a pattern
names. -/
inductive CharSet (π : Type) where
  | range (first last : Nat)
  | property (known : Text.Property)
  | named (name : π)
  | complement (set : CharSet π)
  | union (left right : CharSet π)
  | intersection (left right : CharSet π)
  | difference (left right : CharSet π)
  | symmetricDifference (left right : CharSet π)
  | caseClosure (set : CharSet π)
  | asciiCaseClosure (set : CharSet π)
  deriving DecidableEq, Repr

/-- Sets with the names of properties in them. -/
abbrev WrittenSet := CharSet PropertyName

/-- Sets with the members of all properties in them. -/
abbrev ResolvedSet := CharSet (Nat → Bool)

/-- A letter of ASCII in its two cases; other code points stand alone. -/
def asciiVariants (code : Nat) : List Nat :=
  if 'a'.toNat ≤ code && code ≤ 'z'.toNat then [code, code - 32]
  else if 'A'.toNat ≤ code && code ≤ 'Z'.toNat then [code, code + 32]
  else [code]

namespace CharSet

variable {π ρ : Type}

/-- The same set over other properties, if there is one for each name. -/
def resolve (property? : π → Option ρ) : CharSet π → Option (CharSet ρ)
  | range first last => some (range first last)
  | property known => some (property known)
  | named name => (property? name).map named
  | complement set => (set.resolve property?).map complement
  | union left right => do
    return union (← left.resolve property?) (← right.resolve property?)
  | intersection left right => do
    return intersection (← left.resolve property?) (← right.resolve property?)
  | difference left right => do
    return difference (← left.resolve property?) (← right.resolve property?)
  | symmetricDifference left right => do
    return symmetricDifference (← left.resolve property?) (← right.resolve property?)
  | caseClosure set => (set.resolve property?).map caseClosure
  | asciiCaseClosure set => (set.resolve property?).map asciiCaseClosure

/-- Whether a code point belongs to a set. -/
def mem : ResolvedSet → Nat → Bool
  | range first last, code => first ≤ code && code ≤ last
  | property known, code => known.holds code
  | named members, code => members code
  | complement set, code => !set.mem code
  | union left right, code => left.mem code || right.mem code
  | intersection left right, code => left.mem code && right.mem code
  | difference left right, code => left.mem code && !right.mem code
  | symmetricDifference left right, code => left.mem code != right.mem code
  | caseClosure set, code => (Text.caseVariants code).any set.mem
  | asciiCaseClosure set, code => (asciiVariants code).any set.mem

/-- The set without members. -/
def none : CharSet π := range 1 0

/-- All characters. -/
def all : CharSet π := range 0 0x10FFFF

/-- The set of one character. -/
def single (c : Char) : CharSet π := range c.toNat c.toNat

/-- The characters from one to another. -/
def between (first last : Char) : CharSet π := range first.toNat last.toNat

/-- The union of several sets. -/
def unions : List (CharSet π) → CharSet π
  | [] => none
  | [set] => set
  | set :: sets => union set (unions sets)

/-- The complement of a set, if asked for. -/
def complementIf (negated : Bool) (set : CharSet π) : CharSet π :=
  if negated then complement set else set

/-! ## Classes with a name -/

/-- Decimal digits of all scripts. -/
def digits : CharSet π := property .decimalNumber

/-- Blanks. -/
def blanks : CharSet π := property .whiteSpace

/-- Characters of words: alphabetic ones, marks, decimal digits, connecting punctuation
and the two joiners. -/
def word : CharSet π :=
  unions [property .alphabetic, property .mark, property .decimalNumber,
    property .connectorPunctuation, range 0x200C 0x200D]

/-- Digits of ASCII. -/
def asciiDigits : CharSet π := between '0' '9'

/-- Letters of ASCII. -/
def asciiLetters : CharSet π := union (between 'A' 'Z') (between 'a' 'z')

/-- Letters and digits of ASCII. -/
def asciiAlphanumerics : CharSet π := union asciiDigits asciiLetters

/-- Blanks of ASCII. -/
def asciiBlanks : CharSet π := union (range 0x09 0x0D) (single ' ')

/-- Characters of words in ASCII. -/
def asciiWord : CharSet π := union asciiAlphanumerics (single '_')

/-- The classes of ASCII characters by name. -/
def asciiClasses : List (String × CharSet π) :=
  [("alnum", asciiAlphanumerics), ("alpha", asciiLetters), ("ascii", range 0 0x7F),
    ("blank", union (single '\t') (single ' ')),
    ("cntrl", union (range 0 0x1F) (range 0x7F 0x7F)), ("digit", asciiDigits),
    ("graph", between '!' '~'), ("lower", between 'a' 'z'), ("print", between ' ' '~'),
    ("punct", unions
      [between '!' '/', between ':' '@', between '[' '\x60', between '\x7b' '~']),
    ("space", asciiBlanks), ("upper", between 'A' 'Z'), ("word", asciiWord),
    ("xdigit", unions [asciiDigits, between 'A' 'F', between 'a' 'f'])]

end CharSet

end ContentBatch.Pattern
