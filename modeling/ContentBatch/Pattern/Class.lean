import ContentBatch.Pattern.Escape
import ContentBatch.Pattern.Flags

/-!
# Classes in brackets

A class lists characters, ranges, named classes and further classes in brackets. Lists
can be combined: `&&` keeps what both have, `--` what only the left one has, `~~` what
exactly one has; all three bind equally and from the left, and less than listing.

The reader keeps the open classes on a stack: a `ClassLevel` holds what was listed since
the last operator, and what stands before that operator.
-/

namespace ContentBatch.Pattern

/-- Something with a measure of how deep it is nested. -/
structure Nested (α : Type) where
  value : α
  depth : Nat := 0
  deriving Repr

/-- The greatest depth of several things. -/
def greatestDepth {α : Type} (parts : List (Nested α)) : Nat :=
  (parts.map Nested.depth).foldl max 0

/-- The operators between lists. -/
inductive SetOperator where
  | intersection
  | difference
  | symmetricDifference
  deriving DecidableEq, Repr

namespace SetOperator

/-- The set that an operator makes of two sets. -/
def apply : SetOperator → WrittenSet → WrittenSet → WrittenSet
  | intersection => .intersection
  | difference => .difference
  | symmetricDifference => .symmetricDifference

end SetOperator

/-! ## The meaning of single items -/

namespace Flags

/-- A set with all case variants, if case is ignored. -/
def closure (flags : Flags) (set : WrittenSet) : WrittenSet :=
  if flags.ignoreCase then
    if flags.unicode then .caseClosure set else .asciiCaseClosure set
  else set

/-- The complement of a set, if asked for. Without Unicode a complement would reach
beyond ASCII and is refused. -/
def complementIf (flags : Flags) (negated : Bool)
    (set : WrittenSet) : Except Fault WrittenSet :=
  if negated && !flags.unicode then .error .beyondAscii
  else .ok (.complementIf negated set)

/-- The class that a letter stands for. -/
def letterClass {π : Type} (flags : Flags) : LetterClass → CharSet π
  | .digit => if flags.unicode then .digits else .asciiDigits
  | .blank => if flags.unicode then .blanks else .asciiBlanks
  | .word => if flags.unicode then .word else .asciiWord

/-- The members of a property; properties need Unicode. -/
def property (flags : Flags) (name : PropertyName)
    (negated : Bool) : Except Fault WrittenSet :=
  if flags.unicode then .ok (.complementIf negated (flags.closure (.named name)))
  else .error .beyondAscii

/-- The characters from one to another, within a class. -/
def range (flags : Flags) (first last : Char) : Except Fault WrittenSet :=
  if last < first then .error .badRange
  else if !flags.unicode && 0x80 ≤ last.toNat then .error .beyondAscii
  else .ok (flags.closure (.between first last))

end Flags

/-! ## Reading items -/

/-- An item of a class: a character, or a set that cannot be the end of a range. -/
inductive ClassItem where
  | character (c : Char)
  | set (members : WrittenSet)

/-- An item at the head of a text. -/
def readClassItem (flags : Flags) : List Char → Except Fault (ClassItem × List Char)
  | [] => .error .unclosedClass
  | '\\' :: rest => do
      let (escape, rest) ← Escape.read flags.verbose rest
      match escape with
      | .character c _ => return (.character c, rest)
      | .letterClass name negated =>
        let members ← flags.complementIf negated (flags.letterClass name)
        return (.set (flags.closure members), rest)
      | .property name negated => return (.set (← flags.property name negated), rest)
      | .edge _ => .error .notACharacter
  | c :: rest => .ok (.character c, rest)

/-- An item or a range. A dash before a closing bracket or before another dash makes no
range. -/
def readClassRange (flags : Flags) (text : List Char) :
    Except Fault (WrittenSet × List Char) := do
  let (item, rest) ← readClassItem flags text
  let rest := skip flags.verbose rest
  let alone : Except Fault WrittenSet :=
    match item with
    | .character c => flags.range c c
    | .set members => .ok members
  match rest with
  | '-' :: after =>
    match following flags.verbose after with
    | some ']' => return (← alone, rest)
    | some '-' => return (← alone, rest)
    | _ =>
      let (last, rest) ← readClassItem flags (skip flags.verbose after)
      match item, last with
      | .character first, .character last => return (← flags.range first last, rest)
      | _, _ => .error .notACharacter
  | _ => return (← alone, rest)

/-- A class of ASCII characters by name, after the opening bracket, if one is written
there. -/
def asciiClass? (text : List Char) : Option (Bool × WrittenSet × List Char) := do
  let rest ← dropPrefix? [':'] text
  let (negated, rest) :=
    match rest with | '^' :: rest => (true, rest) | _ => (false, rest)
  let name := rest.takeWhile (· != ':')
  let rest ← dropPrefix? [':', ']'] (rest.drop name.length)
  let members ← CharSet.asciiClasses.lookup (String.ofList name)
  return (negated, members, rest)

/-! ## Reading classes -/

/-- An open class. -/
structure ClassLevel where
  negated : Bool
  listed : List (Nested WrittenSet) := []
  before : Option (SetOperator × Nested WrittenSet) := none

namespace ClassLevel

/-- Adds an item to the list. -/
def add (level : ClassLevel) (item : Nested WrittenSet) : ClassLevel :=
  { level with listed := item :: level.listed }

/-- The set of all that is listed. -/
def list (level : ClassLevel) : Nested WrittenSet :=
  match level.listed with
  | [] => ⟨.none, 0⟩
  | [item] => item
  | items => ⟨.unions (items.reverse.map Nested.value), greatestDepth items + 1⟩

/-- The set so far, with what stands before the last operator. -/
def sofar (level : ClassLevel) : Nested WrittenSet :=
  let right := level.list
  match level.before with
  | none => right
  | some (operator, left) =>
    ⟨operator.apply left.value right.value, max left.depth right.depth + 1⟩

/-- The class after an operator. -/
def operate (level : ClassLevel) (operator : SetOperator) : ClassLevel :=
  { level with listed := [], before := some (operator, level.sofar) }

/-- The set of the whole class. -/
def close (level : ClassLevel) (flags : Flags) : Except Fault (Nested WrittenSet) := do
  let inside := level.sofar
  return ⟨← flags.complementIf level.negated inside.value, inside.depth + 1⟩

end ClassLevel

/-- A class from after its opening bracket: a caret negates it; dashes at its start, and
a closing bracket that comes first of all, stand for themselves. -/
def openClass (flags : Flags) (text : List Char) : ClassLevel × List Char :=
  let text := skip flags.verbose text
  let (negated, text) :=
    match text with
    | '^' :: rest => (true, skip flags.verbose rest)
    | _ => (false, text)
  let (dashes, text) := spanSignificant flags.verbose (· == '-') false text
  let level : ClassLevel :=
    { negated, listed := dashes.map fun c => ⟨flags.closure (.single c), 0⟩ }
  match dashes, text with
  | [], ']' :: rest =>
    (level.add ⟨flags.closure (.single ']'), 0⟩, skip flags.verbose rest)
  | _, _ => (level, text)

/-- The rest of a class: the innermost open class, those around it, and the text. Each
step takes a character at least, so the length of the text is fuel enough. -/
def readClassFrom (flags : Flags) : Nat → ClassLevel → List ClassLevel → List Char →
    Except Fault (Nested WrittenSet × List Char)
  | 0, _, _, _ => .error .unclosedClass
  | fuel + 1, level, outer, text =>
    match skip flags.verbose text with
    | [] => .error .unclosedClass
    | '[' :: rest =>
      match asciiClass? rest with
      | some (negated, members, rest) => do
          let members ← flags.complementIf negated (flags.closure members)
          readClassFrom flags fuel (level.add ⟨members, 0⟩) outer rest
      | none =>
        let (inner, rest) := openClass flags rest
        readClassFrom flags fuel inner (level :: outer) rest
    | ']' :: rest => do
        let closed ← level.close flags
        match outer with
        | [] => return (closed, rest)
        | next :: outer => readClassFrom flags fuel (next.add closed) outer rest
    | '&' :: '&' :: rest =>
      readClassFrom flags fuel (level.operate .intersection) outer rest
    | '-' :: '-' :: rest =>
      readClassFrom flags fuel (level.operate .difference) outer rest
    | '~' :: '~' :: rest =>
      readClassFrom flags fuel (level.operate .symmetricDifference) outer rest
    | text => do
        let (members, rest) ← readClassRange flags text
        readClassFrom flags fuel (level.add ⟨members, 0⟩) outer rest

/-- A class from after its opening bracket to after its closing one. -/
def readClass (flags : Flags) (text : List Char) :
    Except Fault (Nested WrittenSet × List Char) :=
  let (level, rest) := openClass flags text
  readClassFrom flags (rest.length + 1) level [] rest

end ContentBatch.Pattern
