import ContentBatch.Pattern.Class
import ContentBatch.Pattern.Expression

/-!
# Tokens of patterns

A pattern is read token by token. A token is either an atom with its meaning, which
depends on the flags at that place, or a mark: the start or end of a group, a bar
between alternatives, a repetition of what comes before it, or a change of flags.
-/

namespace ContentBatch.Pattern

/-- The tokens of patterns. -/
inductive Token where
  | atom (regex : Nested WrittenRegex)
  | repeated (least : Nat) (greatest : Option Nat)
  | open (change : FlagChange) (name : Option (List Char))
  | close
  | bar
  | switch (change : FlagChange)

/-! ## Atoms -/

namespace Flags

/-- The characters of words. -/
def wordSet (flags : Flags) : ResolvedSet := flags.letterClass .word

/-- How lines end. -/
def lineEnding (flags : Flags) : LineEnding :=
  if flags.carriageReturns then .any else .lineFeed

/-- The meaning of a caret. -/
def caret (flags : Flags) : Assertion :=
  if flags.multiLine then .lineStart flags.lineEnding else .textStart

/-- The meaning of a dollar sign. -/
def dollar (flags : Flags) : Assertion :=
  if flags.multiLine then .lineEnd flags.lineEnding else .textEnd

/-- The characters that a point stands for. -/
def point (flags : Flags) : WrittenSet :=
  if flags.pointTakesAll then .all
  else if flags.carriageReturns then .complement (.union (.single '\r') (.single '\n'))
  else .complement (.single '\n')

/-- The meaning of an assertion that is written as an escape. -/
def edge (flags : Flags) : Edge → Assertion
  | .textStart => .textStart
  | .textEnd => .textEnd
  | .wordBoundary => .wordBoundary flags.wordSet
  | .noWordBoundary => .noWordBoundary flags.wordSet
  | .wordStart => .wordStart flags.wordSet
  | .wordEnd => .wordEnd flags.wordSet
  | .wordStartHalf => .wordStartHalf flags.wordSet
  | .wordEndHalf => .wordEndHalf flags.wordSet

/-- The meaning of a character that stands for itself. Without Unicode characters beyond
ASCII have no case variants. -/
def literal (flags : Flags) (c : Char) : WrittenSet :=
  if flags.unicode || c.toNat < 0x80 then flags.closure (.single c) else .single c

/-- The meaning of an escape outside of classes. -/
def escape (flags : Flags) : Escape → Except Fault WrittenRegex
  | .character c isByte =>
    if isByte && !flags.unicode && 0x80 ≤ c.toNat then .error .beyondAscii
    else .ok (.step (flags.literal c))
  | .letterClass name negated => do
      return .step (← flags.complementIf negated (flags.letterClass name))
  | .property name negated => do return .step (← flags.property name negated)
  | .edge kind => .ok (.test (flags.edge kind))

end Flags

/-! ## Repetitions -/

/-- The greatest number of repetitions that can be written. -/
def maxCount : Nat := Number.maxUnsigned32

/-- A number of repetitions, with blanks around it. -/
def readCount (verbose : Bool) (text : List Char) : Except Fault (Nat × List Char) :=
  let (digits, rest) :=
    spanSignificant verbose Char.isDigit false (text.dropWhile Text.isBlank)
  let count := Number.valueOf 10 digits
  if digits.isEmpty || maxCount < count then .error .badCount
  else .ok (count, rest.dropWhile Text.isBlank)

/-- The text after a question mark, which makes a repetition lazy, if there is one. -/
def dropLazyMark : List Char → List Char
  | '?' :: rest => rest
  | rest => rest

/-- A counted repetition, after its opening brace. -/
def readCounts (verbose : Bool) (text : List Char) : Except Fault (Token × List Char) :=
  do
  let (least, rest) ← readCount verbose (skip verbose text)
  let finish (greatest : Option Nat) (rest : List Char) :
      Except Fault (Token × List Char) :=
    .ok (.repeated least greatest, dropLazyMark (skip verbose rest))
  match rest with
  | '\x7d' :: rest => finish (some least) rest
  | ',' :: rest =>
    match skip verbose rest with
    | '\x7d' :: rest => finish none rest
    | rest =>
      match ← readCount verbose rest with
      | (greatest, '\x7d' :: rest) =>
        if greatest < least then .error .badCount else finish (some greatest) rest
      | _ => .error .badCount
  | _ => .error .badCount

/-! ## Groups -/

/-- Whether a text is the name of a group. -/
def isGroupName : List Char → Bool
  | [] => false
  | first :: rest =>
    (first == '_' || Text.isAlphabetic first) &&
      rest.all fun c => c == '_' || c == '.' || c == '[' || c ==
        ']' || Text.isAlphanumeric c

/-- A named group, after the opening angle bracket of its name. -/
def readNamedGroup (text : List Char) : Except Fault (Token × List Char) :=
  let name := text.takeWhile (· != '>')
  match text.drop name.length with
  | [] => .error .badGroupName
  | _ :: rest =>
    if isGroupName name then .ok (.open [] (some name), rest) else .error .badGroupName

/-- What comes after an opening parenthesis. -/
def readOpening (flags : Flags) (text : List Char) : Except Fault (Token × List Char) :=
  match skip flags.verbose text with
  | '?' :: '=' :: _ => .error .lookAround
  | '?' :: '!' :: _ => .error .lookAround
  | '?' :: '<' :: '=' :: _ => .error .lookAround
  | '?' :: '<' :: '!' :: _ => .error .lookAround
  | '?' :: 'P' :: '<' :: rest => readNamedGroup rest
  | '?' :: '<' :: rest => readNamedGroup rest
  | '?' :: rest => do
      let ((change, closing), rest) ← Flags.readChange .unread [] rest
      if closing == ':' then return (.open change none, rest)
      else if change.isEmpty then .error .nothingToRepeat
      else return (.switch change, rest)
  | rest => .ok (.open [] none, rest)

/-! ## Tokens -/

/-- An atom that is no class in brackets. -/
def atomOf (regex : WrittenRegex) (rest : List Char) :
    Except Fault (Token × List Char) :=
  .ok (.atom ⟨regex, 0⟩, rest)

/-- The token at the head of a text that starts with a significant character. -/
def readToken (flags : Flags) : List Char → Except Fault (Token × List Char)
  | [] => .error .badEscape
  | '(' :: rest => readOpening flags rest
  | ')' :: rest => .ok (.close, rest)
  | '|' :: rest => .ok (.bar, rest)
  | '?' :: rest => .ok (.repeated 0 (some 1), dropLazyMark rest)
  | '*' :: rest => .ok (.repeated 0 none, dropLazyMark rest)
  | '+' :: rest => .ok (.repeated 1 none, dropLazyMark rest)
  | '\x7b' :: rest => readCounts flags.verbose rest
  | '[' :: rest => do
      let (members, rest) ← readClass flags rest
      return (.atom ⟨.step members.value, members.depth⟩, rest)
  | '\\' :: rest => do
      let (escape, rest) ← Escape.read flags.verbose rest
      atomOf (← flags.escape escape) rest
  | '.' :: rest =>
    if flags.unicode then atomOf (.step flags.point) rest else .error .beyondAscii
  | '^' :: rest => atomOf (.test flags.caret) rest
  | '$' :: rest => atomOf (.test flags.dollar) rest
  | c :: rest => atomOf (.step (flags.literal c)) rest

end ContentBatch.Pattern
