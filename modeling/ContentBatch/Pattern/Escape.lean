import ContentBatch.Number.Digits
import ContentBatch.Pattern.CharSet
import ContentBatch.Pattern.Scan

/-!
# Escapes

What may stand after a backslash: characters by their code or by a letter, punctuation
that would have a meaning of its own, classes, properties and assertions. Other letters,
digits and characters beyond ASCII are refused.
-/

namespace ContentBatch.Pattern

/-- The classes that a single letter stands for. -/
inductive LetterClass where
  | digit
  | blank
  | word
  deriving DecidableEq, Repr

/-- The assertions that an escape stands for. -/
inductive Edge where
  | textStart
  | textEnd
  | wordBoundary
  | noWordBoundary
  | wordStart
  | wordEnd
  | wordStartHalf
  | wordEndHalf
  deriving DecidableEq, Repr

/-- What an escape stands for. A character given by two digits of its code is also a
byte. -/
inductive Escape where
  | character (c : Char) (isByte : Bool)
  | letterClass (name : LetterClass) (negated : Bool)
  | property (name : PropertyName) (negated : Bool)
  | edge (kind : Edge)
  deriving DecidableEq, Repr

namespace Escape

/-- The character with a code written in digits of base sixteen. -/
def characterOf? (digits : List Char) : Option Char :=
  let code := Number.valueOf 16 digits
  if h : code.isValidChar then some (Char.ofNatAux code h) else none

/-- A character by its code: digits in braces, or as many digits as the letter calls
for. -/
def readCode (verbose : Bool) (count : Nat) (text : List Char) :
    Except Fault (Escape × List Char) :=
  match skip verbose text with
  | '\x7b' :: rest =>
    match untilBrace verbose rest with
    | none => .error .badCodePoint
    | some (digits, rest) =>
      if digits.isEmpty || !digits.all (Number.isDigitOf 16) then .error .badCodePoint
      else
        match characterOf? digits with
        | some c => .ok (.character c false, skip verbose rest)
        | none => .error .badCodePoint
  | text =>
    match takeSignificant verbose count text with
    | none => .error .badCodePoint
    | some (digits, rest) =>
      if !digits.all (Number.isDigitOf 16) then .error .badCodePoint
      else
        match characterOf? digits with
        | some c => .ok (.character c (count == 2), rest)
        | none => .error .badCodePoint

/-- Cuts a text at the first occurrence of a separator. -/
def cutAt? (separator : List Char) : List Char → Option (List Char × List Char)
  | [] => none
  | c :: rest =>
    match dropPrefix? separator (c :: rest) with
    | some after => some ([], after)
    | none => (cutAt? separator rest).map fun (before, after) => (c :: before, after)

/-- The property that the inside of braces names: a name alone, or a key with its
value. -/
def propertyNamed (inside : List Char) : PropertyName :=
  match cutAt? ['!', '='] inside with
  | some (key, value) => .valued key true value
  | none =>
    match (cutAt? [':'] inside).or (cutAt? ['='] inside) with
    | some (key, value) => .valued key false value
    | none => .named inside

/-- A property by its name in braces or by a single character, which may not be a
backslash. -/
def readProperty (verbose negated : Bool) (text : List Char) :
    Except Fault (Escape × List Char) :=
  match skip verbose text with
  | [] => .error .badEscape
  | '\x7b' :: rest =>
    match untilBrace verbose rest with
    | none => .error .badEscape
    | some (inside, rest) => .ok (.property (propertyNamed inside) negated, rest)
  | '\\' :: _ => .error .badEscape
  | c :: rest => .ok (.property (.letter c) negated, skip verbose rest)

/-- The name of a special word boundary. -/
def edgeOf? : String → Option Edge
  | "start" => some .wordStart
  | "end" => some .wordEnd
  | "start-half" => some .wordStartHalf
  | "end-half" => some .wordEndHalf
  | _ => none

/-- Whether a character may be part of the name of a word boundary. -/
def isEdgeLetter (c : Char) : Bool := c.isAlpha || c == '-'

/-- A word boundary, which may have a name in braces. A brace that is not followed by a
letter is left for what comes next. -/
def readBoundary (verbose : Bool) : List Char → Except Fault (Escape × List Char)
  | '\x7b' :: rest =>
    match skip verbose rest with
    | [] => .error .badEscape
    | c :: _ =>
      if !isEdgeLetter c then .ok (.edge .wordBoundary, '\x7b' :: rest)
      else
        match spanSignificant verbose isEdgeLetter false rest with
        | (name, '\x7d' :: rest) =>
          match edgeOf? (String.ofList name) with
          | some found => .ok (.edge found, rest)
          | none => .error .badEscape
        | _ => .error .badEscape
  | rest => .ok (.edge .wordBoundary, rest)

/-- The character that a letter stands for. -/
def letter? : Char → Option Char
  | 'a' => some '\x07'
  | 'f' => some '\x0c'
  | 't' => some '\t'
  | 'n' => some '\n'
  | 'r' => some '\r'
  | 'v' => some '\x0b'
  | _ => none

/-- Whether a character stands for itself after a backslash. -/
def standsForItself (c : Char) : Bool :=
  c.toNat < 0x80 && !c.isAlphanum && c != '<' && c != '>'

/-- What stands after a backslash, and the rest. -/
def read (verbose : Bool) : List Char → Except Fault (Escape × List Char)
  | [] => .error .badEscape
  | 'x' :: rest => readCode verbose 2 rest
  | 'u' :: rest => readCode verbose 4 rest
  | 'U' :: rest => readCode verbose 8 rest
  | 'p' :: rest => readProperty verbose false rest
  | 'P' :: rest => readProperty verbose true rest
  | 'd' :: rest => .ok (.letterClass .digit false, rest)
  | 'D' :: rest => .ok (.letterClass .digit true, rest)
  | 's' :: rest => .ok (.letterClass .blank false, rest)
  | 'S' :: rest => .ok (.letterClass .blank true, rest)
  | 'w' :: rest => .ok (.letterClass .word false, rest)
  | 'W' :: rest => .ok (.letterClass .word true, rest)
  | 'A' :: rest => .ok (.edge .textStart, rest)
  | 'z' :: rest => .ok (.edge .textEnd, rest)
  | 'b' :: rest => readBoundary verbose rest
  | 'B' :: rest => .ok (.edge .noWordBoundary, rest)
  | '<' :: rest => .ok (.edge .wordStart, rest)
  | '>' :: rest => .ok (.edge .wordEnd, rest)
  | c :: rest =>
    match letter? c with
    | some special => .ok (.character special false, rest)
    | none =>
      if standsForItself c then .ok (.character c false, rest) else .error .badEscape

end Escape

end ContentBatch.Pattern
