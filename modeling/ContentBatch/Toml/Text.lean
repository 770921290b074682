import ContentBatch.Number.Digits

/-!
# Text in TOML files

The small parts of a TOML file: blanks and ends of lines, comments, strings and keys.
Each reader takes the text from the first character of its part, or from the one after
its opening mark, and returns what was read and the text after it.

A string with escapes is read character by character. What is not yet complete is kept
as an `Escape`, so the reader recurs on the text alone.
-/

namespace ContentBatch.Toml

/-- Whether a character may stand in a string or a comment as it is. -/
def isPlain (c : Char) : Bool :=
  c == '\t' || (0x20 ≤ c.toNat && c.toNat != 0x7F)

/-- The text after leading spaces and tabs. -/
def skipBlanks (text : List Char) : List Char :=
  text.dropWhile fun c => c == ' ' || c == '\t'

/-- The text after leading blanks, ends of lines and comments; nothing if a comment
holds what it must not. The first argument says whether the text starts in a comment. -/
def skipLines : Bool → List Char → Option (List Char)
  | _, [] => some []
  | _, '\n' :: rest => skipLines false rest
  | _, '\r' :: '\n' :: rest => skipLines false rest
  | true, c :: rest => if isPlain c then skipLines true rest else none
  | false, c :: rest =>
    if c == ' ' || c == '\t' then skipLines false rest
    else if c == '#' then skipLines true rest
    else some (c :: rest)

/-- The text after the end of a line. The text itself may be at its end. -/
def endLine : List Char → Option (List Char)
  | [] => some []
  | '\n' :: rest => some rest
  | '\r' :: '\n' :: rest => some rest
  | _ => none

/-- The text after the rest of a line, on which only blanks and a comment may stand. -/
def finishLine (text : List Char) : Option (List Char) :=
  match skipBlanks text with
  | '#' :: rest => endLine (rest.dropWhile isPlain)
  | rest => endLine rest

/-! ## Strings -/

/-- The character of an escape of one letter. -/
def shortEscape? : Char → Option Char
  | 'b' => some '\x08'
  | 't' => some '\t'
  | 'n' => some '\n'
  | 'f' => some '\x0c'
  | 'r' => some '\r'
  | '"' => some '"'
  | '\\' => some '\\'
  | _ => none

/-- The character with a number, if there is one. -/
def charOf? (code : Nat) : Option Char :=
  if code < 0xD800 || (0xDFFF < code && code < 0x110000) then some (Char.ofNat code)
  else none

/-- Where in a string the reader stands: outside escapes, perhaps where blanks and ends
of lines are left out; after a backslash; after a backslash and blanks, on the way to
the end of the line; within the digits of a code, of which `missing + 1` are to come. -/
inductive Escape where
  | outside (joined : Bool)
  | started
  | joining
  | code (missing value : Nat)

/-- Up to two marks that belong to the text although they stand before its closing
mark. -/
def marksBefore (mark : Char) : List Char → List Char × List Char
  | c :: d :: rest =>
    if c == mark then if d == mark then ([mark, mark], rest) else ([mark], d :: rest)
    else ([], c :: d :: rest)
  | [c] => if c == mark then ([mark], []) else ([], [c])
  | [] => ([], [])

/-- A character before the text that is read next. -/
def prepend (c : Char) : Option (List Char × List Char) → Option (List Char × List Char)
  | some (text, rest) => some (c :: text, rest)
  | none => none

/-- The rest of a string with escapes, up to its closing mark: one quote, or three if
the string may have several lines. A backslash at the end of a line joins it to the next
character that is no blank. -/
def readBasic (lines : Bool) : Escape → List Char → Option (List Char × List Char)
  | _, [] => none
  | .outside _, '"' :: '"' :: '"' :: rest =>
    some (if lines then marksBefore '"' rest else ([], '"' :: '"' :: rest))
  | .outside _, '"' :: rest =>
    if lines then prepend '"' (readBasic lines (.outside false) rest)
    else some ([], rest)
  | .outside _, '\\' :: rest => readBasic lines .started rest
  | .outside joined, '\r' :: '\n' :: rest =>
    if joined then readBasic lines (.outside true) rest
    else if lines then prepend '\n' (readBasic lines (.outside false) rest)
    else none
  | .outside joined, c :: rest =>
    if joined && (c == ' ' || c == '\t' || c == '\n') then
      readBasic lines (.outside true) rest
    else if isPlain c || (lines && c == '\n') then
      prepend c (readBasic lines (.outside false) rest)
    else none
  | .started, '\r' :: '\n' :: rest =>
    if lines then readBasic lines (.outside true) rest else none
  | .started, c :: rest =>
    if c == 'u' then readBasic lines (.code 3 0) rest
    else if c == 'U' then readBasic lines (.code 7 0) rest
    else
      match shortEscape? c with
      | some e => prepend e (readBasic lines (.outside false) rest)
      | none =>
        if lines && (c == ' ' || c == '\t') then readBasic lines .joining rest
        else if lines && c == '\n' then readBasic lines (.outside true) rest
        else none
  | .joining, '\r' :: '\n' :: rest => readBasic lines (.outside true) rest
  | .joining, c :: rest =>
    if c == ' ' || c == '\t' then readBasic lines .joining rest
    else if c == '\n' then readBasic lines (.outside true) rest
    else none
  | .code missing value, c :: rest =>
    if Number.isDigitOf 16 c then
      let value := value * 16 + Number.digitValue c
      match missing with
      | 0 =>
        match charOf? value with
        | some c => prepend c (readBasic lines (.outside false) rest)
        | none => none
      | missing + 1 => readBasic lines (.code missing value) rest
    else none

/-- The rest of a string without escapes on one line, up to its closing mark. -/
def readLiteral (text : List Char) : Option (List Char × List Char) :=
  match text.dropWhile fun c => isPlain c && c != '\'' with
  | '\'' :: rest => some (text.takeWhile fun c => isPlain c && c != '\'', rest)
  | _ => none

/-- The rest of a string without escapes on several lines, up to its three closing
marks. -/
def readLiteralLines : List Char → Option (List Char × List Char)
  | [] => none
  | '\'' :: '\'' :: '\'' :: rest => some (marksBefore '\'' rest)
  | '\r' :: '\n' :: rest => prepend '\n' (readLiteralLines rest)
  | c :: rest =>
    if isPlain c || c == '\n' then prepend c (readLiteralLines rest) else none

/-- The text after the end of a line, or the text itself; an end of line right after the
opening marks of a string does not belong to it. -/
def skipLineEnd : List Char → List Char
  | '\n' :: rest => rest
  | '\r' :: '\n' :: rest => rest
  | rest => rest

/-- A string from its opening marks on. -/
def readString : List Char → Option (List Char × List Char)
  | '"' :: '"' :: '"' :: rest => readBasic true (.outside false) (skipLineEnd rest)
  | '"' :: rest => readBasic false (.outside false) rest
  | '\'' :: '\'' :: '\'' :: rest => readLiteralLines (skipLineEnd rest)
  | '\'' :: rest => readLiteral rest
  | _ => none

/-! ## Keys -/

/-- A dotted key: the names of the tables on the way and the name of the entry. -/
structure Key where
  path : List String
  name : String
  deriving DecidableEq, Repr

/-- The greatest number of names in a key, and the greatest depth of values. -/
def maxNesting : Nat := 79

/-- Whether a character may stand in a name without quotes. -/
def isBare (c : Char) : Bool :=
  c.isAlphanum || c == '_' || c == '-'

/-- One name of a key. -/
def readName : List Char → Option (String × List Char)
  | '"' :: rest =>
    (readBasic false (.outside false) rest).map fun (name, rest) =>
      (String.ofList name, rest)
  | '\'' :: rest =>
    (readLiteral rest).map fun (name, rest) => (String.ofList name, rest)
  | text =>
    let name := text.takeWhile isBare
    if name.isEmpty then none else some (String.ofList name, text.dropWhile isBare)

/-- The names of a key, at most as many as the first argument says, with blanks around
them. -/
def readNames : Nat → List Char → Option (List String × List Char)
  | 0, _ => none
  | count + 1, text => do
      let (name, rest) ← readName (skipBlanks text)
      match skipBlanks rest with
      | '.' :: rest =>
        let (names, rest) ← readNames count rest
        return (name :: names, rest)
      | rest => return ([name], rest)

/-- A key with blanks around it. -/
def readKey (text : List Char) : Option (Key × List Char) := do
  let (names, rest) ← readNames maxNesting text
  return (⟨names.dropLast, ← names.getLast?⟩, rest)

end ContentBatch.Toml
