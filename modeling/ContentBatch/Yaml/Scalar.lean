import ContentBatch.Number.Digits
import ContentBatch.Text.Parts
import ContentBatch.Yaml.Spot

/-!
# Scalars in YAML files

A scalar may go over several lines. Within it an end of a line counts as a space, and
further ends of lines count as themselves; blanks around them are left out. What was
passed since the last visible character is kept as a `Fold` until it is clear what it
counts for.

There are three kinds: within double quotes with escapes, within single quotes, and
without quotes. Lines after the first one are indented, at least as far as `indent`
says.
-/

namespace ContentBatch.Yaml

/-- Blanks and ends of lines since the last visible character: the blanks in reverse, as
long as the line has not ended; the number of ends of lines; and whether a backslash
stood before the first one. -/
structure Fold where
  blanks : List Char := []
  breaks : Nat := 0
  joined : Bool := false

namespace Fold

/-- Nothing was passed. -/
def nothing : Fold := {}

/-- What was passed counts for this text. -/
def text (fold : Fold) : List Char :=
  if fold.joined then List.replicate fold.breaks '\n'
  else if fold.breaks = 0 then fold.blanks.reverse
  else if fold.breaks = 1 then [' ']
  else List.replicate (fold.breaks - 1) '\n'

/-- Whether the reader stands before the first visible character of a further line. -/
def atLineStart (fold : Fold) : Bool :=
  fold.joined || 0 < fold.breaks

/-- Another blank or end of a line. -/
def push (fold : Fold) (c : Char) : Fold :=
  if c == '\n' then { fold with breaks := fold.breaks + 1 }
  else if fold.atLineStart then fold
  else { fold with blanks := c :: fold.blanks }

end Fold

/-- A text before the text that is read next. -/
def prependText (text : List Char) :
    Option (List Char × Spot) → Option (List Char × Spot)
  | some (more, spot) => some (text ++ more, spot)
  | none => none

/-- Whether a character may stand in this column: on further lines it may not stand in
the columns of the indentation, unless it is a space. -/
def isIndented (indent column : Nat) (fold : Fold) : Bool :=
  !fold.atLineStart || indent ≤ column

/-! ## Quotes -/

/-- The rest of a scalar within single quotes. A quote within it is written twice. -/
def readSingle (indent : Nat) : Fold → Nat → List Char → Option (List Char × Spot)
  | _, _, [] => none
  | fold, column, '\'' :: '\'' :: rest =>
    if isIndented indent column fold then
      prependText (fold.text ++ ['\'']) (readSingle indent .nothing (column + 2) rest)
    else none
  | fold, column, c :: rest =>
    if c == '\n' then readSingle indent (fold.push c) 0 rest
    else if c == ' ' then readSingle indent (fold.push c) (column + 1) rest
    else if !isIndented indent column fold then none
    else if c == '\t' then readSingle indent (fold.push c) (column + 1) rest
    else if c == '\'' then some (fold.text, ⟨column + 1, rest⟩)
    else prependText (fold.text ++ [c]) (readSingle indent .nothing (column + 1) rest)

/-- The character of an escape of one letter. -/
def shortEscape? : Char → Option Char
  | '0' => some '\x00'
  | 'a' => some '\x07'
  | 'b' => some '\x08'
  | 't' => some '\t'
  | '\t' => some '\t'
  | 'n' => some '\n'
  | 'v' => some '\x0b'
  | 'f' => some '\x0c'
  | 'r' => some '\r'
  | 'e' => some '\x1b'
  | ' ' => some ' '
  | '"' => some '"'
  | '/' => some '/'
  | '\\' => some '\\'
  | 'N' => some '\u0085'
  | '_' => some '\u00a0'
  | 'L' => some '\u2028'
  | 'P' => some '\u2029'
  | _ => none

/-- One less than the number of digits of an escape with a code. -/
def codeLength? : Char → Option Nat
  | 'x' => some 1
  | 'u' => some 3
  | 'U' => some 7
  | _ => none

/-- The character with a number, if there is one. -/
def charOf? (code : Nat) : Option Char :=
  if code < 0xD800 || (0xDFFF < code && code < 0x110000) then some (Char.ofNat code)
  else none

/-- Where in a scalar within double quotes the reader stands: outside escapes, after a
backslash, or within the digits of a code, of which `missing + 1` are to come. -/
inductive Escape where
  | outside
  | started
  | code (missing value : Nat)

/-- The rest of a scalar within double quotes. -/
def readDouble (indent : Nat) :
    Escape → Fold → Nat → List Char → Option (List Char × Spot)
  | _, _, _, [] => none
  | .outside, fold, column, c :: rest =>
    if c == '\n' then readDouble indent .outside (fold.push c) 0 rest
    else if c == ' ' then readDouble indent .outside (fold.push c) (column + 1) rest
    else if !isIndented indent column fold then none
    else if c == '\t' then readDouble indent .outside (fold.push c) (column + 1) rest
    else if c == '"' then some (fold.text, ⟨column + 1, rest⟩)
    else if c == '\\' then
      prependText fold.text (readDouble indent .started .nothing (column + 1) rest)
    else prependText (fold.text ++ [c])
      (readDouble indent .outside .nothing (column + 1) rest)
  | .started, _, column, c :: rest =>
    if c == '\n' then readDouble indent .outside { joined := true } 0 rest
    else
      match codeLength? c with
      | some missing => readDouble indent (.code missing 0) .nothing (column + 1) rest
      | none =>
        match shortEscape? c with
        | some e =>
          prependText [e] (readDouble indent .outside .nothing (column + 1) rest)
        | none => none
  | .code missing value, _, column, c :: rest =>
    if Number.isDigitOf 16 c then
      let value := value * 16 + Number.digitValue c
      match missing with
      | 0 =>
        match charOf? value with
        | some c =>
          prependText [c] (readDouble indent .outside .nothing (column + 1) rest)
        | none => none
      | missing + 1 =>
        readDouble indent (.code missing value) .nothing (column + 1) rest
    else none

/-! ## No quotes -/

/-- The characters that mean something else than a scalar without quotes. -/
def indicators : List Char :=
  ['#', '&', '*', '!', '|', '>', '\'', '"', '%', '@', '\x60']

/-- Whether a scalar without quotes may start here. Within brackets and braces their
marks may not start it, nor follow a dash that does. -/
def startsPlain (flow : Bool) : List Char → Bool
  | [] => false
  | c :: rest =>
    if c == '-' then !startsBlank rest && !(flow && rest.head?.any isFlowMark)
    else if c == ':' || c ==
        '?' then !startsBlank rest && !(flow && rest.head?.any isFlowMark)
    else if flow && (c == '|' || c == '>') then true
    else !isFlowMark c && !indicators.contains c

/-- Whether a scalar without quotes goes on with the first character of a text. -/
def continuesPlain (flow : Bool) : List Char → Bool
  | [] => false
  | c :: rest =>
    if c == ':' then !startsBlank rest && !(flow && rest.head?.any isFlowMark)
    else !(flow && isFlowMark c)

/-- The rest of a scalar without quotes, from its first character on. It ends before a
colon with a blank after it, before a comment, before a line that is not indented, and
before a mark between documents. The spot is the one after its last visible character,
`last`. -/
def readPlain (flow : Bool) (indent : Nat) (last : Spot) : Fold → Nat → List Char →
    Option (List Char × Spot)
  | _, _, [] => some ([], last)
  | fold, column, c :: rest =>
    if c == '\n' then readPlain flow indent last (fold.push c) 0 rest
    else if c == ' ' then readPlain flow indent last (fold.push c) (column + 1) rest
    else if fold.atLineStart &&
        (column < indent || Spot.atBoundary ⟨column, c :: rest⟩) then
      if c == '\t' || flow then none else some ([], last)
    else if c == '\t' then readPlain flow indent last (fold.push c) (column + 1) rest
    else if (c == '#' && (fold.atLineStart || !fold.blanks.isEmpty)) ||
        !continuesPlain flow (c :: rest) then some ([], last)
    else
      prependText (fold.text ++ [c])
        (readPlain flow indent ⟨column + 1, rest⟩ .nothing (column + 1) rest)

/-- A scalar without quotes. -/
def readPlainFrom (flow : Bool) (indent : Nat) (spot : Spot) : Option (String × Spot) :=
  if startsPlain flow spot.text then
    (readPlain flow indent spot .nothing spot.column spot.text).map fun (text, spot) =>
      (String.ofList text, spot)
  else none

/-! ## Blocks of lines -/

/-- What becomes of the ends of lines at the end of a block: the last one is kept, none
is, or all are. -/
inductive Chomp where
  | clip
  | strip
  | keep
  deriving DecidableEq

/-- The head of a block of lines: whether the lines are folded, what becomes of the ends
of lines at its end, and how far it is indented, if the head says so. -/
structure BlockHead where
  folded : Bool
  chomp : Chomp := .clip
  indent : Option Nat := none

/-- The marks of the head of a block, in any order, each at most once. -/
def readBlockHead (folded : Bool) : List Char → Option (BlockHead × List Char)
  | c :: d :: rest =>
    match chompOf? c, indentOf? d, indentOf? c, chompOf? d with
    | some chomp, some indent, _, _ => some (⟨folded, chomp, some indent⟩, rest)
    | _, _, some indent, some chomp => some (⟨folded, chomp, some indent⟩, rest)
    | some chomp, none, _, _ => some (⟨folded, chomp, none⟩, d :: rest)
    | _, _, some indent, none => some (⟨folded, .clip, some indent⟩, d :: rest)
    | _, _, _, _ => some (⟨folded, .clip, none⟩, c :: d :: rest)
  | [c] =>
    match chompOf? c, indentOf? c with
    | some chomp, _ => some (⟨folded, chomp, none⟩, [])
    | _, some indent => some (⟨folded, .clip, some indent⟩, [])
    | _, _ => some (⟨folded, .clip, none⟩, [c])
  | [] => some (⟨folded, .clip, none⟩, [])
where
  chompOf? (c : Char) : Option Chomp :=
    if c == '-' then some .strip else if c == '+' then some .keep else none
  indentOf? (c : Char) : Option Nat :=
    if c.isDigit && c != '0' then some (c.toNat - '0'.toNat) else none

/-- How many spaces a line starts with. -/
def indentation (line : List Char) : Nat :=
  (line.takeWhile (· == ' ')).length

/-- Whether a line holds spaces only. -/
def isBare (line : List Char) : Bool :=
  line.all (· == ' ')

/-- The lines of a folded block as one text. A single end of a line between lines that
do not start with a blank counts as a space. The arguments say whether the last line
that is not empty may be joined, and how many ends of lines there were since. -/
def foldLines : Bool → Nat → List (List Char) → List Char
  | _, _, [] => []
  | joins, breaks, line :: lines =>
    if line.isEmpty then foldLines joins (breaks + 1) lines
    else
      let joinsHere := !line.head?.any isBlank
      let gap : Fold :=
        if joins && joinsHere then { breaks } else { breaks, joined := true }
      gap.text ++ line ++ foldLines joinsHere 1 lines

/-- The text of the lines of a block, of which the last is not empty, and of the ends of
lines after it. -/
def blockText (head : BlockHead) (lines : List (List Char)) (ends : Nat) : List Char :=
  let text := if head.folded then foldLines false 0 lines else Text.join '\n' lines
  let tail :=
    match head.chomp with
    | .strip => 0
    | .clip => if lines.isEmpty then 0 else min 1 ends
    | .keep => ends
  text ++ List.replicate tail '\n'

/-- The columns that belong to the indentation of a block: as many as its head says
beyond those of the table around it, or as many as its first line has. -/
def blockIndent (indent : Nat) (head : BlockHead) (lines : List (List Char)) : Nat :=
  match head.indent with
  | some count => indent - 1 + count
  | none =>
    max (max indent 1) ((lines.find? fun line => !isBare line).elim 0 indentation)

/-- A block of lines, after the mark that it starts with. The result is the start of the
line after it. -/
def readBlock (folded : Bool) (indent : Nat) (spot : Spot) : Option (String × Spot) :=
  do
  let (head, rest) ← readBlockHead folded spot.text
  let spot ← Spot.finish 0 ⟨0, rest.takeWhile (· != '\n')⟩
  if !spot.atEnd then none
  let lines := Text.parts '\n' ((rest.dropWhile (· != '\n')).drop 1)
  let columns := blockIndent indent head lines
  let belongs (line : List Char) : Bool := isBare line || columns ≤ indentation line
  let after := lines.dropWhile belongs
  let body := (lines.takeWhile belongs).map (List.drop columns)
  let empties := (body.reverse.takeWhile List.isEmpty).length
  let ends := if after.isEmpty then empties else empties + 1
  let text := blockText head (body.take (body.length - empties)) ends
  return (String.ofList text, ⟨0, Text.join '\n' after⟩)

end ContentBatch.Yaml
