/-!
# Places in YAML files

In a YAML file the column counts, so readers work on a `Spot`: the text that is left,
and the column that it starts in. Lines end with a line feed; other ends of lines are
replaced before reading.

Between two parts of a file there may be a gap of blanks, comments and ends of lines
(`skipGap`). Where the columns of a line are indentation, tabs are not allowed in them.
-/

namespace ContentBatch.Yaml

/-- The text that is left, and the column that it starts in. -/
structure Spot where
  column : Nat
  text : List Char

/-- The text with every end of line written as a line feed. -/
def unifyLines : List Char → List Char
  | '\r' :: '\n' :: rest => '\n' :: unifyLines rest
  | '\r' :: rest => '\n' :: unifyLines rest
  | c :: rest => c :: unifyLines rest
  | [] => []

/-- Whether a character is a space or a tab. -/
def isBlank (c : Char) : Bool :=
  c == ' ' || c == '\t'

/-- Whether a text starts with a blank, or a line ends there. -/
def startsBlank : List Char → Bool
  | c :: _ => isBlank c || c == '\n'
  | [] => true

/-- Whether a character bounds collections within brackets or braces, or their parts. -/
def isFlowMark (c : Char) : Bool :=
  c == ',' || c == '[' || c == ']' || c == '\x7b' || c == '\x7d'

namespace Spot

/-- Whether no text is left. -/
def atEnd (spot : Spot) : Bool := spot.text.isEmpty

/-- The spot after so many characters of the line. -/
def skip (count : Nat) (spot : Spot) : Spot :=
  ⟨spot.column + count, spot.text.drop count⟩

/-- The spot after leading blanks. -/
def skipBlanks (spot : Spot) : Spot :=
  spot.skip (spot.text.takeWhile isBlank).length

/-- Whether a line starts here with three dashes. -/
def atStartMark (spot : Spot) : Bool :=
  spot.column == 0 && ['-', '-', '-'].isPrefixOf spot.text &&
    startsBlank (spot.text.drop 3)

/-- Whether a line starts here with three points. -/
def atEndMark (spot : Spot) : Bool :=
  spot.column == 0 && ['.', '.', '.'].isPrefixOf spot.text &&
    startsBlank (spot.text.drop 3)

/-- Whether the document ends here: at the end of the text or at a mark between
documents. -/
def atBoundary (spot : Spot) : Bool :=
  spot.atEnd || spot.atStartMark || spot.atEndMark

/-- Whether an item of a block starts here: a dash with a blank after it. -/
def atDash (spot : Spot) : Bool :=
  match spot.text with
  | '-' :: rest => startsBlank rest
  | _ => false

end Spot

/-- What is known about the gap so far: whether it reached another line, whether the
last character was a blank or the end of a line, whether only blanks were seen on this
line, whether there was a tab among the columns of the indentation, and whether a
comment was started. -/
structure Gap where
  crossed : Bool
  spaced : Bool
  leading : Bool
  tabbed : Bool := false
  comment : Bool := false

/-- The gap before anything was skipped. -/
def Gap.none : Gap := ⟨false, false, false, false, false⟩

/-- The gap at the start of the text. -/
def Gap.atStart : Gap := ⟨true, true, true, false, false⟩

/-- The end of a gap, and whether it lies on another line. The columns before `indent`
are indentation; on a line that holds more than blanks there is no tab among them. A
comment needs a blank before it. -/
def skipGap (indent : Nat) : Gap → Nat → List Char → Option (Bool × Spot)
  | gap, column, [] => some (gap.crossed, ⟨column, []⟩)
  | gap, column, c :: rest =>
    if c == '\n' then skipGap indent Gap.atStart 0 rest
    else if gap.comment then skipGap indent gap (column + 1) rest
    else if isBlank c then
      let tabbed := gap.tabbed || (gap.leading && c == '\t' && column < indent)
      skipGap indent { gap with spaced := true, tabbed } (column + 1) rest
    else if c == '#' && gap.spaced then
      if gap.tabbed then none
      else skipGap indent { gap with comment := true } (column + 1) rest
    else if gap.tabbed then none
    else some (gap.crossed, ⟨column, c :: rest⟩)

namespace Spot

/-- The end of the gap after this spot, and whether it lies on another line. -/
def next (indent : Nat) (spot : Spot) : Option (Bool × Spot) :=
  skipGap indent .none spot.column spot.text

/-- The end of the gap after this spot, after which nothing may stand on the same
line. -/
def finish (indent : Nat) (spot : Spot) : Option Spot := do
  let (crossed, spot) ← spot.next indent
  if crossed || spot.atEnd then some spot else none

end Spot

end ContentBatch.Yaml
