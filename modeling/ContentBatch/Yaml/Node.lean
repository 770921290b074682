import ContentBatch.Yaml.Resolve
import ContentBatch.Yaml.Scalar

/-!
# Tables and lists in YAML files

A table or a list is written within braces or brackets, or as a *block*: its entries or
items all start in one column, and what belongs to an entry starts further to the right.
Only a list within a table may start in the column of the table.

What is within braces and brackets may go over several lines, but not to the left of
`indent`. A reader of a block returns the spot where the next part of the file starts,
beyond blanks and comments.

Every call is for a smaller part of the text or for the same part in a smaller role, so
a multiple of the length of the text bounds the depth of the calls.
-/

namespace ContentBatch.Yaml

/-! ## Names -/

/-- A scalar that is no block of lines, whether it is in quotes, and the spot right
after it. The first argument says whether it is within brackets or braces. -/
def readScalar (flow : Bool) (indent : Nat) (spot : Spot) :
    Option (Datum × Bool × Spot) :=
  match spot.text with
  | '"' :: rest => do
      let (text, after) ← readDouble indent .outside .nothing (spot.column + 1) rest
      return (.text (String.ofList text), true, after)
  | '\'' :: rest => do
      let (text, after) ← readSingle indent .nothing (spot.column + 1) rest
      return (.text (String.ofList text), true, after)
  | _ => do
      let (text, after) ← readPlainFrom flow indent spot
      return (← ofPlain? text, false, after)

/-- The spot after the colon of an entry, before which blanks may stand. -/
def passColon (spot : Spot) : Option Spot :=
  let spot := spot.skipBlanks
  match spot.text with
  | ':' :: rest => if startsBlank rest then some (spot.skip 1) else none
  | _ => none

/-- Whether the value of an entry is set off from its colon as it has to be: not by tabs
alone, if it starts with a letter, a digit, an underscore or a dash. -/
def isSetOff (afterColon : List Char) : Bool :=
  let blanks := afterColon.takeWhile isBlank
  let starts (c : Char) : Bool := c.isAlphanum || c == '_' || c == '-'
  blanks.head? != some '\t' || blanks.contains ' ' ||
    !((afterColon.drop blanks.length).head?.any starts)

/-- The name of an entry of a block, and the spot after its colon. A name stands on one
line. -/
def readName (spot : Spot) : Option (Name × Spot) := do
  let line : Spot := ⟨spot.column, spot.text.takeWhile (· != '\n')⟩
  let (datum, _, after) ← readScalar false 0 line
  let after ← passColon after
  return (← Name.ofDatum? datum, spot.skip (after.column - spot.column))

/-! ## Braces and brackets -/

/-- The next character within braces or brackets. It may not be to the left of the
indentation, and the document may not end before it. -/
def nextWithin (indent : Nat) (spot : Spot) : Option Spot := do
  let (_, spot) ← spot.next indent
  if spot.atBoundary || spot.column < indent then none else some spot

/-- The spot after a colon that sets a name within braces or brackets apart from its
value. After a name in quotes nothing needs to follow it. -/
def passFlowColon? (quoted : Bool) (spot : Spot) : Option Spot :=
  match spot.text with
  | ':' :: rest =>
    if quoted || startsBlank rest || rest.head?.any isFlowMark then some (spot.skip 1)
    else none
  | _ => none

mutual

/-- A value within braces or brackets, whether it may be a name without a blank after
its colon, and the spot right after it. -/
def readFlow : Nat → Nat → Spot → Option (Datum × Bool × Spot)
  | 0, _, _ => none
  | fuel + 1, indent, spot =>
    match spot.text with
    | '[' :: _ => do
        let (items, spot) ← readFlowItems fuel indent (spot.skip 1)
        return (.list items, true, spot)
    | '\x7b' :: _ => do
        let (entries, spot) ← readFlowEntries fuel indent (spot.skip 1)
        return (← tableOf? entries, true, spot)
    | _ => readScalar true indent spot

/-- The value of an entry within braces or brackets, after its colon; there may be
none. -/
def readFlowValue : Nat → Nat → Spot → Option (Datum × Spot)
  | 0, _, _ => none
  | fuel + 1, indent, spot => do
      let spot ← nextWithin indent spot
      match spot.text.head? with
      | some ',' => return (.null, spot)
      | some ']' => return (.null, spot)
      | some '\x7d' => return (.null, spot)
      | _ =>
        let (value, _, spot) ← readFlow fuel indent spot
        return (value, spot)

/-- The items within brackets, and the spot after the closing bracket. An item may be an
entry without braces. -/
def readFlowItems : Nat → Nat → Spot → Option (List Datum × Spot)
  | 0, _, _ => none
  | fuel + 1, indent, spot => do
      let spot ← nextWithin indent spot
      if spot.text.head? == some ']' then return ([], spot.skip 1)
      let (item, quoted, spot) ← readFlow fuel indent spot
      let spot ← nextWithin indent spot
      let (item, spot) ←
        match passFlowColon? quoted spot with
        | some spot =>
          let (value, spot) ← readFlowValue fuel indent spot
          let name ← Name.ofDatum? item
          pure (Datum.table [(name.key, value)], ← nextWithin indent spot)
        | none => pure (item, spot)
      match spot.text.head? with
      | some ']' => return ([item], spot.skip 1)
      | some ',' =>
        let (items, spot) ← readFlowItems fuel indent (spot.skip 1)
        return (item :: items, spot)
      | _ => none

/-- The entries within braces, and the spot after the closing brace. A name alone stands
for an entry without a value. -/
def readFlowEntries : Nat → Nat → Spot → Option (List (Name × Datum) × Spot)
  | 0, _, _ => none
  | fuel + 1, indent, spot => do
      let spot ← nextWithin indent spot
      if spot.text.head? == some '\x7d' then return ([], spot.skip 1)
      let (name, quoted, spot) ← readFlow fuel indent spot
      let name ← Name.ofDatum? name
      let spot ← nextWithin indent spot
      let (value, spot) ←
        match passFlowColon? quoted spot with
        | some spot =>
          let (value, spot) ← readFlowValue fuel indent spot
          pure (value, ← nextWithin indent spot)
        | none => pure (Datum.null, spot)
      match spot.text.head? with
      | some '\x7d' => return ([(name, value)], spot.skip 1)
      | some ',' =>
        let (entries, spot) ← readFlowEntries fuel indent (spot.skip 1)
        return ((name, value) :: entries, spot)
      | _ => none

end

/-! ## Blocks -/

/-- A value that is no block of entries or items, with nothing after it on its last
line. -/
def readLeaf (fuel indent : Nat) (spot : Spot) : Option (Datum × Spot) :=
  match spot.text with
  | '|' :: _ => do
      let (text, spot) ← readBlock false indent (spot.skip 1)
      let (_, spot) ← skipGap indent .atStart 0 spot.text
      return (.text text, spot)
  | '>' :: _ => do
      let (text, spot) ← readBlock true indent (spot.skip 1)
      let (_, spot) ← skipGap indent .atStart 0 spot.text
      return (.text text, spot)
  | _ => do
      let (value, _, spot) ←
        if spot.text.head?.any isFlowMark then readFlow fuel indent spot
        else readScalar false indent spot
      return (value, ← spot.finish indent)

mutual

/-- A value from its first character on. Further lines of it are indented as far as
`indent` says. On the line of a name, or of a mark between documents, no block may
start. -/
def readNode : Nat → Nat → Bool → Spot → Option (Datum × Spot)
  | 0, _, _, _ => none
  | fuel + 1, indent, inline, spot =>
    if inline then readLeaf fuel indent spot
    else if spot.atDash then do
      let (items, spot) ← readItems fuel spot.column spot
      return (.list items, spot)
    else if (readName spot).isSome then do
      let (entries, spot) ← readEntries fuel spot.column spot
      return (← tableOf? entries, spot)
    else readLeaf fuel indent spot

/-- The items of a list that starts in a column, from its first dash on. -/
def readItems : Nat → Nat → Spot → Option (List Datum × Spot)
  | 0, _, _ => none
  | fuel + 1, column, spot => do
      let (crossed, spot) ← (spot.skip 1).next (column + 1)
      let (item, spot) ←
        if spot.atBoundary || (crossed && spot.column ≤ column) then
          some (Datum.null, spot)
        else readNode fuel (column + 1) false spot
      if !spot.atBoundary && spot.column = column && spot.atDash then
        let (items, spot) ← readItems fuel column spot
        return (item :: items, spot)
      else if spot.atBoundary || spot.column ≤ column then return ([item], spot)
      else none

/-- The entries of a table that starts in a column, from its first name on. -/
def readEntries : Nat → Nat → Spot → Option (List (Name × Datum) × Spot)
  | 0, _, _ => none
  | fuel + 1, column, spot => do
      let (name, spot) ← readName spot
      if !isSetOff spot.text then none
      let (crossed, spot) ← spot.next (column + 1)
      let (value, spot) ←
        if spot.atBoundary then some (Datum.null, spot)
        else if !crossed then readNode fuel (column + 1) true spot
        else if column < spot.column then readNode fuel (column + 1) false spot
        else if spot.column = column && spot.atDash then
          (readItems fuel column spot).map fun (items, spot) => (Datum.list items, spot)
        else some (Datum.null, spot)
      if spot.atBoundary || spot.column < column then return ([(name, value)], spot)
      else if spot.column = column then
        let (entries, spot) ← readEntries fuel column spot
        return ((name, value) :: entries, spot)
      else none

end

end ContentBatch.Yaml

namespace ContentBatch.Datum

/-- The value of a document from the spot after the mark of its start on. A document
that is empty has the value null. -/
def ofYamlDocument? (fuel : Nat) (inline : Bool) (spot : Yaml.Spot) : Option Datum := do
  let (value, spot) ←
    if spot.atBoundary then some (null, spot) else Yaml.readNode fuel 0 inline spot
  if spot.atEndMark then
    let (crossed, rest) ← (spot.skip 3).next 0
    if rest.atEnd || (crossed && rest.atEndMark) then some value else none
  else if spot.atEnd then some value
  else none

/-- The value of a YAML file with one document. A file without any has an empty
table. -/
def ofYamlText? (source : String) : Option Datum := do
  let chars := Yaml.unifyLines source.toList
  let fuel := 3 * chars.length + 3
  let (_, spot) ← Yaml.skipGap 0 .atStart 0 chars
  if spot.atEnd then some (table [])
  else if spot.atStartMark then
    let (crossed, spot) ← (spot.skip 3).next 0
    ofYamlDocument? fuel (!crossed) spot
  else if spot.atEndMark then none
  else ofYamlDocument? fuel false spot

end ContentBatch.Datum
