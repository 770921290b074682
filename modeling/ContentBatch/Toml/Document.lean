import ContentBatch.Toml.Scalar
import ContentBatch.Toml.Table

/-!
# TOML files

A file is a sequence of *statements*: entries, headers of tables and headers of rows of
tables. They are read one after another and applied to a draft, which knows the table
that entries are added to.

Every value within another one comes after a mark that opens the outer one, so the
length of the text bounds the depth of the calls.
-/

namespace ContentBatch.Toml

/-! ## Values -/

/-- The table of entries within braces. -/
def tableOf? (entries : List (Key × Datum)) : Option Datum :=
  (entries.foldlM (fun table (key, datum) => Table.add table key datum) []).map
    fun table =>
    (Node.table .headed table).toDatum

mutual

/-- A value. The second argument says how many levels of brackets and braces may still
be opened. -/
def readValue : Nat → Nat → List Char → Option (Datum × List Char)
  | 0, _, _ => none
  | fuel + 1, levels, text =>
    match text with
    | 't' :: 'r' :: 'u' :: 'e' :: rest => some (.bool true, rest)
    | 'f' :: 'a' :: 'l' :: 's' :: 'e' :: rest => some (.bool false, rest)
    | '[' :: rest =>
      match levels with
      | 0 => none
      | levels + 1 => do
          let (items, rest) ← readItems fuel levels rest
          return (.list items, rest)
    | '\x7b' :: rest =>
      match levels with
      | 0 => none
      | levels + 1 =>
        match skipBlanks rest with
        | '\x7d' :: rest => some (.table [], rest)
        | rest => do
            let (entries, rest) ← readEntries fuel levels rest
            return (← tableOf? entries, rest)
    | '"' :: _ =>
      (readString text).map fun (value, rest) => (.text (String.ofList value), rest)
    | '\'' :: _ =>
      (readString text).map fun (value, rest) => (.text (String.ofList value), rest)
    | _ =>
      if startsDate text || startsTime text then readMoment text else readNumber text

/-- The items of a list, with blanks, ends of lines and comments around them, and the
closing bracket. A comma may stand after the last item. -/
def readItems : Nat → Nat → List Char → Option (List Datum × List Char)
  | 0, _, _ => none
  | fuel + 1, levels, text => do
      match ← skipLines false text with
      | ']' :: rest => return ([], rest)
      | text =>
        let (item, rest) ← readValue fuel levels text
        match ← skipLines false rest with
        | ']' :: rest => return ([item], rest)
        | ',' :: rest =>
          let (items, rest) ← readItems fuel levels rest
          return (item :: items, rest)
        | _ => none

/-- The entries within braces, on one line and with no comma after the last one, and the
closing brace. -/
def readEntries : Nat → Nat → List Char → Option (List (Key × Datum) × List Char)
  | 0, _, _ => none
  | fuel + 1, levels, text => do
      let (key, rest) ← readKey text
      let rest ← expect '=' rest
      let (datum, rest) ← readValue fuel levels (skipBlanks rest)
      match skipBlanks rest with
      | '\x7d' :: rest => return ([(key, datum)], rest)
      | ',' :: rest =>
        let (entries, rest) ← readEntries fuel levels rest
        return ((key, datum) :: entries, rest)
      | _ => none

end

/-! ## Statements -/

/-- What a file consists of. -/
inductive Statement where
  | entry (key : Key) (datum : Datum)
  | tableHeader (key : Key)
  | rowHeader (key : Key)

/-- A statement from its first character on, up to the end of its line. -/
def readStatement (text : List Char) : Option (Statement × List Char) :=
  match text with
  | '[' :: '[' :: rest => do
      let (key, rest) ← readKey rest
      let rest ← expect ']' rest >>= expect ']'
      return (.rowHeader key, ← finishLine rest)
  | '[' :: rest => do
      let (key, rest) ← readKey rest
      let rest ← expect ']' rest
      return (.tableHeader key, ← finishLine rest)
  | _ => do
      let (key, rest) ← readKey text
      let rest ← expect '=' rest
      let (datum, rest) ← readValue (2 * rest.length + 2) maxNesting (skipBlanks rest)
      return (.entry key datum, ← finishLine rest)

/-- All statements of a text. Each takes a character at least, so the length of the text
is fuel enough. -/
def readStatements : Nat → List Char → Option (List Statement)
  | 0, _ => none
  | fuel + 1, text => do
      match ← skipLines false text with
      | [] => return []
      | text =>
        let (statement, rest) ← readStatement text
        return statement :: (← readStatements fuel rest)

/-- What the statements so far have come to, and the path of the table that entries are
added to. -/
structure Draft where
  table : Table
  current : List String

/-- Applies a statement. -/
def Draft.apply (draft : Draft) : Statement → Option Draft
  | .entry key datum => do
      let table ← draft.table.updateAt false
          (fun _ entries => Table.add entries key datum)
        draft.current .headed
      return { draft with table }
  | .tableHeader key => do
      let table ← draft.table.updateAt false
          (fun _ entries => Table.openTable key.name entries)
        key.path .headed
      return ⟨table, key.path ++ [key.name]⟩
  | .rowHeader key => do
      let table ← draft.table.updateAt false
          (fun _ entries => Table.openRow key.name entries)
        key.path .headed
      return ⟨table, key.path ++ [key.name]⟩

end ContentBatch.Toml

namespace ContentBatch.Datum

/-- The table that the text of a TOML file stands for. The text may start with a mark of
its byte order. -/
def ofTomlText? (source : String) : Option Datum := do
  let chars := match source.toList with
    | '\ufeff' :: rest => rest
    | chars => chars
  let statements ← Toml.readStatements (chars.length + 1) chars
  let draft ← statements.foldlM Toml.Draft.apply ⟨[], []⟩
  return (Toml.Node.table .headed draft.table).toDatum

end ContentBatch.Datum
