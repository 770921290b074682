import ContentBatch.Pattern.Token

/-!
# Reading patterns

The reader puts tokens together with a stack: one `GroupLevel` for each open group, with
the alternatives that are complete and the items of the current one. Flags belong to the
group in which they are switched, so they are kept with the group and return to what
they were when it is closed.

How deep a pattern may be nested is checked when it has been read. Only then is the
engine asked what it makes of the properties that the pattern names, and at last whether
it takes a pattern of that size.
-/

namespace ContentBatch.Pattern

/-- An open group: its complete alternatives and the items of the current one, each
latest first. An empty item stands for a change of flags. -/
structure GroupLevel where
  branches : List (Nested WrittenRegex) := []
  items : List (Option (Nested WrittenRegex)) := []

namespace GroupLevel

/-- The current alternative. -/
def branch (level : GroupLevel) : Nested WrittenRegex :=
  match level.items with
  | [] => ⟨.empty, 0⟩
  | [item] => item.getD ⟨.empty, 0⟩
  | items =>
    let parts := (items.filterMap id).reverse
    ⟨.sequences (parts.map Nested.value), greatestDepth parts + 1⟩

/-- The group with all its alternatives. -/
def whole (level : GroupLevel) : Nested WrittenRegex :=
  match level.branches with
  | [] => level.branch
  | branches =>
    let parts := (level.branch :: branches).reverse
    ⟨.choices (parts.map Nested.value), greatestDepth parts + 1⟩

/-- The group with another item. -/
def add (level : GroupLevel) (item : Option (Nested WrittenRegex)) : GroupLevel :=
  { level with items := item :: level.items }

/-- The group at the start of its next alternative. -/
def nextBranch (level : GroupLevel) : GroupLevel :=
  ⟨level.branch :: level.branches, []⟩

/-- The group with its last item repeated. -/
def repeatLast (level : GroupLevel) (least : Nat) (greatest : Option Nat) :
    Except Fault GroupLevel :=
  match level.items with
  | some last :: items =>
    .ok { level with
      items := some ⟨.repetition last.value least greatest, last.depth + 1⟩ :: items }
  | _ => .error .nothingToRepeat

end GroupLevel

/-- What was read so far: the flags, the innermost open group, those around it with the
flags to return to, and the names of groups. -/
structure Builder where
  flags : Flags := {}
  level : GroupLevel := {}
  outer : List (GroupLevel × Flags) := []
  names : List (List Char) := []

namespace Builder

/-- The builder after another token. -/
def take (builder : Builder) : Token → Except Fault Builder
  | .atom regex => .ok { builder with level := builder.level.add (some regex) }
  | .repeated least greatest => do
      return { builder with level := ← builder.level.repeatLast least greatest }
  | .open change name =>
    if name.any builder.names.contains then .error .repeatedGroupName
    else .ok ⟨builder.flags.change change, {},
      (builder.level, builder.flags) :: builder.outer, name.toList ++ builder.names⟩
  | .close =>
    match builder.outer with
    | [] => .error .unopenedGroup
    | (level, flags) :: outer =>
      let group := builder.level.whole
      .ok { builder with
        flags, level := level.add (some ⟨group.value, group.depth + 1⟩), outer }
  | .bar => .ok { builder with level := builder.level.nextBranch }
  | .switch change =>
    .ok { builder with
      flags := builder.flags.change change, level := builder.level.add none }

/-- The builder after the rest of a text. Each token takes a character at least, so the
length of the text is fuel enough. -/
def readFrom : Nat → Builder → List Char → Except Fault Builder
  | 0, builder, _ => .ok builder
  | fuel + 1, builder, text =>
    match skip builder.flags.verbose text with
    | [] => .ok builder
    | text => do
        let (token, rest) ← readToken builder.flags text
        readFrom fuel (← builder.take token) rest

end Builder

/-! ## Whole patterns -/

/-- How deep a pattern may be nested. -/
def maxNesting : Nat := 250

namespace WrittenRegex

/-- The expression that a pattern stands for, with the names of properties in it. -/
def ofPattern? (text : List Char) : Except Fault WrittenRegex := do
  let builder ← Builder.readFrom (text.length + 1) {} text
  let whole := builder.level.whole
  if !builder.outer.isEmpty then .error .unclosedGroup
  else if maxNesting < whole.depth then .error .nestedTooDeeply
  else .ok whole.value

/-- An expression with what an engine knows of the properties in it. -/
def resolve (engine : Engine) (written : WrittenRegex) : Option Regex :=
  written.mapSteps? (CharSet.resolve engine.property?)

end WrittenRegex

namespace Regex

/-- The expression that a pattern stands for, if an engine knows its properties and
admits it. -/
def ofPattern? (engine : Engine) (text : List Char) : Except Fault Regex := do
  let written ← WrittenRegex.ofPattern? text
  match written.resolve engine with
  | none => .error .unknownProperty
  | some regex => if engine.admits text then .ok regex else .error .tooLarge

end Regex

end ContentBatch.Pattern
