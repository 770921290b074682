import ContentBatch.Journal.Event
import ContentBatch.Number.Digits
import ContentBatch.Text.Parts

/-!
# Filters of events

A filter is a list of directives. Each says, for the events whose target starts with
some text, how important they have to be. The directive with the longest such text
counts, of two with the same text the later one; an event that no directive is about is
not let through.

Filters are written with commas between the directives, a directive as `target=level`,
as a level alone, which is about all events, or as a target alone, which lets through
all its events.
-/

namespace ContentBatch

/-- The least level that is let through, if any is. -/
abbrev Threshold := Option Level

namespace Threshold

/-- Whether a level is important enough. -/
def allows (threshold : Threshold) (level : Level) : Bool :=
  threshold.any fun least => least.rank ≤ level.rank

/-- The thresholds by their numbers. -/
def numbered : List Threshold :=
  [none, some .error, some .warn, some .info, some .debug, some .trace]

/-- The thresholds by their names in capital letters. -/
def named : List (String × Threshold) :=
  [("OFF", none), ("ERROR", some .error), ("WARN", some .warn), ("INFO", some .info),
    ("DEBUG", some .debug), ("TRACE", some .trace)]

/-- The threshold that a word stands for: a number, or a name in letters of any size. -/
def ofWord? (word : List Char) : Option Threshold :=
  match Number.unsigned? Number.maxUnsigned64 word with
  | some number => numbered[number]?
  | none => named.lookup (String.ofList (word.map Char.toUpper))

end Threshold

/-- How important the events of some targets have to be. -/
structure Directive where
  target : List Char
  threshold : Threshold
  deriving DecidableEq, Repr

namespace Directive

/-- Whether a character may stand in a target. -/
def isTargetChar (c : Char) : Bool :=
  c.isAlphanum || c == '_' || c == ':' || c == '-'

/-- The directive that a text stands for. -/
def ofText? (text : List Char) : Option Directive :=
  match Threshold.ofWord? text with
  | some threshold => some ⟨[], threshold⟩
  | none =>
    let target := text.takeWhile isTargetChar
    if target.isEmpty then none
    else
      match text.drop target.length with
      | [] => some ⟨target, some .trace⟩
      | ['='] => some ⟨target, some .trace⟩
      | '=' :: word => (Threshold.ofWord? word).map (Directive.mk target)
      | _ => none

end Directive

/-- Which events are let through. -/
abbrev EventFilter := List Directive

namespace EventFilter

/-- The filter that lets all events through that are important enough. -/
def atLeast (level : Level) : EventFilter :=
  [⟨[], some level⟩]

/-- The filter that a text stands for. A text without directives lets errors through. -/
def ofText? (text : String) : Option EventFilter := do
  let written := (Text.parts ',' text.toList).filter fun part => !part.isEmpty
  let directives ← written.mapM Directive.ofText?
  return if directives.isEmpty then atLeast .error else directives

/-- The better of two directives about the same events: the later one, unless it is
about more. -/
def better (best : Option Directive) (next : Directive) : Option Directive :=
  match best with
  | some old => if next.target.length < old.target.length then some old else some next
  | none => some next

/-- The directive about the events of a target. -/
def directiveFor? (filter : EventFilter) (target : String) : Option Directive :=
  (filter.filter fun directive =>
    directive.target.isPrefixOf target.toList).foldl better none

/-- Whether something of a level and a target is let through. -/
def allows (filter : EventFilter) (level : Level) (target : String) : Bool :=
  (filter.directiveFor? target).any fun directive => directive.threshold.allows level

end EventFilter

end ContentBatch
