import ContentBatch.Journal.Event
import ContentBatch.Journal.Span
import ContentBatch.Repository

/-!
# The journal

The journal of a run is what can be seen of it, in order: the calls of the repository
and whether they failed, the waits, the decisions of classifiers, the attempts of
retries and how they came out, the spans that were opened, and the events. Spans and
events are noted together with the span around them.
-/

namespace ContentBatch

/-- One line of the journal. -/
inductive Entry where
  | call (call : Call) (failure : Option ActionError)
  | pause (delay : Millis) (token : Option Token) (completed : Bool)
  | decision (classifier : Classifier) (error : ActionError) (attempt : Nat)
  | attempt (number : Nat)
  | attempted (number : Nat) (failure : Option ActionError)
  | retried (failure : Option ActionError)
  | span (span : Span) (within : Scope)
  | event (event : Event) (within : Scope)

/-- What can be seen of a run, in order. -/
abbrev Journal := Array Entry

namespace Journal

/-- The calls of a journal with their failures, in order. -/
def calls (journal : Journal) : List (Call × Option ActionError) :=
  journal.toList.filterMap fun
    | .call call failure => some (call, failure)
    | _ => none

/-- The events of a journal with the spans around them, in order. -/
def events (journal : Journal) : List (Event × Scope) :=
  journal.toList.filterMap fun
    | .event event within => some (event, within)
    | _ => none

/-- The spans of a journal with the spans around them, in order. -/
def spans (journal : Journal) : List (Span × Scope) :=
  journal.toList.filterMap fun
    | .span span within => some (span, within)
    | _ => none

end Journal

end ContentBatch
