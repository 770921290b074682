import ContentBatch.Environment
import ContentBatch.Journal.Basic
import ContentBatch.Logging.Filter

/-!
# Logging

Events go to one receiver, which is set once: to the console that this library sets up
from the environment, or to a receiver of the host. If the host has one already, it is
kept.

A console prints the events that its filter lets through, as text or as JSON. A line in
JSON also has the label of the innermost span around the event; spans have a level and a
target too, and only those that the filter lets through are seen.
-/

namespace ContentBatch

/-- Where events are printed, and how. -/
structure Console where
  filter : EventFilter
  json : Bool

/-- A line that is printed for an event, with the label of the span around it. -/
structure LogLine where
  event : Event
  label : Option String

/-- Whoever receives events. -/
inductive Receiver where
  | nobody
  | host
  | console (printer : Console)

/-- The receiver of events, and whether logging was set up. -/
structure Logging where
  receiver : Receiver := .nobody
  started : Bool := false

namespace Environment

/-- The name of the environment. -/
def stageName (environment : Environment) : String :=
  ((environment.get? "DEFERRED_ACTIONS_ENV").or
    (environment.get? "APP_ENV")).getD "development"

/-- The filter that counts if none is set: details are left out in production. -/
def standardFilter (stage : String) : EventFilter :=
  .atLeast (if stage == "production" then .info else .debug)

/-- The filter that is set, if it can be read, or the standard one. -/
def eventFilter (environment : Environment) : EventFilter :=
  let written := environment.get? "RUST_LOG" >>= EventFilter.ofText?
  written.getD (standardFilter environment.stageName)

/-- Whether lines are to be printed as JSON. -/
def wantsJson (environment : Environment) : Bool :=
  (environment.get? "DEFERRED_ACTIONS_LOG_FORMAT").any fun format =>
    format.map Char.toLower == "json"

/-- The console that an environment asks for. -/
def console (environment : Environment) : Console :=
  ⟨environment.eventFilter, environment.wantsJson⟩

end Environment

namespace Console

/-- The level of spans. -/
def spanLevel : Level := .info

/-- The target of spans. -/
def spanTarget : String := "deferred_actions::logging"

/-- The label of the innermost span that is let through. -/
def labelOf (console : Console) (scope : Scope) : Option String :=
  if console.filter.allows spanLevel spanTarget then scope.map Span.label else none

/-- The line for an event, if it is let through. -/
def line? (console : Console) (event : Event) (scope : Scope) : Option LogLine :=
  if console.filter.allows event.level event.target then
    some ⟨event, console.labelOf scope⟩
  else none

end Console

namespace Receiver

/-- What is recorded of an event, if anything is. A receiver of the host records all. -/
def line? : Receiver → Event → Scope → Option LogLine
  | nobody, _, _ => none
  | host, event, scope => some ⟨event, scope.map Span.label⟩
  | console printer, event, scope => printer.line? event scope

/-- What is recorded of events, in order. -/
def lines (receiver : Receiver) (events : List (Event × Scope)) : List LogLine :=
  events.filterMap fun (event, scope) => receiver.line? event scope

end Receiver

namespace Logging

/-- Sets up logging, and the event that tells of it. Only the first time has an
effect. -/
def start (environment : Environment) (logging : Logging) : Logging × Option Event :=
  if logging.started then (logging, none)
  else
    match logging.receiver with
    | .nobody =>
      ({ receiver := .console environment.console, started := true },
        some (.loggingStarted environment.stageName environment.wantsJson))
    | receiver => ({ receiver, started := true }, some .loggingKept)

/-- Sets up logging several times, and the events that tell of it. -/
def startTimes (environment : Environment) : Nat → Logging → Logging × List Event
  | 0, logging => (logging, [])
  | count + 1, logging =>
    let (logging, event) := logging.start environment
    let (logging, events) := startTimes environment count logging
    (logging, event.toList ++ events)

end Logging

end ContentBatch
