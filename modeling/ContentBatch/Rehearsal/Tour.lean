import ContentBatch.Rehearsal.Scenario

/-!
# Tours

A tour takes a world past stops. At each stop one thing is done that is told about: a
note about an operation is made, an action is applied to an item, or a filter is asked
about one. Failures do not end a tour.

`tourEvents` is what is told on a short tour that meets events of all levels, to try out
what is printed: two notes, a retry that is exhausted and one that succeeds, and a
question about an asset that is not there.
-/

namespace ContentBatch.Rehearsal

/-- The stops of tours. -/
inductive Stop where
  | note (span : Span) (operation path status : String) (details : Option String)
  | application (action : Action World) (path : String)
  | question (filter : Filter World) (path : String)

/-- What is done at a stop. -/
def Stop.visit : Stop → Job World Unit
  | note span operation path status details =>
    Job.within none span fun scope =>
      Job.emit scope (.itemOperation operation path status details)
  | application action path => discard (applyTo action path)
  | question filter path => discard (ask filter path)

/-- The events that are told at the stops, in a world as it is at first. -/
def eventsOfTour (world : World) (stops : List Stop) : List (Event × Scope) :=
  let visited := stops.foldl (fun batch stop => (stop.visit batch).2) { store := world }
  visited.journal.events

/-- A world in which replication fails twice. -/
def tourWorld : World :=
  let failure : Turn := { error := some (.replication "/a" "unavailable") }
  { queues := [(.replicate, [failure, failure])] }

/-- The stops of the short tour. -/
def tourStops : List Stop :=
  let settings : Retry := { policy := ⟨2, 0, by decide⟩ }
  let retried : Action World := .retry settings Catalog.activateAll
  [.note (.onItem "activate" "/a") "activate" "/a" "completed" none,
    .note (.onWork "retry" "nightly") "nightly" "/b" "failed" (some "why"),
    .application retried "/a",
    .application retried "/a",
    .question .hasOutdatedRenditions "/a"]

/-- The events of the short tour. -/
def tourEvents : List (Event × Scope) :=
  eventsOfTour tourWorld tourStops

end ContentBatch.Rehearsal
