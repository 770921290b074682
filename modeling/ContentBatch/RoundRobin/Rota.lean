import ContentBatch.RoundRobin.Basic

/-!
# Many cursors on one rotation

A `Rota` keeps the cursors that were made from one rotation, numbered in the order in
which they were made: private ones, and ones that several workers share. A request
touches one cursor at most. A shared cursor can take over the place of a private one,
which then starts afresh.
-/

namespace ContentBatch.RoundRobin

variable {α : Type}

/-- The cursors made from one rotation. -/
structure Rota (rotation : RoundRobin α) where
  cursors : List (Cursor rotation) := []
  shared : List (Cursor rotation) := []

/-- What can be asked of a rota. -/
inductive Request where
  | size
  | values
  | newCursor
  | next (cursor : Nat)
  | position (cursor : Nat)
  | bounds (cursor : Nat)
  | take (cursor count : Nat)
  | nth (cursor count : Nat)
  | newShared
  | shareFrom (cursor : Nat)
  | advance (shared : Nat)
  deriving DecidableEq, Repr

/-- What a rota answers. A cursor never runs out, so its bounds are the greatest count
below and nothing above. -/
inductive Answer (α : Type) where
  | value (value : α)
  | values (values : List α)
  | number (number : Nat)
  | endless
  deriving Repr

namespace Rota

variable {rotation : RoundRobin α}

/-- Lets the private cursor of that number give an answer and move on. -/
def withCursor (rota : Rota rotation) (number : Nat)
    (move : Cursor rotation → Answer α × Cursor rotation) :
    Option (Answer α × Rota rotation) :=
  rota.cursors[number]?.map fun cursor =>
    let (answer, cursor) := move cursor
    (answer, { rota with cursors := rota.cursors.set number cursor })

/-- The answer to a request and the rota after it; nothing if there is no such
cursor. -/
def answer (rota : Rota rotation) : Request → Option (Answer α × Rota rotation)
  | .size => some (.number rotation.size, rota)
  | .values => some (.values rotation.values, rota)
  | .newCursor =>
    some (.number rota.cursors.length,
      { rota with cursors := rota.cursors ++ [.start rotation] })
  | .next number => rota.withCursor number fun cursor =>
      let (value, cursor) := cursor.draw
      (.value value, cursor)
  | .position number =>
    rota.withCursor number fun cursor => (.number cursor.position, cursor)
  | .bounds number => rota.withCursor number fun cursor => (.endless, cursor)
  | .take number count => rota.withCursor number fun cursor =>
      let (values, cursor) := cursor.draws count
      (.values values, cursor)
  | .nth number count => rota.withCursor number fun cursor =>
      let (value, cursor) := cursor.nth count
      (.value value, cursor)
  | .newShared =>
    some (.number rota.shared.length,
      { rota with shared := rota.shared ++ [.start rotation] })
  | .shareFrom number =>
    rota.cursors[number]?.map fun cursor =>
      (.number rota.shared.length,
        ⟨rota.cursors.set number (.start rotation), rota.shared ++ [cursor]⟩)
  | .advance number =>
    rota.shared[number]?.map fun cursor =>
      let (value, cursor) := cursor.draw
      (.value value, { rota with shared := rota.shared.set number cursor })

/-- The answers to requests made one after another. -/
def answers (rota : Rota rotation) : List Request → Option (List (Answer α))
  | [] => some []
  | request :: rest => do
      let (first, rota) ← rota.answer request
      let others ← rota.answers rest
      return first :: others

end Rota

end ContentBatch.RoundRobin
