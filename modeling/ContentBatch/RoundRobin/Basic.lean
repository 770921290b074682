import ContentBatch.Error

/-!
# Rotations

A rotation hands out the values of a list one after another and starts again at its end.
The list is not empty, so there is always a next value.

A `Cursor` is a place in a rotation. It never leaves the list, and drawing from it
always succeeds: `draws_fst` and `draws_position` say which values come out and where
the cursor stands afterwards.
-/

namespace ContentBatch

/-- A list of at least one value to be handed out in turn. -/
structure RoundRobin (α : Type) where
  values : List α
  nonempty : values ≠ []
  deriving DecidableEq

namespace RoundRobin

variable {α : Type}

/-- The rotation over a list; an empty list has none. -/
def of? (values : List α) : Except ActionError (RoundRobin α) :=
  if h : values ≠ [] then .ok ⟨values, h⟩
  else .error (.validation "round robin requires at least one value")

/-- The number of values. -/
def size (rotation : RoundRobin α) : Nat := rotation.values.length

theorem size_pos (rotation : RoundRobin α) : 0 < rotation.size :=
  List.length_pos_iff.2 rotation.nonempty

/-- The value of the `count`-th turn, counted from zero. -/
def turn (rotation : RoundRobin α) (count : Nat) : α :=
  rotation.values.get ⟨count % rotation.size, Nat.mod_lt _ rotation.size_pos⟩

theorem turn_mod (rotation : RoundRobin α) (count : Nat) :
    rotation.turn (count % rotation.size) = rotation.turn count := by
  simp [turn]

/-- A place in a rotation. -/
structure Cursor (rotation : RoundRobin α) where
  position : Nat
  position_lt : position < rotation.size

namespace Cursor

variable {rotation : RoundRobin α}

/-- The cursor at the first value. -/
def start (rotation : RoundRobin α) : Cursor rotation := ⟨0, rotation.size_pos⟩

/-- The cursor after `count` further values. -/
def skip (cursor : Cursor rotation) (count : Nat) : Cursor rotation :=
  ⟨(cursor.position + count) % rotation.size, Nat.mod_lt _ rotation.size_pos⟩

/-- The value at the cursor, and the cursor after it. -/
def draw (cursor : Cursor rotation) : α × Cursor rotation :=
  (rotation.turn cursor.position, cursor.skip 1)

/-- The next `count` values, and the cursor after them. -/
def draws : Nat → Cursor rotation → List α × Cursor rotation
  | 0, cursor => ([], cursor)
  | count + 1, cursor =>
    let (value, cursor) := cursor.draw
    let (values, cursor) := draws count cursor
    (value :: values, cursor)

/-- The value after `count` skipped ones, and the cursor after it. -/
def nth (cursor : Cursor rotation) (count : Nat) : α × Cursor rotation :=
  (cursor.skip count).draw

theorem draws_position (count : Nat) (cursor : Cursor rotation) :
    (draws count cursor).2.position = (cursor.position + count) % rotation.size := by
  induction count generalizing cursor with
  | zero => simp [draws, Nat.mod_eq_of_lt cursor.position_lt]
  | succ count ih =>
    simp only [draws, draw, ih, skip]
    rw [Nat.mod_add_mod]
    congr 1
    omega

theorem draws_fst (count : Nat) (cursor : Cursor rotation) :
    (draws count cursor).1 =
      (List.range count).map fun k => rotation.turn (cursor.position + k) := by
  induction count generalizing cursor with
  | zero => simp [draws]
  | succ count ih =>
    simp only [draws, draw, ih, skip, List.range_succ_eq_map,
      List.map_cons, List.map_map]
    congr 1
    apply List.map_congr_left
    intro k _
    simp only [Function.comp_apply, turn]
    congr 2
    rw [Nat.mod_add_mod]
    congr 1
    omega

/-- Skipping is drawing, up to the values. -/
theorem nth_eq_draw (count : Nat) (cursor : Cursor rotation) :
    cursor.nth count = (draws count cursor).2.draw := by
  have hSkip : (draws count cursor).2 = cursor.skip count := by
    cases hDrawn : (draws count cursor).2 with
    | mk position _ =>
      have hPosition := draws_position count cursor
      rw [hDrawn] at hPosition
      subst hPosition
      rfl
  rw [nth, hSkip]

end Cursor

end RoundRobin

end ContentBatch
