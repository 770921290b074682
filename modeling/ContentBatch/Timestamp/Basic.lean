import ContentBatch.Timestamp.Date

/-!
# Instants

An instant is a day, a second of that day in universal time and a number of nanoseconds.
A leap second is the last second of its minute with a thousand million nanoseconds or
more, so it comes after that second and before the next minute.

Instants are compared through `Timestamp.rank`, an integer that grows with the instant.
-/

namespace ContentBatch

/-- An instant in universal time. -/
structure Timestamp where
  date : Date
  second : Nat
  nanos : Nat
  second_lt : second < 86400
  nanos_lt : nanos < 2000000000
  leap : 1000000000 ≤ nanos → second % 60 = 59
  deriving DecidableEq, Repr

namespace Timestamp

/-- The first instant of 1970. -/
def epoch : Timestamp where
  date := ⟨1970, 1, 1, by decide, by decide, by decide, by decide⟩
  second := 0
  nanos := 0
  second_lt := by decide
  nanos_lt := by decide
  leap := by decide

/-- A number that grows with the instant. It orders instants and does not measure them:
months count as thirty-two days and seconds as two. -/
def rank (t : Timestamp) : Int :=
  (((t.date.year * 16 + t.date.month) * 32 + t.date.day) * 86400 + t.second) *
    2000000000 + t.nanos

/-- Whether one instant comes strictly before another. -/
def before (a b : Timestamp) : Bool :=
  a.rank < b.rank

theorem before_iff (a b : Timestamp) : a.before b = true ↔ a.rank < b.rank := by
  simp [before]

/-- The instant whose local time, `offset` minutes ahead of universal time, is the given
one. -/
def ofLocal (t : Timestamp) (offset : Int)
    (h : -1440 < offset ∧ offset < 1440) : Timestamp :=
  let second : Int := t.second - offset * 60
  have hSecond := t.second_lt
  if hLow : second < 0 then
    { date := t.date.previous, second := (second + 86400).toNat, nanos := t.nanos
      second_lt := by omega, nanos_lt := t.nanos_lt, leap := by have := t.leap; omega }
  else if hHigh : 86400 ≤ second then
    { date := t.date.next, second := (second - 86400).toNat, nanos := t.nanos
      second_lt := by omega, nanos_lt := t.nanos_lt, leap := by have := t.leap; omega }
  else
    { date := t.date, second := second.toNat, nanos := t.nanos
      second_lt := by omega, nanos_lt := t.nanos_lt, leap := by have := t.leap; omega }

theorem ofLocal_zero (t : Timestamp) : t.ofLocal 0 (by omega) = t := by
  have hSecond := t.second_lt
  have hLow : ¬ ((t.second : Int) - 0 * 60 < 0) := by omega
  have hHigh : ¬ (86400 ≤ (t.second : Int) - 0 * 60) := by omega
  unfold ofLocal
  rw [dif_neg hLow, dif_neg hHigh]
  simp

end Timestamp

end ContentBatch
