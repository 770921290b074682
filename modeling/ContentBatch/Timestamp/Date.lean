/-!
# Dates

Days of the Gregorian calendar, extended to all years. A `Date` is valid by
construction, so that stepping to the next or the previous day is total. No count of
days since some epoch is needed: the distance between a local time and universal time is
less than a day, hence one step at most.
-/

namespace ContentBatch

/-- Whether a year has a twenty-ninth of February. -/
def isLeapYear (year : Int) : Bool :=
  year % 4 == 0 && (year % 100 != 0 || year % 400 == 0)

/-- The number of days of a month. -/
def daysIn (year : Int) (month : Nat) : Nat :=
  if month == 2 then (if isLeapYear year then 29 else 28)
  else if month == 4 || month == 6 || month == 9 || month == 11 then 30
  else 31

theorem daysIn_pos (year : Int) (month : Nat) : 1 ≤ daysIn year month := by
  unfold daysIn
  split
  · split <;> omega
  · split <;> omega

theorem daysIn_le (year : Int) (month : Nat) : daysIn year month ≤ 31 := by
  unfold daysIn
  split
  · split <;> omega
  · split <;> omega

/-- A day of the calendar. -/
structure Date where
  year : Int
  month : Nat
  day : Nat
  month_pos : 1 ≤ month
  month_le : month ≤ 12
  day_pos : 1 ≤ day
  day_le : day ≤ daysIn year month
  deriving DecidableEq, Repr

namespace Date

/-- The day with the given numbers, if there is one. -/
def of? (year : Int) (month day : Nat) : Option Date :=
  if h : (1 ≤ month ∧ month ≤ 12) ∧ (1 ≤ day ∧ day ≤ daysIn year month) then
    some ⟨year, month, day, h.1.1, h.1.2, h.2.1, h.2.2⟩
  else none

theorem of?_self (date : Date) : of? date.year date.month date.day = some date := by
  simp [of?, date.month_pos, date.month_le, date.day_pos, date.day_le]

/-- The day after. -/
def next (date : Date) : Date :=
  if hDay : date.day + 1 ≤ daysIn date.year date.month then
    { date with day := date.day + 1, day_pos := by omega, day_le := hDay }
  else if hMonth : date.month + 1 ≤ 12 then
    ⟨date.year, date.month + 1, 1, by omega, hMonth, by omega, daysIn_pos _ _⟩
  else
    ⟨date.year + 1, 1, 1, by omega, by omega, by omega, daysIn_pos _ _⟩

/-- The day before. -/
def previous (date : Date) : Date :=
  if hDay : 1 < date.day then
    { date with
      day := date.day - 1, day_pos := by omega
      day_le := by have := date.day_le; omega }
  else if hMonth : 1 < date.month then
    ⟨date.year, date.month - 1, daysIn date.year (date.month - 1), by omega,
      by have := date.month_le; omega, daysIn_pos _ _, Nat.le_refl _⟩
  else
    ⟨date.year - 1, 12, daysIn (date.year - 1) 12, by omega, by omega, daysIn_pos _ _,
      Nat.le_refl _⟩

end Date

end ContentBatch
