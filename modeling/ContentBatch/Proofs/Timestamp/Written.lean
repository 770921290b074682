import Mathlib.Algebra.Group.Nat.Defs
import ContentBatch.Proofs.Number.Written
import ContentBatch.Timestamp.Text

/-!
# Written instants are read back

An instant is written in one way, and that text stands for the instant: each number is
read with the digits that it was written with, the fraction is exact, a leap second is
the sixtieth again, and the offset is none.

Only the year has to be one that instants may have.  The years of all instants that were
read are.

## Main results

* `ofText?_toText`: the text of an instant stands for it.
* `yearInRange_of_ofText?`: what was read has a year that instants may have.
-/

namespace ContentBatch.Timestamp

/-! ## Numbers of a fixed width -/

theorem isDigit_of_mem_padded {width number : Nat} {c : Char}
    (h : c ∈ padded width number) :
    c.isDigit = true := by
  rcases List.mem_append.1 h with hZero | hDigit
  · rw [List.eq_of_mem_replicate hZero]
    rfl
  · exact Number.isDigit_of_mem_toDigits hDigit

theorem valueOf_padded (width number : Nat) :
    Number.valueOf 10 (padded width number) = number := by
  rw [padded, Number.valueOf_replicate_append, Number.valueOf_toDigits]

theorem length_padded {width number : Nat} (hWidth : 0 < width)
    (h : number < 10 ^ width) :
    (padded width number).length = width := by
  have hDigits := (Nat.length_toDigits_le_iff (by decide) hWidth).2 h
  rw [padded, List.length_append, List.length_replicate]
  omega

theorem splitDigits_padded (width number : Nat) {rest : List Char}
    (hRest : ∀ c ∈ rest.head?, c.isDigit = false) :
    Number.splitDigits (padded width number ++ rest) = (padded width number, rest) :=
  Number.splitDigits_of_digits (fun _ hc => isDigit_of_mem_padded hc) hRest

theorem isBlank_of_isDigit {c : Char} (h : c.isDigit = true) : Text.isBlank c = false :=
  by
  have hDigits : ∀ digit < 10, Text.Property.whiteSpace.holds (digit + 48) = false := by
    decide
  simp only [Char.isDigit, Bool.and_eq_true, decide_eq_true_eq] at h
  have hLow : 48 ≤ c.toNat := UInt32.le_iff_toNat_le.1 h.1
  have hHigh : c.toNat ≤ 57 := UInt32.le_iff_toNat_le.1 h.2
  have hDigit := hDigits (c.toNat - 48) (by omega)
  rwa [Nat.sub_add_cancel hLow] at hDigit

theorem skipBlanks_of_not_blank {c : Char} (rest : List Char)
    (h : Text.isBlank c = false) :
    skipBlanks (c :: rest) = c :: rest := by
  rw [skipBlanks, List.dropWhile_cons, h, if_neg Bool.false_ne_true]

theorem exists_padded_eq_cons (width number : Nat) :
    ∃ digit digits, padded width number = digit :: digits ∧ digit.isDigit = true :=
  Number.exists_cons_of_digits (fun _ hc => isDigit_of_mem_padded hc)
    fun hNil => Nat.toDigits_ne_nil (List.append_eq_nil_iff.1 hNil).2

theorem isEmpty_padded (width number : Nat) : (padded width number).isEmpty = false :=
  by
  obtain ⟨digit, digits, hPadded, -⟩ := exists_padded_eq_cons width number
  rw [hPadded]
  rfl

theorem skipBlanks_padded (width number : Nat) (rest : List Char) :
    skipBlanks (padded width number ++ rest) = padded width number ++ rest := by
  obtain ⟨digit, digits, hPadded, hDigit⟩ := exists_padded_eq_cons width number
  rw [hPadded, List.cons_append, skipBlanks_of_not_blank _ (isBlank_of_isDigit hDigit)]

/-- A number is read with the width that it was written with. -/
theorem readNumber_padded {width number : Nat} (rest : List Char) (hWidth : 0 < width)
    (h : number < 10 ^ width) :
    readNumber width (padded width number ++ rest) = some (number, rest) := by
  have hTake : (padded width number ++ rest).take width = padded width number := by
    rw [List.take_append_of_le_length (Nat.le_of_eq (length_padded hWidth h).symm)]
    exact List.take_of_length_le (Nat.le_of_eq (length_padded hWidth h))
  have hDigits : (padded width number).takeWhile Char.isDigit =
      padded width number := by
    have hSplit := congrArg Prod.fst (@splitDigits_padded width number [] (by simp))
    rwa [List.append_nil] at hSplit
  rw [readNumber, skipBlanks_padded, hTake, hDigits, isEmpty_padded,
    if_neg Bool.false_ne_true, valueOf_padded, List.drop_left]

theorem skipMark_self {mark : Char} (rest : List Char) (h : Text.isBlank mark = false) :
    skipMark mark (mark :: rest) = some rest := by
  rw [skipMark, skipBlanks_of_not_blank rest h]
  simp

/-! ## The year and the fraction -/

/-- A year of four digits has no sign, any other year has one and is read to its last
digit. -/
theorem readYear_writeYear (year : Int) {rest : List Char}
    (hRest : ∀ c ∈ rest.head?, c.isDigit = false) :
    readYear (writeYear year ++ rest) = some (year, rest) := by
  have hSplit := fun number => splitDigits_padded 4 number hRest
  cases year with
  | ofNat year =>
      by_cases hFour : year ≤ 9999
      · obtain ⟨digit, digits, hPadded, hDigit⟩ := exists_padded_eq_cons 4 year
        have hRead :=
          readNumber_padded rest (Nat.zero_lt_succ 3) (show year < 10 ^ 4 by omega)
        rw [writeYear, if_pos hFour, readYear, skipBlanks_padded]
        rw [hPadded] at hRead ⊢
        split
        · rename_i hSign
          obtain rfl := (List.cons.inj hSign).1
          cases hDigit
        · rename_i hSign
          obtain rfl := (List.cons.inj hSign).1
          cases hDigit
        · rw [hRead]
          rfl
      · rw [writeYear, if_neg hFour, List.cons_append, readYear,
          skipBlanks_of_not_blank _ (by decide)]
        simp [hSplit, isEmpty_padded, valueOf_padded]
  | negSucc year =>
      rw [writeYear, List.cons_append, readYear, skipBlanks_of_not_blank _ (by decide)]
      simp [hSplit, isEmpty_padded, valueOf_padded, Int.negSucc_eq]

/-- Up to nine digits are read as that part of a second. -/
theorem readFraction_padded {width fraction : Nat} (rest : List Char)
    (hWidth : 0 < width) (hNine : width ≤ 9) (h : fraction < 10 ^ width) :
    readFraction ('.' :: padded width fraction ++ 'Z' :: rest) =
      some (fraction * 10 ^ (9 - width), 'Z' :: rest) := by
  have hSplit := @splitDigits_padded width fraction ('Z' :: rest) (by simp)
  have hKept : (padded width fraction).take 9 = padded width fraction :=
    List.take_of_length_le (by rwa [length_padded hWidth h])
  rw [List.cons_append, readFraction, hSplit]
  simp [isEmpty_padded, hKept, length_padded hWidth h, valueOf_padded]

/-- A fraction is written with as many digits as make it exact. -/
theorem readFraction_writeFraction {nanos : Nat} (h : nanos < 1000000000)
    (rest : List Char) :
    readFraction (writeFraction nanos ++ 'Z' :: rest) = some (nanos, 'Z' :: rest) := by
  unfold writeFraction
  split
  · rename_i hZero
    rw [hZero]
    rfl
  · split
    · rw [readFraction_padded rest (by decide) (by decide) (by omega)]
      congr
      omega
    · split
      · rw [readFraction_padded rest (by decide) (by decide) (by omega)]
        congr
        omega
      · rw [readFraction_padded rest (by decide) (by decide) (by omega)]
        congr
        omega

/-! ## Instants -/

/-- Written date and time of day. -/
def written (date : Date) (hour minute second nanos : Nat) : List Char :=
  writeYear date.year ++ '-' :: (padded 2 date.month ++ '-' :: (padded 2 date.day ++
    'T' :: (padded 2 hour ++ ':' :: (padded 2 minute ++ ':' :: (padded 2 second ++
      (writeFraction nanos ++ ['Z']))))))

/-- The text of a local time with offset none stands for it. -/
theorem ofText?_written {hour minute second nanos : Nat} {t : Timestamp}
    (hYear : yearInRange t.date.year = true) (hHour : hour < 24) (hMinute : minute < 60)
    (hSecond : second ≤ 60) (hNanos : nanos < 1000000000)
    (hLocal : local? t.date hour minute second nanos = some t) :
    ofText? (String.ofList (written t.date hour minute second nanos)) = some t := by
  have hTwo : ∀ {number}, number < 100 → ∀ rest,
      readNumber 2 (padded 2 number ++ rest) = some (number, rest) :=
    fun hNumber rest => readNumber_padded rest (by decide) hNumber
  have hMonth : t.date.month < 100 := Nat.lt_of_le_of_lt t.date.month_le (by decide)
  have hDay : t.date.day < 100 :=
    Nat.lt_of_le_of_lt (Nat.le_trans t.date.day_le (daysIn_le _ _)) (by decide)
  have hDash : Text.isBlank '-' = false := by decide
  have hColon : Text.isBlank ':' = false := by decide
  have hZone : skipBlanks ['Z'] = ['Z'] := skipBlanks_of_not_blank [] (by decide)
  have hBounds : -1440 < (0 : Int) ∧ (0 : Int) < 1440 := by omega
  have hChecks : ((skipBlanks []).isEmpty && yearInRange t.date.year &&
      yearInRange (t.ofLocal 0 hBounds).date.year) = true := by
    rw [ofLocal_zero, hYear]
    rfl
  rw [ofText?, String.toList_ofList, written]
  -- the text is read part by part, as it was written
  refine Option.bind_eq_some_iff.2 ⟨_, readYear_writeYear t.date.year (by simp), ?_⟩
  refine Option.bind_eq_some_iff.2 ⟨_, skipMark_self _ hDash, ?_⟩
  refine Option.bind_eq_some_iff.2 ⟨_, hTwo hMonth _, ?_⟩
  refine Option.bind_eq_some_iff.2 ⟨_, skipMark_self _ hDash, ?_⟩
  refine Option.bind_eq_some_iff.2 ⟨_, hTwo hDay _, ?_⟩
  refine Option.bind_eq_some_iff.2 ⟨_, hTwo (by omega) _, ?_⟩
  refine Option.bind_eq_some_iff.2 ⟨_, skipMark_self _ hColon, ?_⟩
  refine Option.bind_eq_some_iff.2 ⟨_, hTwo (by omega) _, ?_⟩
  refine Option.bind_eq_some_iff.2 ⟨_, skipMark_self _ hColon, ?_⟩
  refine Option.bind_eq_some_iff.2 ⟨_, hTwo (by omega) _, ?_⟩
  refine Option.bind_eq_some_iff.2 ⟨_, readFraction_writeFraction hNanos [], ?_⟩
  refine Option.bind_eq_some_iff.2 ⟨(0, []), congrArg readOffset hZone, ?_⟩
  refine Option.bind_eq_some_iff.2 ⟨_, t.date.of?_self, ?_⟩
  refine Option.bind_eq_some_iff.2 ⟨_, hLocal, ?_⟩
  refine (dif_pos hBounds).trans ((if_pos hChecks).trans ?_)
  rw [ofLocal_zero]

/-- A leap second is written as the sixtieth. -/
theorem toText_eq_written (t : Timestamp) :
    t.toText = String.ofList (written t.date (t.second / 3600) (t.second / 60 % 60)
      (t.second % 60 + if 1000000000 ≤ t.nanos then 1 else 0)
      (if 1000000000 ≤ t.nanos then t.nanos - 1000000000 else t.nanos)) := by
  by_cases hLeap : 1000000000 ≤ t.nanos
  · rw [if_pos hLeap, if_pos hLeap]
    simp only [toText, if_pos hLeap, written, List.append_assoc, List.cons_append]
  · rw [if_neg hLeap, if_neg hLeap, Nat.add_zero]
    simp only [toText, if_neg hLeap, written, List.append_assoc,
      List.cons_append, Nat.add_zero]

theorem local?_written (t : Timestamp) :
    local? t.date (t.second / 3600) (t.second / 60 % 60)
      (t.second % 60 + if 1000000000 ≤ t.nanos then 1 else 0)
      (if 1000000000 ≤ t.nanos then t.nanos - 1000000000 else t.nanos) = some t := by
  obtain ⟨date, second, nanos, hSecond, hNanos, hLast⟩ := t
  by_cases hLeap : 1000000000 ≤ nanos
  · have hMinute : second % 60 = 59 := hLast hLeap
    have hRange : (second / 3600 < 24 ∧ second / 60 % 60 < 60) ∧
        59 + 1 ≤ 60 ∧ nanos - 1000000000 < 1000000000 := by omega
    have hSixty : 59 + 1 = 60 := rfl
    show local? date (second / 3600) (second / 60 % 60)
        (second % 60 + ite _ 1 0) (ite _ _ _) = _
    rw [if_pos hLeap, if_pos hLeap, hMinute, local?, dif_pos hRange, dif_pos hSixty]
    simp only [Option.some.injEq, mk.injEq, true_and]
    omega
  · have hRange : (second / 3600 < 24 ∧ second / 60 % 60 < 60) ∧
        second % 60 + 0 ≤ 60 ∧ nanos < 1000000000 := by omega
    have hNot : second % 60 + 0 ≠ 60 := by omega
    simp only [if_neg hLeap, local?, dif_pos hRange, dif_neg hNot,
      Option.some.injEq, mk.injEq, true_and, and_true]
    omega

/-- The text of an instant stands for it. -/
theorem ofText?_toText {t : Timestamp} (h : yearInRange t.date.year = true) :
    ofText? t.toText = some t := by
  have hSecond := t.second_lt
  have hNanos := t.nanos_lt
  rw [toText_eq_written]
  exact ofText?_written h (by omega) (by omega) (by split <;> omega)
    (by split <;> omega)
    (local?_written t)

/-- What was read has a year that instants may have. -/
theorem yearInRange_of_ofText? {text : String} {t : Timestamp}
    (h : ofText? text = some t) :
    yearInRange t.date.year = true := by
  rw [ofText?] at h
  -- nothing of the parts matters but that the last check is made of the instant itself
  iterate 5 obtain ⟨_, -, h⟩ := Option.bind_eq_some_iff.1 h
  dsimp only at h
  split at h
  · split at h
    · iterate 10 obtain ⟨_, -, h⟩ := Option.bind_eq_some_iff.1 h
      split at h
      · split at h
        · rename_i hChecks
          cases h
          exact (Bool.and_eq_true_iff.1 hChecks).2
        · cases h
      · cases h
    · cases h
  · cases h

end ContentBatch.Timestamp
