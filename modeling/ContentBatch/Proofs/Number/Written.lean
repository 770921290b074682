import ContentBatch.Number.Digits

/-!
# Written numbers

Numbers are written in decimal digits, and what was written is read back: the digits of
a number stand for it, zeros in front of them change nothing, and a reader that takes
all digits stops where the number ends.

## Main results

* `valueOf_toDigits`: the digits of a number stand for it.
* `splitDigits_of_digits`: digits are split off up to the first character that is none.
-/

namespace ContentBatch.Number

theorem digitValue_digitChar {digit : Nat} (h : digit < 16) :
    digitValue (Nat.digitChar digit) = digit := by
  revert digit
  decide

theorem isDigitOf_digitChar {digit : Nat} (h : digit < 16) :
    isDigitOf 16 (Nat.digitChar digit) = true := by
  revert digit
  decide

theorem valueOf_concat (base : Nat) (digits : List Char) (digit : Char) :
    valueOf base (digits ++ [digit]) =
      valueOf base digits * base + digitValue digit := by
  simp [valueOf]

/-- The digits of a number stand for it. -/
theorem valueOf_toDigits (number : Nat) :
    valueOf 10 (Nat.toDigits 10 number) = number := by
  induction number using Nat.strongRecOn with
  | ind number ih =>
      rw [Nat.toDigits_eq_if (by decide)]
      split
      · simp [valueOf, digitValue_digitChar (show number < 16 by omega)]
      · rw [valueOf_concat, ih (number / 10) (by omega),
          digitValue_digitChar (by omega)]
        omega

/-- Zeros in front of digits change nothing. -/
theorem valueOf_replicate_append (zeros : Nat) (digits : List Char) :
    valueOf 10 (List.replicate zeros '0' ++ digits) = valueOf 10 digits := by
  induction zeros with
  | zero => rfl
  | succ zeros ih => exact ih

/-- No number but zero starts with a zero. -/
theorem head?_toDigits {number : Nat} (h : 0 < number) :
    (Nat.toDigits 10 number).head? ≠ some '0' := by
  induction number using Nat.strongRecOn with
  | ind number ih =>
      rw [Nat.toDigits_eq_if (by decide)]
      split
      · have hDigit : number ≠ 0 := by omega
        simpa using hDigit
      · have hFront := ih (number / 10) (by omega) (by omega)
        cases hDigits : Nat.toDigits 10 (number / 10) with
        | nil => exact absurd hDigits Nat.toDigits_ne_nil
        | cons digit digits =>
            rw [hDigits] at hFront
            exact hFront

theorem isDigit_of_mem_toDigits {number : Nat} {c : Char}
    (h : c ∈ Nat.toDigits 10 number) :
    c.isDigit = true :=
  Nat.isDigit_of_mem_toDigits (by decide) (by decide) h

theorem exists_cons_of_digits {digits : List Char}
    (hDigits : ∀ c ∈ digits, c.isDigit = true) (h : digits ≠ []) :
    ∃ digit rest, digits = digit :: rest ∧ digit.isDigit = true := by
  obtain ⟨digit, rest, rfl⟩ := List.exists_cons_of_ne_nil h
  exact ⟨digit, rest, rfl, hDigits digit List.mem_cons_self⟩

/-- Digits are split off up to the first character that is none. -/
theorem splitDigits_of_digits {digits rest : List Char}
    (hDigits : ∀ c ∈ digits, c.isDigit = true)
    (hRest : ∀ c ∈ rest.head?, c.isDigit = false) :
    splitDigits (digits ++ rest) = (digits, rest) := by
  rw [splitDigits, List.takeWhile_append_of_pos hDigits,
    List.dropWhile_append_of_pos hDigits]
  cases rest with
  | nil => simp
  | cons c rest =>
      have hHead : c.isDigit = false := hRest c rfl
      simp [hHead]

end ContentBatch.Number
