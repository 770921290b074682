/-!
# Digits

Runs of digits at the head of a text and the numbers they stand for. `splitDigits` cuts
a text after its leading digits; nothing is lost (`splitDigits_append`) and what was cut
off are digits (`isDigit_of_mem_splitDigits`).
-/

namespace ContentBatch.Number

/-- The value of a digit in any base up to thirty-six; other characters count as
zero. -/
def digitValue (c : Char) : Nat :=
  if c.isDigit then c.toNat - '0'.toNat
  else if c.isLower then c.toNat - 'a'.toNat + 10
  else if c.isUpper then c.toNat - 'A'.toNat + 10
  else 0

/-- Whether a character is a digit of the base. -/
def isDigitOf (base : Nat) (c : Char) : Bool :=
  c.isAlphanum && digitValue c < base

/-- The number that a run of digits stands for, most significant digit first. -/
def valueOf (base : Nat) (digits : List Char) : Nat :=
  digits.foldl (fun value c => value * base + digitValue c) 0

/-- The leading decimal digits of a text, and the rest. -/
def splitDigits (text : List Char) : List Char × List Char :=
  (text.takeWhile Char.isDigit, text.dropWhile Char.isDigit)

theorem splitDigits_append (text : List Char) :
    (splitDigits text).1 ++ (splitDigits text).2 = text :=
  List.takeWhile_append_dropWhile

theorem isDigit_of_mem_splitDigits {text : List Char} {c : Char}
    (h : c ∈ (splitDigits text).1) : c.isDigit = true :=
  List.all_eq_true.1 (List.all_takeWhile) c h

/-- A natural number written in decimal digits only. -/
def natural? (text : List Char) : Option Nat :=
  if text.isEmpty || !text.all Char.isDigit then none else some (valueOf 10 text)

/-- A natural number with an optional plus sign, no greater than `limit`. -/
def unsigned? (limit : Nat) (text : List Char) : Option Nat := do
  let value ← natural? (match text with | '+' :: rest => rest | _ => text)
  if value ≤ limit then some value else none

theorem unsigned?_le {limit value : Nat} {text : List Char}
    (h : unsigned? limit text = some value) :
    value ≤ limit := by
  obtain ⟨number, -, hNumber⟩ := Option.bind_eq_some_iff.1 h
  by_cases hLe : number ≤ limit
  · rw [if_pos hLe] at hNumber
    exact Option.some.inj hNumber ▸ hLe
  · rw [if_neg hLe] at hNumber
    cases hNumber

/-- An integer with an optional sign, between `-limit - 1` and `limit`. -/
def signed? (limit : Nat) (text : List Char) : Option Int :=
  match text with
  | '-' :: rest => do
      let value ← natural? rest
      if value ≤ limit + 1 then some (-(value : Int)) else none
  | _ => (unsigned? limit text).map Int.ofNat

/-- The greatest unsigned number of thirty-two bits. -/
def maxUnsigned32 : Nat := 4294967295

/-- The greatest signed number of sixty-four bits. -/
def maxSigned64 : Nat := 9223372036854775807

/-- The greatest unsigned number of sixty-four bits. -/
def maxUnsigned64 : Nat := 18446744073709551615

end ContentBatch.Number
