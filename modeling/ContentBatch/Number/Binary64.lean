import ContentBatch.Number.Digits

/-!
# Numbers with a fraction

A `Decimal` is a number as it is written: a sign, the digits, and the power of ten they
are scaled by. A `Binary64` is what sixty-four bits can hold of it: an integer of at
most fifty-three bits scaled by a power of two, an infinity, or no number at all.

`Decimal.toBinary64` rounds to the nearest such number, a tie going to the even one.
`Decimal.scaled?` is the way of readers that are in a hurry: it rounds the digits, and
then once more for each power of ten by which it multiplies or divides. `Binary64.toNat`
goes on to the whole numbers, a half going away from zero, and stays within bounds.
-/

namespace ContentBatch.Number

/-- The number `± digits · 10 ^ exponent`. -/
structure Decimal where
  negative : Bool
  digits : Nat
  exponent : Int
  deriving DecidableEq, Repr

/-- The numbers of sixty-four bits; a finite one is `± mantissa · 2 ^ exponent`. -/
inductive Binary64 where
  | finite (negative : Bool) (mantissa : Nat) (exponent : Int)
  | infinite (negative : Bool)
  | notANumber
  deriving DecidableEq, Repr

/-- The quotient rounded to the nearest integer, a tie going to the even one. -/
def roundHalfEven (numerator denominator : Nat) : Nat :=
  let quotient := numerator / denominator
  let double := 2 * (numerator % denominator)
  if denominator < double ||
      (double == denominator && quotient % 2 == 1) then quotient + 1
  else quotient

namespace Binary64

/-- Zero. -/
def zero (negative : Bool) : Binary64 := .finite negative 0 0

/-- The least number that has more than fifty-three binary digits. -/
def mantissaBound : Nat := 9007199254740992

/-- Numerator and denominator of a quotient divided by `2 ^ exponent`. -/
def scaled (numerator denominator : Nat) (exponent : Int) : Nat × Nat :=
  match exponent with
  | .ofNat power => (numerator, denominator * Nat.pow 2 power)
  | .negSucc power => (numerator * Nat.pow 2 (power + 1), denominator)

/-- The exponent at which a quotient has fifty-three binary digits, or the least
exponent. -/
def exponentFor (numerator denominator : Nat) : Int :=
  let guess : Int := max ((numerator.log2 : Int) - denominator.log2 - 53) (-1074)
  let (n, d) := scaled numerator denominator guess
  if mantissaBound ≤ n / d then guess + 1 else guess

/-- The number nearest to a quotient of positive numbers. -/
def nearest (negative : Bool) (numerator denominator : Nat) : Binary64 :=
  if numerator = 0 then zero negative
  else
    let exponent := exponentFor numerator denominator
    let (n, d) := scaled numerator denominator exponent
    let mantissa := roundHalfEven n d
    if 971 < exponent || (exponent == 971 && mantissaBound ≤ mantissa) then
      .infinite negative
    else .finite negative mantissa exponent

/-- A finite number without its sign, as a quotient. -/
def ratio : Binary64 → Nat × Nat
  | .finite _ mantissa (.ofNat power) => (mantissa * Nat.pow 2 power, 1)
  | .finite _ mantissa (.negSucc power) => (mantissa, Nat.pow 2 (power + 1))
  | _ => (0, 1)

/-- The sign of a number. -/
def isNegative : Binary64 → Bool
  | .finite negative _ _ => negative
  | .infinite negative => negative
  | .notANumber => false

/-- A finite number times a positive one. -/
def times (number factor : Binary64) : Binary64 :=
  nearest number.isNegative (number.ratio.1 * factor.ratio.1)
    (number.ratio.2 * factor.ratio.2)

/-- A finite number divided by a positive one. -/
def dividedBy (number divisor : Binary64) : Binary64 :=
  nearest number.isNegative (number.ratio.1 * divisor.ratio.2)
    (number.ratio.2 * divisor.ratio.1)

/-- The greatest power of ten that is a number. -/
def maxTens : Nat := 308

/-- The number nearest to a power of ten. -/
def tens (power : Nat) : Binary64 := nearest false (Nat.pow 10 power) 1

/-- The nearest whole number no greater than `limit`, a half going away from zero.
Negative numbers and what is no number go to zero, everything too great to the limit. -/
def toNat (limit : Nat) : Binary64 → Nat
  | .finite true _ _ => 0
  | .finite false mantissa (.ofNat power) => min limit (mantissa * Nat.pow 2 power)
  | .finite false mantissa (.negSucc power) =>
    min limit ((mantissa + Nat.pow 2 power) / Nat.pow 2 (power + 1))
  | .infinite true => 0
  | .infinite false => limit
  | .notANumber => 0

theorem toNat_le (limit : Nat) (number : Binary64) : number.toNat limit ≤ limit := by
  unfold toNat
  split <;> omega

end Binary64

namespace Decimal

/-- The nearest number of sixty-four bits. Numbers whose digits start far beyond either
end of the range are settled by the position of their first digit alone. -/
def toBinary64 (number : Decimal) : Binary64 :=
  let lead : Int := (Nat.toDigits 10 number.digits).length + number.exponent
  if number.digits = 0 || lead < -400 then .zero number.negative
  else if 400 < lead then .infinite number.negative
  else
    match number.exponent with
    | .ofNat power => .nearest number.negative (number.digits * Nat.pow 10 power) 1
    | .negSucc power => .nearest number.negative number.digits (Nat.pow 10 (power + 1))

/-- The number that comes of the digits, which are at most sixty-four binary ones, by
multiplying or dividing with powers of ten; nothing if it is beyond the range. After two
divisions by the greatest power nothing is left. -/
def scaled? (number : Decimal) : Option Binary64 :=
  let digits := Binary64.nearest number.negative number.digits 1
  match number.exponent with
  | .ofNat power =>
    if number.digits = 0 then some digits
    else if Binary64.maxTens < power then none
    else
      match digits.times (.tens power) with
      | .infinite _ => none
      | product => some product
  | .negSucc below =>
    let power := below + 1
    if power ≤ Binary64.maxTens then some (digits.dividedBy (.tens power))
    else if power ≤ 2 * Binary64.maxTens then
      some ((digits.dividedBy (.tens Binary64.maxTens)).dividedBy
        (.tens (power - Binary64.maxTens)))
    else some (.zero number.negative)

/-- A number from its sign, its whole digits, the digits after its point and its
exponent. -/
def ofParts (negative : Bool) (whole fraction : List Char) (exponent : Int) : Decimal :=
  ⟨negative, valueOf 10 (whole ++ fraction), exponent - fraction.length⟩

end Decimal

/-- The sign at the head of a text, and the rest. -/
def splitSign : List Char → Bool × List Char
  | '-' :: rest => (true, rest)
  | '+' :: rest => (false, rest)
  | rest => (false, rest)

/-- The exponent that a text consists of: a letter `e`, an optional sign and digits. The
empty text is the exponent zero. -/
def exponent? : List Char → Option Int
  | [] => some 0
  | c :: rest =>
    if c == 'e' || c == 'E' then
      let (negative, digits) := splitSign rest
      (natural? digits).map fun n => if negative then -(n : Int) else (n : Int)
    else none

/-- A decimal number with an optional sign, an optional point with digits on at least
one side of it, and an optional exponent. -/
def decimal? (text : List Char) : Option Decimal :=
  let (negative, rest) := splitSign text
  let (whole, rest) := splitDigits rest
  let (fraction, rest) :=
    match rest with
    | '.' :: rest => splitDigits rest
    | _ => ([], rest)
  if whole.isEmpty && fraction.isEmpty then none
  else (exponent? rest).map (Decimal.ofParts negative whole fraction)

/-- A number written as a decimal, as `inf` or `infinity`, or as `nan`, the words in any
case and with an optional sign. -/
def float? (text : List Char) : Option Binary64 :=
  match decimal? text with
  | some number => some number.toBinary64
  | none =>
    let (negative, rest) := splitSign text
    let word := String.ofList (rest.map Char.toLower)
    if word == "inf" || word == "infinity" then some (.infinite negative)
    else if word == "nan" then some .notANumber
    else none

end ContentBatch.Number
