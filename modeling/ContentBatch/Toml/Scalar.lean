import ContentBatch.Datum.Basic
import ContentBatch.Timestamp.Date

/-!
# Numbers and moments in TOML files

Numbers may have single underscores between their digits. Dates and times are checked
and kept as the text that they are written in, since no setting is a moment.
-/

namespace ContentBatch.Toml

/-- Further digits of a base. An underscore needs a digit after it. -/
def moreDigits (base : Nat) : List Char → Option (List Char × List Char)
  | [] => some ([], [])
  | '_' :: c :: rest =>
    if Number.isDigitOf base c then
      (moreDigits base rest).map fun (digits, rest) => (c :: digits, rest)
    else none
  | c :: rest =>
    if Number.isDigitOf base c then
      (moreDigits base rest).map fun (digits, rest) => (c :: digits, rest)
    else if c == '_' then none
    else some ([], c :: rest)

/-- The digits of a base, at least one. -/
def readDigits (base : Nat) : List Char → Option (List Char × List Char)
  | c :: rest =>
    if Number.isDigitOf base c then
      (moreDigits base rest).map fun (digits, rest) => (c :: digits, rest)
    else none
  | [] => none

/-- The whole digits of a decimal number: a zero alone, or digits that do not start with
a zero. -/
def readWhole : List Char → Option (List Char × List Char)
  | '0' :: rest => some (['0'], rest)
  | text => readDigits 10 text

/-- The digits after a point, if there is one. -/
def readFraction : List Char → Option (List Char × List Char)
  | '.' :: rest => readDigits 10 rest
  | rest => some ([], rest)

/-- The exponent, if there is one. -/
def readExponent : List Char → Option (Option Int × List Char)
  | c :: rest =>
    if c == 'e' || c == 'E' then do
      let (negative, rest) := Number.splitSign rest
      let (digits, rest) ← readDigits 10 rest
      let value : Int := Number.valueOf 10 digits
      return (some (if negative then -value else value), rest)
    else some (none, c :: rest)
  | [] => some (none, [])

/-- An integer of sixty-four bits with sign. -/
def integerOf? (negative : Bool) (value : Nat) : Option Datum :=
  if negative then
    if value ≤ Number.maxSigned64 + 1 then some (.integer (-value)) else none
  else if value ≤ Number.maxSigned64 then some (.integer value)
  else none

/-- A number with a fraction. One that is too great is refused, one that is too small is
not. -/
def floatOf? (number : Number.Decimal) : Option Datum :=
  match number.toBinary64 with
  | .infinite false => none
  | value => some (.float value)

/-- A number in decimal digits, after its sign. -/
def readDecimal (negative : Bool) (text : List Char) : Option (Datum × List Char) := do
  let (whole, rest) ← readWhole text
  let (fraction, rest) ← readFraction rest
  let (exponent, rest) ← readExponent rest
  let value ←
    if fraction.isEmpty && exponent.isNone then
      integerOf? negative (Number.valueOf 10 whole)
    else floatOf? (Number.Decimal.ofParts negative whole fraction (exponent.getD 0))
  return (value, rest)

/-- A number in digits of another base, after the letter of the base. -/
def readInBase (base : Nat) (text : List Char) : Option (Datum × List Char) := do
  let (digits, rest) ← readDigits base text
  return (← integerOf? false (Number.valueOf base digits), rest)

/-- A number. Only decimal numbers have a sign. -/
def readNumber (text : List Char) : Option (Datum × List Char) :=
  match text with
  | '0' :: 'x' :: rest => readInBase 16 rest
  | '0' :: 'o' :: rest => readInBase 8 rest
  | '0' :: 'b' :: rest => readInBase 2 rest
  | _ =>
    match Number.splitSign text with
    | (negative, 'i' :: 'n' :: 'f' :: rest) => some (.float (.infinite negative), rest)
    | (_, 'n' :: 'a' :: 'n' :: rest) => some (.float .notANumber, rest)
    | (negative, rest) => readDecimal negative rest

/-! ## Moments -/

/-- A number of so many decimal digits, within bounds. -/
def readFixed (count least greatest : Nat)
    (text : List Char) : Option (Nat × List Char) :=
  let digits := text.take count
  let value := Number.valueOf 10 digits
  if digits.length = count && digits.all Char.isDigit && least ≤
      value && value ≤ greatest then
    some (value, text.drop count)
  else none

/-- The text after a character that has to come next. -/
def expect (c : Char) : List Char → Option (List Char)
  | d :: rest => if c == d then some rest else none
  | [] => none

/-- The text after a date. -/
def passDate (text : List Char) : Option (List Char) := do
  let (year, rest) ← readFixed 4 0 9999 text
  let rest ← expect '-' rest
  let (month, rest) ← readFixed 2 1 12 rest
  let rest ← expect '-' rest
  let (_, rest) ← readFixed 2 1 (daysIn year month) rest
  return rest

/-- The text after hour and minute. -/
def passMinutes (text : List Char) : Option (List Char) := do
  let (_, rest) ← readFixed 2 0 23 text
  let rest ← expect ':' rest
  let (_, rest) ← readFixed 2 0 59 rest
  return rest

/-- The text after a fraction of a second. -/
def passFraction : List Char → List Char
  | '.' :: c :: rest =>
    if c.isDigit then rest.dropWhile Char.isDigit else '.' :: c :: rest
  | rest => rest

/-- The text after a time of day. -/
def passTime (text : List Char) : Option (List Char) := do
  let rest ← expect ':' (← passMinutes text)
  let (_, rest) ← readFixed 2 0 60 rest
  return passFraction rest

/-- The text after an offset from universal time, if there is one. -/
def passOffset : List Char → Option (List Char)
  | c :: rest =>
    if c == 'Z' || c == 'z' then some rest
    else if c == '+' || c == '-' then passMinutes rest
    else some (c :: rest)
  | [] => some []

/-- The text after the time of day that may follow a date. A space between the two
counts only if there are digits after it. -/
def passTimeOfDate : List Char → Option (List Char)
  | 'T' :: rest => passTime rest >>= passOffset
  | 't' :: rest => passTime rest >>= passOffset
  | ' ' :: c :: rest =>
    if c.isDigit then passTime (c :: rest) >>= passOffset else some (' ' :: c :: rest)
  | rest => some rest

/-- Whether a text starts like a date. -/
def startsDate (text : List Char) : Bool :=
  (text.take 4).all Char.isDigit && text[4]? == some '-'

/-- Whether a text starts like a time of day. -/
def startsTime (text : List Char) : Bool :=
  (text.take 2).all Char.isDigit && text[2]? == some ':'

/-- A date, with or without a time of day, or a time of day. -/
def readMoment (text : List Char) : Option (Datum × List Char) := do
  let rest ← if startsDate text then passDate text >>= passTimeOfDate else passTime text
  return (.text (String.ofList (text.take (text.length - rest.length))), rest)

end ContentBatch.Toml
