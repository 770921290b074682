import ContentBatch.Json.Basic

/-!
# Reading JSON

`Json.ofText?` reads a text that holds one value and nothing else but blanks. The reader
follows the grammar: each function takes the text from the first character of its phrase
and returns the rest after it.

Every call on a smaller phrase comes after at least one character was taken, so twice
the length of the text bounds the depth of the calls; `ofText?` starts with that many.
-/

namespace ContentBatch.Json

/-- The text after leading blanks: space, tab, line feed and carriage return. -/
def skipBlanks : List Char → List Char
  | c :: rest =>
    if c == ' ' || c == '\n' || c == '\t' || c == '\r' then skipBlanks rest
    else c :: rest
  | [] => []

/-- The character of an escape of one letter. -/
def shortEscape? : Char → Option Char
  | '"' => some '"'
  | '\\' => some '\\'
  | '/' => some '/'
  | 'b' => some '\x08'
  | 'f' => some '\x0c'
  | 'n' => some '\n'
  | 'r' => some '\r'
  | 't' => some '\t'
  | _ => none

/-- Whether a code unit is the first half of a pair. -/
def isLeading (unit : Nat) : Bool := 0xD800 ≤ unit && unit < 0xDC00

/-- Whether a code unit is the second half of a pair. -/
def isTrailing (unit : Nat) : Bool := 0xDC00 ≤ unit && unit < 0xE000

/-- What a string has come to so far: the characters in reverse, nothing once half of a
pair was found alone, and the first half of a pair that still waits for the second. -/
structure StringSoFar where
  reversed : Option (List Char)
  waiting : Option Nat

namespace StringSoFar

/-- The start of a string. -/
def empty : StringSoFar := ⟨some [], none⟩

/-- Another character; a half that waited is alone. -/
def push (text : StringSoFar) (c : Char) : StringSoFar :=
  match text.waiting with
  | none => ⟨text.reversed.map (c :: ·), none⟩
  | some _ => ⟨none, none⟩

/-- Another code unit: half of a pair, or a character. -/
def pushUnit (text : StringSoFar) (unit : Nat) : StringSoFar :=
  match text.waiting with
  | none =>
    if isLeading unit then ⟨text.reversed, some unit⟩
    else if isTrailing unit then ⟨none, none⟩
    else text.push (Char.ofNat unit)
  | some first =>
    if isTrailing unit then
      let code := 0x10000 + (first - 0xD800) * 0x400 + (unit - 0xDC00)
      ⟨text.reversed.map (Char.ofNat code :: ·), none⟩
    else ⟨none, none⟩

/-- The whole string, nothing if half of a pair was alone. -/
def finish (text : StringSoFar) : Option String :=
  match text.waiting with
  | none => text.reversed.map fun chars => String.ofList chars.reverse
  | some _ => none

end StringSoFar

/-- The rest of a string after its opening quote. The outer result says whether there is
a closing quote with only characters and escapes before it, the inner one is the
text. -/
def readString : List Char → StringSoFar → Option (Option String × List Char)
  | [], _ => none
  | '"' :: rest, text => some (text.finish, rest)
  | '\\' :: 'u' :: a :: b :: c :: d :: rest, text =>
    if [a, b, c, d].all (Number.isDigitOf 16) then
      readString rest (text.pushUnit (Number.valueOf 16 [a, b, c, d]))
    else none
  | '\\' :: e :: rest, text =>
    match shortEscape? e with
    | some c => readString rest (text.push c)
    | none => none
  | c :: rest, text =>
    if c.toNat < 0x20 || c == '\\' then none else readString rest (text.push c)

/-- The whole digits of a number: a zero alone, or digits that do not start with a
zero. -/
def wholeDigits? (text : List Char) : Option (List Char × List Char) :=
  match Number.splitDigits text with
  | ([], _) => none
  | ('0' :: _ :: _, _) => none
  | parts => some parts

/-- The digits after a point, if there is one; a point needs at least one digit after
it. -/
def fractionDigits? : List Char → Option (List Char × List Char)
  | '.' :: rest =>
    match Number.splitDigits rest with
    | ([], _) => none
    | parts => some parts
  | rest => some ([], rest)

/-- The exponent, if there is one; the letter needs at least one digit after it. -/
def exponentPart? : List Char → Option (Option Int × List Char)
  | c :: rest =>
    if c == 'e' || c == 'E' then
      let (negative, rest) := Number.splitSign rest
      match Number.splitDigits rest with
      | ([], _) => none
      | (digits, rest) =>
        let value : Int := Number.valueOf 10 digits
        some (some (if negative then -value else value), rest)
    else some (none, c :: rest)
  | [] => some (none, [])

/-- The value of digits after those of a value, as far as sixty-four bits hold it, and
the digits that are left then. -/
def heldDigits (value : Nat) : List Char → Nat × List Char
  | [] => (value, [])
  | digit :: rest =>
    let next := 10 * value + Number.digitValue digit
    if next ≤ Number.maxUnsigned64 then heldDigits next rest else (value, digit :: rest)

/-- The decimal that digits before and after a point come to. Digits before the point
that are not held count as zeros, and digits after it are passed over. -/
def heldDecimal (negative : Bool) (whole fraction : List Char)
    (exponent : Int) : Number.Decimal :=
  let (value, left) := heldDigits 0 whole
  let (value, ignored) := heldDigits value fraction
  ⟨negative, value, exponent + left.length - (fraction.length - ignored.length)⟩

/-- The value of a number. Without point and exponent it is an integer if sixty-four
bits hold it; a negative zero is a decimal. -/
def numberOf (negative : Bool) (whole fraction : List Char)
    (exponent : Option Int) : Json :=
  let value := Number.valueOf 10 whole
  let number := heldDecimal negative whole fraction (exponent.getD 0)
  let fractional := if number.scaled?.isSome then Json.decimal number else .unusable
  if fraction.isEmpty && exponent.isNone then
    if !negative && value ≤ Number.maxUnsigned64 then .integer value
    else if negative && 0 < value && value ≤
        Number.maxSigned64 + 1 then .integer (-value)
    else fractional
  else fractional

/-- A number from its first character on. -/
def readNumber (text : List Char) : Option (Json × List Char) := do
  let (negative, rest) :=
    match text with | '-' :: rest => (true, rest) | _ => (false, text)
  let (whole, rest) ← wholeDigits? rest
  let (fraction, rest) ← fractionDigits? rest
  let (exponent, rest) ← exponentPart? rest
  return (numberOf negative whole fraction exponent, rest)

/-- A member before others, unless its name is unusable. -/
def addMember (name : Option String) (value : Json)
    (members : Option (List (String × Json))) :
    Option (List (String × Json)) := do
  return (← name, value) :: (← members)

mutual

/-- A value, with blanks before it. -/
def readValue : Nat → List Char → Option (Json × List Char)
  | 0, _ => none
  | fuel + 1, text =>
    match skipBlanks text with
    | 'n' :: 'u' :: 'l' :: 'l' :: rest => some (.null, rest)
    | 't' :: 'r' :: 'u' :: 'e' :: rest => some (.bool true, rest)
    | 'f' :: 'a' :: 'l' :: 's' :: 'e' :: rest => some (.bool false, rest)
    | '"' :: rest => do
        let (value, rest) ← readString rest .empty
        return (match value with
            | some value => .string value | none => .unusable, rest)
    | '[' :: rest =>
      match skipBlanks rest with
      | ']' :: rest => some (.array [], rest)
      | rest => do
          let (items, rest) ← readItems fuel rest
          return (.array items, rest)
    | '\x7b' :: rest =>
      match skipBlanks rest with
      | '\x7d' :: rest => some (.object [], rest)
      | rest => do
          let (members, rest) ← readMembers fuel rest
          return (match members with
              | some members => .object members | none => .unusable, rest)
    | rest => readNumber rest

/-- The items of an array from the first item on, and its closing bracket. -/
def readItems : Nat → List Char → Option (List Json × List Char)
  | 0, _ => none
  | fuel + 1, text => do
      let (item, rest) ← readValue fuel text
      match skipBlanks rest with
      | ']' :: rest => return ([item], rest)
      | ',' :: rest =>
          let (items, rest) ← readItems fuel rest
          return (item :: items, rest)
      | _ => none

/-- The members of an object from the first name on, and its closing brace. There are
none if a name is unusable. -/
def readMembers : Nat → List Char → Option (Option (List (String × Json)) × List Char)
  | 0, _ => none
  | fuel + 1, text =>
    match skipBlanks text with
    | '"' :: rest => do
        let (name, rest) ← readString rest .empty
        match skipBlanks rest with
        | ':' :: rest =>
            let (value, rest) ← readValue fuel rest
            match skipBlanks rest with
            | '\x7d' :: rest => return (addMember name value (some []), rest)
            | ',' :: rest =>
                let (members, rest) ← readMembers fuel rest
                return (addMember name value members, rest)
            | _ => none
        | _ => none
    | _ => none

end

/-- The value that a text holds, if it holds one and nothing else. -/
def ofText? (text : String) : Option Json :=
  let chars := text.toList
  match readValue (2 * chars.length + 2) chars with
  | some (value, rest) => if (skipBlanks rest).isEmpty then some value else none
  | none => none

end ContentBatch.Json
