import ContentBatch.Json.Basic

/-!
# Writing JSON

Values are written on one line without blanks. In a string quotes, backslashes and
control characters are written as escapes, of one letter if there is one; every other
character stands for itself. A decimal is written as its digits and a power of ten, so
that it never looks like an integer.
-/

namespace ContentBatch.Json

/-- The letter of the escape of a character, if there is one of one letter. -/
def escapeLetter? : Char → Option Char
  | '"' => some '"'
  | '\\' => some '\\'
  | '\x08' => some 'b'
  | '\x0c' => some 'f'
  | '\n' => some 'n'
  | '\r' => some 'r'
  | '\t' => some 't'
  | _ => none

/-- One character of a string. -/
def writeChar (c : Char) : List Char :=
  match escapeLetter? c with
  | some letter => ['\\', letter]
  | none =>
    if c.toNat < 0x20 then
      ['\\', 'u', '0', '0', Nat.digitChar (c.toNat / 16), Nat.digitChar (c.toNat % 16)]
    else [c]

/-- A string with its quotes. -/
def writeString (text : String) : List Char :=
  '"' :: text.toList.flatMap writeChar ++ ['"']

/-- An integer. -/
def writeInteger : Int → List Char
  | .ofNat value => Nat.toDigits 10 value
  | .negSucc value => '-' :: Nat.toDigits 10 (value + 1)

/-- A decimal: sign, digits, and the power of ten. -/
def writeDecimal (number : Number.Decimal) : List Char :=
  (if number.negative then ['-'] else []) ++ Nat.toDigits 10 number.digits ++
    'e' :: writeInteger number.exponent

mutual

/-- A value. What is unusable has no written form and is left out as `null`. -/
def write : Json → List Char
  | .null => "null".toList
  | .bool true => "true".toList
  | .bool false => "false".toList
  | .integer value => writeInteger value
  | .decimal value => writeDecimal value
  | .string value => writeString value
  | .array items => '[' :: writeItems items
  | .object members => '\x7b' :: writeMembers members
  | .unusable => "null".toList

/-- The items of an array and its closing bracket. -/
def writeItems : List Json → List Char
  | [] => [']']
  | [item] => write item ++ [']']
  | item :: rest => write item ++ ',' :: writeItems rest

/-- The members of an object and its closing brace. -/
def writeMembers : List (String × Json) → List Char
  | [] => ['\x7d']
  | [(name, value)] => writeString name ++ ':' :: write value ++ ['\x7d']
  | (name, value) :: rest =>
    writeString name ++ ':' :: write value ++ ',' :: writeMembers rest

end

/-- The text of a value. -/
def toText (value : Json) : String :=
  String.ofList (write value)

end ContentBatch.Json
