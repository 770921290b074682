import ContentBatch.Text.Category

/-!
# Quoted text

Names and paths inside a diagnostic are shown between double quotes. A quote and a
backslash are written with a backslash before them, tab, line feed, carriage return and
the null character have short escapes, and any other character that cannot be seen on
its own is written as its code point in braces.
-/

namespace ContentBatch.Text

/-- The digits of a number in base sixteen, small letters, most significant first. -/
def hexDigits (n : Nat) : List Char :=
  Nat.toDigits 16 n

/-- One character between double quotes. -/
def escaped (c : Char) : List Char :=
  if c = '\x00' then ['\\', '0']
  else if c = '\t' then ['\\', 't']
  else if c = '\n' then ['\\', 'n']
  else if c = '\r' then ['\\', 'r']
  else if c = '"' then ['\\', '"']
  else if c = '\\' then ['\\', '\\']
  else if isPrintable c && !extendsPrevious c then [c]
  else ['\\', 'u', '\x7b'] ++ hexDigits c.toNat ++ ['\x7d']

/-- A text between double quotes. -/
def quoted (text : String) : String :=
  String.ofList ('"' :: text.toList.flatMap escaped ++ ['"'])

end ContentBatch.Text
