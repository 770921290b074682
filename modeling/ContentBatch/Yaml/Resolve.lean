import ContentBatch.Datum.Basic

/-!
# What plain scalars mean

A scalar without quotes is no text if it reads like something else: nothing, a truth
value, an integer or a number with a fraction. The words for infinity and for what is no
number are not taken in settings, so there `ofPlain?` has no result.

A name in a table is a text or an integer.
-/

namespace ContentBatch.Yaml

/-- An integer of sixty-four bits in digits of a base, with an optional sign. -/
def integerIn? (base : Nat) (text : List Char) : Option Int :=
  let (negative, digits) := Number.splitSign text
  let value := Number.valueOf base digits
  if digits.isEmpty || !digits.all (Number.isDigitOf base) then none
  else if negative then if value ≤ Number.maxSigned64 + 1 then some (-value) else none
  else if value ≤ Number.maxSigned64 then some value
  else none

/-- An integer as it is written in a scalar. -/
def integer? (text : List Char) : Option Int :=
  match text with
  | '0' :: 'x' :: digits => integerIn? 16 digits
  | '0' :: 'o' :: digits => integerIn? 8 digits
  | '+' :: number => integerIn? 10 number
  | _ => integerIn? 10 text

/-- The words for numbers that are not finite. -/
def unboundedWords : List String :=
  [".inf", ".Inf", ".INF", "+.inf", "+.Inf", "+.INF", "-.inf", "-.Inf", "-.INF",
    ".nan", ".NaN", ".NAN"]

/-- What a scalar without quotes means. -/
def ofPlain? (text : String) : Option Datum :=
  let chars := text.toList
  match integer? chars with
  | some value => some (.integer value)
  | none =>
    if text == "" || text == "~" || text == "null" then some .null
    else if text == "true" || text == "True" || text == "TRUE" then some (.bool true)
    else if text == "false" || text == "False" || text ==
        "FALSE" then some (.bool false)
    else if unboundedWords.contains text then none
    else
      match Number.float? chars with
      | some value =>
        if chars.any Char.isDigit then some (.float value) else some (.text text)
      | none => some (.text text)

/-- Names of entries. -/
inductive Name where
  | text (value : String)
  | integer (value : Int)
  deriving DecidableEq

namespace Name

/-- The name that a scalar stands for. -/
def ofDatum? : Datum → Option Name
  | .text value => some (text value)
  | .integer value => some (integer value)
  | _ => none

/-- The name as the key of a setting. -/
def key : Name → String
  | text value => value
  | integer value => toString value

end Name

/-- The table of entries, in none of which a name is repeated. -/
def tableOf? (entries : List (Name × Datum)) : Option Datum :=
  let names := entries.map Prod.fst
  if names.eraseDups.length = names.length then
    some (.table
      (entries.foldl (fun table (name, datum) => Keyed.put name.key datum table) []))
  else none

end ContentBatch.Yaml
