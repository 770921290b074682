import ContentBatch.Timestamp.Basic
import ContentBatch.Number.Digits
import ContentBatch.Text.Category

/-!
# Written instants

An instant is written as date, `T`, time of day and `Z`, with as many digits after the
second as make the fraction exact, in groups of three.

Reading is more lenient: a small `t` or a blank may separate date and time, the numbers
may have fewer digits and blanks before them, and the offset from universal time may be
given in hours and minutes. Digits after the ninth are cut off. The sixtieth second is a
leap second.
-/

namespace ContentBatch.Timestamp

/-! ## Writing -/

/-- A number with zeros before it, so that it has at least `width` digits. -/
def padded (width n : Nat) : List Char :=
  let digits := Nat.toDigits 10 n
  List.replicate (width - digits.length) '0' ++ digits

/-- A year of four digits, or one with a sign if it has more or is negative. -/
def writeYear : Int → List Char
  | .ofNat year => if year ≤ 9999 then padded 4 year else '+' :: padded 4 year
  | .negSucc year => '-' :: padded 4 (year + 1)

/-- A fraction of a second in nanoseconds: nothing, or three, six or nine digits. -/
def writeFraction (nanos : Nat) : List Char :=
  if nanos = 0 then []
  else if nanos % 1000000 = 0 then '.' :: padded 3 (nanos / 1000000)
  else if nanos % 1000 = 0 then '.' :: padded 6 (nanos / 1000)
  else '.' :: padded 9 nanos

/-- The written form of an instant. -/
def toText (t : Timestamp) : String :=
  let (extra, nanos) :=
    if 1000000000 ≤ t.nanos then (1, t.nanos - 1000000000) else (0, t.nanos)
  String.ofList <|
    writeYear t.date.year ++ '-' :: padded 2 t.date.month ++ '-' ::
      padded 2 t.date.day ++
      'T' :: padded 2 (t.second / 3600) ++ ':' :: padded 2 (t.second / 60 % 60) ++
      ':' :: padded 2 (t.second % 60 + extra) ++ writeFraction nanos ++ ['Z']

/-! ## Reading -/

/-- The text after leading blanks. -/
def skipBlanks (text : List Char) : List Char :=
  text.dropWhile Text.isBlank

/-- The number at the head of a text, of at most `width` digits, with blanks before
it. -/
def readNumber (width : Nat) (text : List Char) : Option (Nat × List Char) :=
  let text := skipBlanks text
  let digits := (text.take width).takeWhile Char.isDigit
  if digits.isEmpty then none
  else some (Number.valueOf 10 digits, text.drop digits.length)

/-- The year at the head of a text: four digits at most, or a sign and any number of
digits. -/
def readYear (text : List Char) : Option (Int × List Char) :=
  match skipBlanks text with
  | '-' :: rest =>
      let (digits, after) := Number.splitDigits rest
      if digits.isEmpty then none else some (-(Number.valueOf 10 digits : Int), after)
  | '+' :: rest =>
      let (digits, after) := Number.splitDigits rest
      if digits.isEmpty then none else some ((Number.valueOf 10 digits : Int), after)
  | rest => (readNumber 4 rest).map fun (year, after) => ((year : Int), after)

/-- The text after a mark, which may have blanks before it. -/
def skipMark (mark : Char) (text : List Char) : Option (List Char) :=
  match skipBlanks text with
  | c :: rest => if c == mark then some rest else none
  | [] => none

/-- The nanoseconds at the head of a text: nothing, or a point and digits. -/
def readFraction : List Char → Option (Nat × List Char)
  | '.' :: rest =>
      let (digits, after) := Number.splitDigits rest
      if digits.isEmpty then none
      else
        let kept := digits.take 9
        some (Number.valueOf 10 kept * Nat.pow 10 (9 - kept.length), after)
  | rest => some (0, rest)

/-- The offset at the head of a text, in minutes: `Z`, `UTC`, or a sign, two digits of
hours and two digits of minutes, with colons and blanks between them at will. -/
def readOffset : List Char → Option (Int × List Char)
  | 'Z' :: rest => some (0, rest)
  | 'z' :: rest => some (0, rest)
  | u :: t :: c :: rest =>
      if String.ofList ([u, t, c].map Char.toUpper) == "UTC" then some (0, rest)
      else do
        let negative ← if u == '+' then some false
          else if u == '-' || u == '\u2212' then some true
          else none
        let hours := [t, c]
        let rest := rest.dropWhile fun c => c == ':' || Text.isBlank c
        match rest with
        | m :: n :: rest =>
            if hours.all Char.isDigit && [m, n].all Char.isDigit &&
                m.toNat < '6'.toNat then
              let minutes : Int :=
                Number.valueOf 10 hours * 60 + Number.valueOf 10 [m, n]
              some (if negative then -minutes else minutes, rest)
            else none
        | _ => none
  | _ => none

/-- The years that instants may have. -/
def yearInRange (year : Int) : Bool :=
  -262143 ≤ year && year ≤ 262142

/-- The local time with the given numbers, if there is one. -/
def local? (date : Date) (hour minute second nanos : Nat) : Option Timestamp :=
  if h : (hour < 24 ∧ minute < 60) ∧ (second ≤ 60 ∧ nanos < 1000000000) then
    if hLeap : second = 60 then
      some ⟨date, hour * 3600 + minute * 60 + 59, nanos + 1000000000,
        by omega, by omega, by omega⟩
    else
      some ⟨date, hour * 3600 + minute * 60 + second, nanos,
        by omega, by omega, by omega⟩
  else none

/-- The instant that a text stands for. -/
def ofText? (text : String) : Option Timestamp := do
  let (year, rest) ← readYear text.toList
  let rest ← skipMark '-' rest
  let (month, rest) ← readNumber 2 rest
  let rest ← skipMark '-' rest
  let (day, rest) ← readNumber 2 rest
  let rest ← match rest with
    | c :: rest => if c == 't' || c == 'T' || c == ' ' then some rest else none
    | [] => none
  let (hour, rest) ← readNumber 2 rest
  let rest ← skipMark ':' rest
  let (minute, rest) ← readNumber 2 rest
  let rest ← skipMark ':' rest
  let (second, rest) ← readNumber 2 rest
  let (nanos, rest) ← readFraction rest
  let (offset, rest) ← readOffset (skipBlanks rest)
  let date ← Date.of? year month day
  let localTime ← local? date hour minute second nanos
  if h : -1440 < offset ∧ offset < 1440 then
    let t := localTime.ofLocal offset h
    if (skipBlanks rest).isEmpty && yearInRange year && yearInRange t.date.year then
      some t else none
  else none

end ContentBatch.Timestamp
