import ContentBatch.Pattern.Fault
import ContentBatch.Text.Category

/-!
# Blanks and comments in patterns

In a verbose pattern blanks count for nothing, and neither does anything from a number
sign to the end of its line. The other characters are *significant*. In a pattern that
is not verbose every character is.
-/

namespace ContentBatch.Pattern

/-- The significant characters at the head of a text as long as they satisfy a
condition, and the rest from the first one that does not. The second argument says
whether the text starts in a comment. -/
def spanSignificant (verbose : Bool) (keep : Char → Bool) : Bool → List Char →
    List Char × List Char
  | _, [] => ([], [])
  | true, c :: rest => spanSignificant verbose keep (c != '\n') rest
  | false, c :: rest =>
    if verbose && Text.isBlank c then spanSignificant verbose keep false rest
    else if verbose && c == '#' then spanSignificant verbose keep true rest
    else if keep c then
      let (kept, rest) := spanSignificant verbose keep false rest
      (c :: kept, rest)
    else ([], c :: rest)

/-- The text from its first significant character on. -/
def skip (verbose : Bool) (text : List Char) : List Char :=
  (spanSignificant verbose (fun _ => false) false text).2

/-- The next `count` significant characters, and the rest from the significant character
after them. -/
def takeSignificant (verbose : Bool) : Nat → List Char → Option (List Char × List Char)
  | 0, text => some ([], skip verbose text)
  | count + 1, text =>
    match skip verbose text with
    | [] => none
    | c :: rest =>
      (takeSignificant verbose count rest).map fun (taken, rest) => (c :: taken, rest)

/-- The significant characters up to a closing brace, and the rest after it. -/
def untilBrace (verbose : Bool) (text : List Char) : Option (List Char × List Char) :=
  match spanSignificant verbose (· != '\x7d') false text with
  | (inside, _ :: rest) => some (inside, rest)
  | (_, []) => none

/-- The text after blanks and at most one number sign. -/
def skipOneSign : Bool → List Char → List Char
  | _, [] => []
  | signSeen, c :: rest =>
    if Text.isBlank c then skipOneSign signSeen rest
    else if c == '#' && !signSeen then skipOneSign true rest
    else c :: rest

/-- The character that follows a dash in a class, looked at without reading on. In a
verbose pattern blanks before it are passed over, and one number sign; if there is
nothing else, the very next character counts. -/
def following (verbose : Bool) (text : List Char) : Option Char :=
  if verbose then ((skipOneSign false text).head?).or text.head? else text.head?

/-- Whether some text starts with the given characters, and what comes after them. -/
def dropPrefix? (start text : List Char) : Option (List Char) :=
  if start.isPrefixOf text then some (text.drop start.length) else none

end ContentBatch.Pattern
