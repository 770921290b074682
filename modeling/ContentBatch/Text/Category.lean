import ContentBatch.Text.Category.Letters
import ContentBatch.Text.Category.Marks
import ContentBatch.Text.Category.Numbers
import ContentBatch.Text.Category.Marking

/-!
# General categories

Every assigned character has one of twenty-nine categories. A *property* is a set of
characters that a pattern may name: a category, one of the seven groups of categories,
or one of a few sets that cut across them.

`Property.ofName?` reads names loosely: case, blanks, hyphens and low lines do not
count, and a leading `is` is ignored.
-/

namespace ContentBatch.Text

/-- Sets of characters that have a name. -/
inductive Property where
  | uppercaseLetter | lowercaseLetter | titlecaseLetter | modifierLetter | otherLetter
  | casedLetter | letter
  | nonspacingMark | spacingMark | enclosingMark | mark
  | decimalNumber | letterNumber | otherNumber | number
  | connectorPunctuation | dashPunctuation | openPunctuation | closePunctuation
  | initialPunctuation | finalPunctuation | otherPunctuation | punctuation
  | mathSymbol | currencySymbol | modifierSymbol | otherSymbol | symbol
  | spaceSeparator | lineSeparator | paragraphSeparator | separator
  | control | format | surrogate | privateUse | unassigned | other
  | any | assigned | ascii | alphabetic | lowercase | uppercase | whiteSpace
  deriving DecidableEq, Repr

namespace Category

/-- Circled and squared Latin letters: symbols that count as alphabetic. -/
def alphabeticSymbols : List CodeRun :=
  [⟨0x24B6, 0x24E9, 1⟩, ⟨0x1F130, 0x1F149, 1⟩, ⟨0x1F150, 0x1F169, 1⟩,
    ⟨0x1F170, 0x1F189, 1⟩]

/-- Characters that are in small letters without being small letters. -/
def otherLowercase : List CodeRun :=
  [⟨0xAA, 0xAA, 1⟩, ⟨0xBA, 0xBA, 1⟩, ⟨0x2B0, 0x2B8, 1⟩, ⟨0x2C0, 0x2C1, 1⟩,
    ⟨0x2E0, 0x2E4, 1⟩, ⟨0x345, 0x345, 1⟩, ⟨0x37A, 0x37A, 1⟩, ⟨0x10FC, 0x10FC, 1⟩,
    ⟨0x1D2C, 0x1D6A, 1⟩, ⟨0x1D78, 0x1D78, 1⟩, ⟨0x1D9B, 0x1DBF, 1⟩, ⟨0x2071, 0x2071, 1⟩,
    ⟨0x207F, 0x207F, 1⟩, ⟨0x2090, 0x209C, 1⟩, ⟨0x2170, 0x217F, 1⟩, ⟨0x24D0, 0x24E9, 1⟩,
    ⟨0x2C7C, 0x2C7D, 1⟩, ⟨0xA69C, 0xA69D, 1⟩, ⟨0xA770, 0xA770, 1⟩, ⟨0xA7F2, 0xA7F4, 1⟩,
    ⟨0xA7F8, 0xA7F9, 1⟩, ⟨0xAB5C, 0xAB5F, 1⟩, ⟨0xAB69, 0xAB69, 1⟩,
    ⟨0x10780, 0x10780, 1⟩, ⟨0x10783, 0x10785, 1⟩, ⟨0x10787, 0x107B0, 1⟩,
    ⟨0x107B2, 0x107BA, 1⟩, ⟨0x1E030, 0x1E06D, 1⟩]

/-- Characters that are in capitals without being capital letters. -/
def otherUppercase : List CodeRun :=
  [⟨0x2160, 0x216F, 1⟩, ⟨0x24B6, 0x24CF, 1⟩, ⟨0x1F130, 0x1F149, 1⟩,
    ⟨0x1F150, 0x1F169, 1⟩, ⟨0x1F170, 0x1F189, 1⟩]

/-- Blanks: tab to carriage return, the next-line control and every separator. -/
def whiteSpaces : List CodeRun :=
  [⟨0x9, 0xD, 1⟩, ⟨0x20, 0x20, 1⟩, ⟨0x85, 0x85, 1⟩, ⟨0xA0, 0xA0, 1⟩,
    ⟨0x1680, 0x1680, 1⟩, ⟨0x2000, 0x200A, 1⟩, ⟨0x2028, 0x2029, 1⟩, ⟨0x202F, 0x202F, 1⟩,
    ⟨0x205F, 0x205F, 1⟩, ⟨0x3000, 0x3000, 1⟩]

/-- All letters. -/
def letters : List CodeRun :=
  uppercaseLetters ++ lowercaseLetters ++ titlecaseLetters ++
    modifierLetters ++ otherLetters

/-- All marks. -/
def marks : List CodeRun :=
  nonspacingMarks ++ spacingMarks ++ enclosingMarks

/-- All numbers. -/
def numbers : List CodeRun :=
  decimalNumbers ++ letterNumbers ++ otherNumbers

/-- All punctuation. -/
def punctuation : List CodeRun :=
  connectorPunctuation ++ dashPunctuation ++ openPunctuation ++ closePunctuation ++
    initialPunctuation ++ finalPunctuation ++ otherPunctuation

/-- All symbols. -/
def symbols : List CodeRun :=
  mathSymbols ++ currencySymbols ++ modifierSymbols ++ otherSymbols

/-- All separators. -/
def separators : List CodeRun :=
  spaceSeparators ++ lineSeparators ++ paragraphSeparators

/-- Controls, formats, surrogates and private use: assigned, but no letter, mark,
number, symbol, punctuation or separator. -/
def assignedOthers : List CodeRun :=
  controls ++ formats ++ surrogates ++ privateUse

/-- Everything that is assigned. -/
def assigned : List CodeRun :=
  letters ++ marks ++ numbers ++ punctuation ++ symbols ++ separators ++ assignedOthers

/-- Letters, letter numbers, and the marks and symbols that count as letters. -/
def alphabetics : List CodeRun :=
  letters ++ letterNumbers ++ alphabeticMarks ++ alphabeticSymbols

end Category

namespace Property
open Category

/-- Whether a code point has the property. -/
def holds : Property → Nat → Bool
  | uppercaseLetter, code => covered uppercaseLetters code
  | lowercaseLetter, code => covered lowercaseLetters code
  | titlecaseLetter, code => covered titlecaseLetters code
  | modifierLetter, code => covered modifierLetters code
  | otherLetter, code => covered otherLetters code
  | casedLetter, code =>
      covered uppercaseLetters code || covered lowercaseLetters code ||
        covered titlecaseLetters code
  | letter, code => covered letters code
  | nonspacingMark, code => covered nonspacingMarks code
  | spacingMark, code => covered spacingMarks code
  | enclosingMark, code => covered enclosingMarks code
  | mark, code => covered marks code
  | decimalNumber, code => covered decimalNumbers code
  | letterNumber, code => covered letterNumbers code
  | otherNumber, code => covered otherNumbers code
  | number, code => covered numbers code
  | connectorPunctuation, code => covered Category.connectorPunctuation code
  | dashPunctuation, code => covered Category.dashPunctuation code
  | openPunctuation, code => covered Category.openPunctuation code
  | closePunctuation, code => covered Category.closePunctuation code
  | initialPunctuation, code => covered Category.initialPunctuation code
  | finalPunctuation, code => covered Category.finalPunctuation code
  | otherPunctuation, code => covered Category.otherPunctuation code
  | punctuation, code => covered Category.punctuation code
  | mathSymbol, code => covered mathSymbols code
  | currencySymbol, code => covered currencySymbols code
  | modifierSymbol, code => covered modifierSymbols code
  | otherSymbol, code => covered otherSymbols code
  | symbol, code => covered symbols code
  | spaceSeparator, code => covered spaceSeparators code
  | lineSeparator, code => covered lineSeparators code
  | paragraphSeparator, code => covered paragraphSeparators code
  | separator, code => covered separators code
  | control, code => covered controls code
  | format, code => covered formats code
  | surrogate, code => covered surrogates code
  | privateUse, code => covered Category.privateUse code
  | unassigned, code => !covered Category.assigned code
  | other, code => covered assignedOthers code || !covered Category.assigned code
  | any, _ => true
  | assigned, code => covered Category.assigned code
  | ascii, code => code < 0x80
  | alphabetic, code => covered alphabetics code
  | lowercase, code => covered lowercaseLetters code || covered otherLowercase code
  | uppercase, code => covered uppercaseLetters code || covered otherUppercase code
  | whiteSpace, code => covered whiteSpaces code

/-- The names of the categories and their groups, short and long. -/
def categoryNames : List (Property × List String) :=
  [(uppercaseLetter, ["lu", "uppercaseletter"]),
    (lowercaseLetter, ["ll", "lowercaseletter"]),
    (titlecaseLetter, ["lt", "titlecaseletter"]),
    (modifierLetter, ["lm", "modifierletter"]), (otherLetter, ["lo", "otherletter"]),
    (casedLetter, ["lc", "casedletter"]), (letter, ["l", "letter"]),
    (nonspacingMark, ["mn", "nonspacingmark"]), (spacingMark, ["mc", "spacingmark"]),
    (enclosingMark, ["me", "enclosingmark"]), (mark, ["m", "mark", "combiningmark"]),
    (decimalNumber, ["nd", "decimalnumber", "digit"]),
    (letterNumber, ["nl", "letternumber"]), (otherNumber, ["no", "othernumber"]),
    (number, ["n", "number"]), (connectorPunctuation, ["pc", "connectorpunctuation"]),
    (dashPunctuation, ["pd", "dashpunctuation"]),
    (openPunctuation, ["ps", "openpunctuation"]),
    (closePunctuation, ["pe", "closepunctuation"]),
    (initialPunctuation, ["pi", "initialpunctuation"]),
    (finalPunctuation, ["pf", "finalpunctuation"]),
    (otherPunctuation, ["po", "otherpunctuation"]),
    (punctuation, ["p", "punctuation", "punct"]), (mathSymbol, ["sm", "mathsymbol"]),
    (currencySymbol, ["sc", "currencysymbol"]),
    (modifierSymbol, ["sk", "modifiersymbol"]), (otherSymbol, ["so", "othersymbol"]),
    (symbol, ["s", "symbol"]), (spaceSeparator, ["zs", "spaceseparator"]),
    (lineSeparator, ["zl", "lineseparator"]),
    (paragraphSeparator, ["zp", "paragraphseparator"]), (separator, ["z", "separator"]),
    (control, ["cc", "control", "cntrl"]), (format, ["cf", "format"]),
    (surrogate, ["cs", "surrogate"]), (privateUse, ["co", "privateuse"]),
    (unassigned, ["cn", "unassigned"]), (other, ["c", "other"]), (any, ["any"]),
    (assigned, ["assigned"]), (ascii, ["ascii"])]

/-- The names of the properties that are no category. -/
def binaryNames : List (Property × List String) :=
  [(alphabetic, ["alpha", "alphabetic"]), (lowercase, ["lower", "lowercase"]),
    (uppercase, ["upper", "uppercase"]),
    (whiteSpace, ["space", "whitespace", "wspace"])]

/-- A name in small letters without blanks, hyphens, low lines and a leading `is`. The
name `isc` is left whole, since it is no spelling of `c`. -/
def normalizedName (name : List Char) : String :=
  let kept :=
    (name.filter fun c => !(c == ' ' || c == '_' || c == '-') && c.toNat < 0x80)
  let small := kept.map Char.toLower
  match small with
  | 'i' :: 's' :: rest => if rest == ['c'] then "isc" else String.ofList rest
  | _ => String.ofList small

/-- The property with a (normalized) name in a list of names. -/
def lookup (names : List (Property × List String)) (name : String) : Option Property :=
  (names.find? fun entry => entry.2.contains name).map Prod.fst

/-- The property that a pattern names, if there is one. -/
def ofName? (name : List Char) : Option Property :=
  let normal := normalizedName name
  (lookup binaryNames normal).orElse fun _ => lookup categoryNames normal

/-- The category that a pattern names as the value of the general category, if there is
one. -/
def ofCategory? (key value : List Char) : Option Property :=
  if ["gc", "generalcategory", "category"].contains (normalizedName key) then
    lookup categoryNames (normalizedName value)
  else none

end Property

/-- Whether a character is alphabetic. -/
def isAlphabetic (c : Char) : Bool :=
  Property.alphabetic.holds c.toNat

/-- Whether a character is alphabetic or a number. -/
def isAlphanumeric (c : Char) : Bool :=
  Property.alphabetic.holds c.toNat || Property.number.holds c.toNat

/-- Whether a character is a blank. -/
def isBlank (c : Char) : Bool :=
  Property.whiteSpace.holds c.toNat

/-- Whether a character can be shown as it is: letters, marks, numbers, punctuation,
symbols and the space can. -/
def isPrintable (c : Char) : Bool :=
  c == ' ' || covered (Category.letters ++ Category.marks ++ Category.numbers ++
    Category.punctuation ++ Category.symbols) c.toNat

/-- Whether a character extends the character before it instead of standing alone. -/
def extendsPrevious (c : Char) : Bool :=
  covered (Category.nonspacingMarks ++ Category.enclosingMarks ++
    Category.otherExtenders) c.toNat

end ContentBatch.Text
