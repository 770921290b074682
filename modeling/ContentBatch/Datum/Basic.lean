import ContentBatch.Keyed
import ContentBatch.Number.Binary64
import ContentBatch.Text.Lowercase

/-!
# Data of settings files

Whatever format a settings file has, it is read into one kind of value, a `Datum`.
Tables are lists of entries without repeated keys.

Settings are lenient about the type of a number: `Datum.unsigned?` also takes truth
values, words for them, written numbers and numbers with a fraction.
-/

namespace ContentBatch

/-- Values of settings files. -/
inductive Datum where
  | null
  | bool (value : Bool)
  | integer (value : Int)
  | float (value : Number.Binary64)
  | text (value : String)
  | list (items : List Datum)
  | table (entries : List (String × Datum))
  deriving Repr

namespace Datum

/-- A whole number that is not negative, from a word for a truth value or from its
digits. -/
def unsignedOfText? (text : String) : Option Nat :=
  let word := Text.lowercaseText text
  if word == "true" || word == "on" || word == "yes" then some 1
  else if word == "false" || word == "off" || word == "no" then some 0
  else Number.unsigned? Number.maxUnsigned64 text.toList

/-- A whole number of at most sixty-four bits that a value can stand for. Fractions are
rounded, and what is too small or too great becomes the least or the greatest such
number. -/
def unsigned? : Datum → Option Nat
  | null => none
  | bool value => some value.toNat
  | integer (.ofNat value) => if value ≤ Number.maxUnsigned64 then some value else none
  | integer (.negSucc _) => none
  | float value => some (value.toNat Number.maxUnsigned64)
  | text value => unsignedOfText? value
  | list _ => none
  | table _ => none

theorem unsignedOfText?_le {text : String} {value : Nat}
    (h : unsignedOfText? text = some value) :
    value ≤ Number.maxUnsigned64 := by
  simp only [unsignedOfText?] at h
  split at h
  · obtain rfl := Option.some.inj h
    decide
  · split at h
    · obtain rfl := Option.some.inj h
      decide
    · exact Number.unsigned?_le h

theorem unsigned?_le {datum : Datum} {value : Nat} (h : datum.unsigned? = some value) :
    value ≤ Number.maxUnsigned64 := by
  cases datum with
  | null => simp [unsigned?] at h
  | bool flag =>
    obtain rfl := Option.some.inj h
    cases flag <;> decide
  | integer number =>
    cases number with
    | ofNat n =>
      simp only [unsigned?] at h
      split at h
      · obtain rfl := Option.some.inj h
        assumption
      · simp at h
    | negSucc n => simp [unsigned?] at h
  | float number =>
    obtain rfl := Option.some.inj h
    exact Number.Binary64.toNat_le _ _
  | text word => exact unsignedOfText?_le h
  | list items => simp [unsigned?] at h
  | table entries => simp [unsigned?] at h

end Datum

end ContentBatch
