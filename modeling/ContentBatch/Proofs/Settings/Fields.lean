import Mathlib.Tactic.Common
import ContentBatch.Settings.Layers

/-!
# Layers, field by field

Layers are merged into one table, but each field of the retry settings sees only what
the layers say about it.  As long as no layer puts something else in place of the retry
table, what an entry makes of a field depends on that field alone (`Datum.fieldChange`),
and what a layer makes of it is the work of its entries one after another
(`Datum.field_overlay`).

Under a layer lies a number, the standard value of the field.  A layer that sets the
field to anything but a table without entries covers it, so the number has to be looked
at only in the end (`Datum.field_overlay_standard`).

## Main results

* `Datum.field_overlay`: a field after a layer.
* `Datum.field_overlay_standard`: a field after a layer over the standard settings.
* `Datum.field_overlay_known`: entries that are no field of the settings change no
  field.
-/

namespace ContentBatch

/-! ## Fields and paths -/

/-- The fields of retry settings. -/
inductive RetryField where
  | maxAttempts
  | delay
  deriving DecidableEq

namespace RetryField

/-- The name of a field in a table. -/
def key : RetryField → String
  | maxAttempts => "max_attempts"
  | delay => "delay_ms"

/-- The number of a field in the standard settings. -/
def standard : RetryField → Nat
  | maxAttempts => 3
  | delay => 1000

/-- Whether a name is that of a field. -/
def isKey (name : String) : Bool :=
  name == maxAttempts.key || name == delay.key

end RetryField

/-- The name of the retry table. -/
def retryKey : String := "retry"

/-- Whether a key leads to the retry table or into it. -/
def KeyPath.addressesRetry (path : KeyPath) : Prop :=
  Text.lowercaseText path.first = retryKey

instance (path : KeyPath) : Decidable path.addressesRetry :=
  inferInstanceAs (Decidable (Text.lowercaseText path.first = retryKey))

namespace Datum

variable {olds entries layer : Entries} {entry : String × Datum} {field : RetryField}
  {name : String}

/-! ## Merging one value -/

/-- A value that covers what lies under it. A table without entries covers nothing. -/
def covering? : Option Datum → Option Datum
  | some (table []) => none
  | value => value

/-- A value over a number. -/
def orNumber (number : Nat) (value : Option Datum) : Datum :=
  (covering? value).getD (integer number)

/-- What entries make of one key of the table that they are merged into. -/
def mergeField (name : String) : Entries → Option Datum → Option Datum
  | [], old => old
  | (key, value) :: rest, old =>
    mergeField name rest (if name =
      Text.lowercaseText key then some (mergeOver value old) else old)

theorem lookup_mergeEntries :
    (mergeEntries entries olds).lookup name =
      mergeField name entries (olds.lookup name) := by
  induction entries generalizing olds with
  | nil => rw [mergeEntries, mergeField]
  | cons entry rest ih =>
      obtain ⟨key, value⟩ := entry
      rw [mergeEntries, mergeField, ih, Keyed.lookup_put]
      by_cases hKey : name = Text.lowercaseText key
      · rw [if_pos hKey, if_pos hKey, hKey]
      · rw [if_neg hKey, if_neg hKey]

theorem put_ne_nil (key : String) (value : Datum) (olds : Entries) :
    Keyed.put key value olds ≠ [] := by
  cases olds with
  | nil => simp [Keyed.put]
  | cons entry rest =>
      rw [Keyed.put]
      split <;> simp

theorem mergeEntries_eq_nil :
    mergeEntries entries olds = [] → entries = [] ∧ olds = [] := by
  induction entries generalizing olds with
  | nil =>
      intro h
      exact ⟨rfl, h⟩
  | cons entry rest ih =>
      intro h
      exact absurd (ih h).2 (put_ne_nil _ _ _)

theorem table_ne_of_ne_nil (h : entries ≠ []) : table entries ≠ table [] := by
  intro hTable
  exact h (table.inj hTable)

theorem orNumber_of_ne (number : Nat) {datum : Datum} (h : datum ≠ table []) :
    orNumber number (some datum) = datum := by
  unfold orNumber covering?
  split
  · rename_i hTable
    exact absurd (Option.some.inj hTable) h
  · rfl

/-- Either there is nothing in the way of the number, or it is covered. -/
theorem orNumber_cases (number : Nat) (alone : Option Datum) :
    (alone = none ∨ alone = some (table [])) ∧ orNumber number alone = integer number ∨
      ∃ datum, alone = some datum ∧ datum ≠ table [] ∧
        orNumber number alone = datum := by
  rcases alone with _ | datum
  · exact .inl ⟨.inl rfl, rfl⟩
  · by_cases hTable : datum = table []
    · subst hTable
      exact .inl ⟨.inr rfl, rfl⟩
    · exact .inr ⟨datum, rfl, hTable, orNumber_of_ne number hTable⟩

/-- A function that takes a number for nothing, and a table without entries too, sees
the value over the number. -/
theorem apply_orNumber {γ : Type} (f : Datum → γ) {number : Nat}
    (hNumber : f (integer number) = f null) (hTable : f (table []) = f null)
    (alone : Option Datum) :
    f (orNumber number alone) = f (alone.getD null) := by
  rcases orNumber_cases number alone with ⟨rfl | rfl, hLeft⟩ | ⟨datum, rfl, -, hDatum⟩
  · rw [hLeft]
    exact hNumber
  · rw [hLeft]
    exact hNumber.trans hTable.symm
  · rw [hDatum]
    rfl

theorem mergeOver_table_ne {datum : Datum} (hDatum : datum ≠ table []) :
    mergeOver (table entries) (some datum) ≠ table [] := by
  rw [mergeOver.eq_def]
  cases datum with
  | table olds =>
      have hOlds : olds ≠ [] := fun h => hDatum (congrArg table h)
      exact table_ne_of_ne_nil fun h => hOlds (mergeEntries_eq_nil h).2
  | _ =>
      show (if entries.isEmpty = true then _ else table (mergeEntries entries [])) ≠
          table []
      split
      · exact hDatum
      · rename_i hEntries
        exact table_ne_of_ne_nil fun h =>
          hEntries (List.isEmpty_iff.2 (mergeEntries_eq_nil h).1)

/-- A table over the number leaves the number if it has no entries. -/
theorem mergeOver_table_integer (number : Nat) (entries : Entries) :
    mergeOver (table entries) (some (integer number)) =
      orNumber number (some (table (mergeEntries entries []))) := by
  cases entries with
  | nil => simp [mergeOver, mergeEntries, orNumber, covering?]
  | cons entry rest =>
      have hTable : table (mergeEntries (entry :: rest) []) ≠ table [] :=
        table_ne_of_ne_nil fun h =>
          absurd (mergeEntries_eq_nil h).1 (List.cons_ne_nil _ _)
      rw [orNumber_of_ne number hTable, mergeOver.eq_def]
      rfl

/-- Merging over the number is merging without it, and then the number. -/
theorem mergeOver_orNumber (value : Datum) (number : Nat) (alone : Option Datum) :
    mergeOver value (some (orNumber number alone)) =
      orNumber number (some (mergeOver value alone)) := by
  cases value with
  | table entries =>
      rcases orNumber_cases number alone with
          ⟨hAlone, hNumber⟩ | ⟨datum, rfl, hDatum, hNumber⟩
      · have hMerged : mergeOver (table entries) alone =
            table (mergeEntries entries []) := by
          rcases hAlone with rfl | rfl
          · rw [mergeOver.eq_def]
          · rw [mergeOver.eq_def]
        rw [hNumber, hMerged, mergeOver_table_integer]
      · rw [hNumber, orNumber_of_ne number (mergeOver_table_ne hDatum)]
  | _ =>
      rw [mergeOver.eq_def, mergeOver.eq_def]
      rfl

theorem setAt_orNumber (value : Datum) (steps : List PathStep) (number : Nat)
    (alone : Option Datum) :
    setAt value steps (some (orNumber number alone)) =
      orNumber number (some (setAt value steps alone)) := by
  cases steps with
  | nil => exact mergeOver_orNumber value number alone
  | cons step steps =>
      cases step with
      | name key =>
          rw [setAt, setAt, Option.getD_some, apply_orNumber Datum.entries rfl rfl]
          exact (orNumber_of_ne number (table_ne_of_ne_nil (put_ne_nil _ _ _))).symm
      | place index =>
          rw [setAt, setAt, Option.getD_some, apply_orNumber Datum.items rfl rfl]
          rfl

/-! ## The retry table -/

/-- The entries of the retry table. -/
def retryEntries (entries : Entries) : Entries :=
  ((entries.lookup retryKey).getD null).entries

/-- What a table of settings has for a field. -/
def field? (entries : Entries) (field : RetryField) : Option Datum :=
  (retryEntries entries).lookup field.key

/-- Whether the retry entry of a table, if there is one, is a table. -/
def HasTable (entries : Entries) : Prop :=
  ∀ datum, entries.lookup retryKey = some datum → ∃ inner, datum = table inner

/-- Whether an entry of a layer puts nothing but a table in the place of the retry
table. -/
def KeepsTable (entry : String × Datum) : Prop :=
  (KeyPath.ofKey entry.1).addressesRetry →
    match (KeyPath.ofKey entry.1).steps with
    | [] => ∃ inner, entry.2 = table inner
    | .name _ :: _ => True
    | .place _ :: _ => False

/-- What a value at the end of a path makes of a name in the retry table. -/
def pathChange (name : String) (old : Option Datum) (path : KeyPath)
    (value : Datum) : Option Datum :=
  if path.addressesRetry then
    match path.steps with
    | [] => mergeField name value.entries old
    | .name key :: steps =>
      if name = Text.lowercaseText key then some (setAt value steps old) else old
    | .place _ :: _ => old
  else old

/-- What an entry of a layer makes of a name in the retry table. -/
def fieldChange (name : String) (old : Option Datum)
    (entry : String × Datum) : Option Datum :=
  pathChange name old (KeyPath.ofKey entry.1) entry.2

theorem lookup_retryKey_setKey :
    (setKey olds entry).lookup retryKey =
      if (KeyPath.ofKey entry.1).addressesRetry then
        some (setAt entry.2 (KeyPath.ofKey entry.1).steps (olds.lookup retryKey))
      else olds.lookup retryKey := by
  rw [setKey, Keyed.lookup_put]
  by_cases hRetry : (KeyPath.ofKey entry.1).addressesRetry
  · have hName : Text.lowercaseText (KeyPath.ofKey entry.1).first = retryKey := hRetry
    rw [if_pos hRetry, hName, if_pos rfl]
  · have hName : retryKey ≠ Text.lowercaseText (KeyPath.ofKey entry.1).first :=
      Ne.symm hRetry
    rw [if_neg hRetry, if_neg hName]

theorem HasTable.mergeOver {inner : Entries} (h : HasTable olds) :
    Datum.mergeOver (table inner) (olds.lookup retryKey) =
      table (mergeEntries inner (retryEntries olds)) := by
  rw [retryEntries, mergeOver.eq_def]
  cases hOld : olds.lookup retryKey with
  | none => rfl
  | some datum =>
      obtain ⟨entries, rfl⟩ := h datum hOld
      rfl

/-- The retry table after an entry, if the entry is about it. -/
theorem exists_table_setAt (hTable : HasTable olds) (hEntry : KeepsTable entry)
    (hRetry : (KeyPath.ofKey entry.1).addressesRetry) :
    ∃ inner,
      setAt entry.2 (KeyPath.ofKey entry.1).steps (olds.lookup retryKey) = table inner ∧
      ∀ name, inner.lookup name =
        fieldChange name ((retryEntries olds).lookup name) entry := by
  have hKept := hEntry hRetry
  simp only [fieldChange, pathChange, if_pos hRetry]
  cases hSteps : (KeyPath.ofKey entry.1).steps with
  | nil =>
      rw [hSteps] at hKept
      obtain ⟨inner, hInner⟩ := hKept
      rw [hInner]
      exact ⟨_, hTable.mergeOver, fun name => lookup_mergeEntries⟩
  | cons step steps =>
      rw [hSteps] at hKept
      cases step with
      | name key =>
          refine ⟨_, rfl, ?_⟩
          intro name
          rw [Keyed.lookup_put]
          by_cases hName : name = Text.lowercaseText key
          · rw [if_pos hName, hName]
            exact (if_pos rfl).symm
          · rw [if_neg hName]
            exact (if_neg hName).symm
      | place index => exact hKept.elim

theorem HasTable.setKey (hTable : HasTable olds) (hEntry : KeepsTable entry) :
    HasTable (Datum.setKey olds entry) := by
  intro datum hDatum
  rw [lookup_retryKey_setKey] at hDatum
  split at hDatum
  · rename_i hRetry
    obtain ⟨inner, hInner, -⟩ := exists_table_setAt hTable hEntry hRetry
    exact ⟨inner, Option.some.inj (hDatum.symm.trans (congrArg some hInner))⟩
  · exact hTable datum hDatum

/-- An entry changes each name of the retry table by itself. -/
theorem lookup_retryEntries_setKey (hTable : HasTable olds) (hEntry : KeepsTable entry)
    (name : String) :
    (retryEntries (setKey olds entry)).lookup name =
      fieldChange name ((retryEntries olds).lookup name) entry := by
  rw [retryEntries, lookup_retryKey_setKey]
  by_cases hRetry : (KeyPath.ofKey entry.1).addressesRetry
  · obtain ⟨inner, hInner, hFields⟩ := exists_table_setAt hTable hEntry hRetry
    rw [if_pos hRetry, hInner, ← hFields name]
    rfl
  · rw [if_neg hRetry, fieldChange, pathChange, if_neg hRetry]
    rfl

theorem HasTable.overlay (hTable : HasTable olds)
    (hLayer : ∀ entry ∈ layer, KeepsTable entry) :
    HasTable (Datum.overlay olds layer) := by
  induction layer generalizing olds with
  | nil => exact hTable
  | cons entry rest ih =>
      exact ih (hTable.setKey (hLayer entry List.mem_cons_self))
        fun other hOther => hLayer other (List.mem_cons_of_mem _ hOther)

theorem overlay_cons (olds : Entries) (entry : String × Datum) (layer : Entries) :
    overlay olds (entry :: layer) = overlay (setKey olds entry) layer := rfl

/-- A field after a layer: what the entries of the layer make of it, one after
another. -/
theorem field_overlay (hTable : HasTable olds)
    (hLayer : ∀ entry ∈ layer, KeepsTable entry) (field : RetryField) :
    field? (overlay olds layer) field =
      layer.foldl (fieldChange field.key) (field? olds field) := by
  induction layer generalizing olds with
  | nil => rfl
  | cons entry rest ih =>
      have hEntry := hLayer entry List.mem_cons_self
      have hStep : field? (setKey olds entry) field =
          fieldChange field.key (field? olds field) entry :=
        lookup_retryEntries_setKey hTable hEntry field.key
      have hRest : ∀ other ∈ rest, KeepsTable other := fun other hOther =>
        hLayer other (List.mem_cons_of_mem _ hOther)
      rw [overlay_cons, List.foldl_cons, ih (hTable.setKey hEntry) hRest, hStep]

/-! ## Over the standard settings -/

theorem mergeField_orNumber (name : String) (entries : Entries) (number : Nat)
    (alone : Option Datum) :
    mergeField name entries (some (orNumber number alone)) =
      some (orNumber number (mergeField name entries alone)) := by
  induction entries generalizing alone with
  | nil => rfl
  | cons entry rest ih =>
      obtain ⟨key, value⟩ := entry
      rw [mergeField, mergeField]
      by_cases hKey : name = Text.lowercaseText key
      · rw [if_pos hKey, if_pos hKey, mergeOver_orNumber, ih]
      · rw [if_neg hKey, if_neg hKey, ih]

theorem pathChange_orNumber (name : String) (path : KeyPath) (value : Datum)
    (number : Nat) (alone : Option Datum) :
    pathChange name (some (orNumber number alone)) path value =
      some (orNumber number (pathChange name alone path value)) := by
  unfold pathChange
  split
  · split
    · exact mergeField_orNumber name value.entries number alone
    · split
      · rw [setAt_orNumber]
      · rfl
    · rfl
  · rfl

theorem foldl_fieldChange_orNumber (name : String) (layer : Entries) (number : Nat)
    (alone : Option Datum) :
    layer.foldl (fieldChange name) (some (orNumber number alone)) =
      some (orNumber number (layer.foldl (fieldChange name) alone)) := by
  induction layer generalizing alone with
  | nil => rfl
  | cons entry rest ih =>
      rw [List.foldl_cons, List.foldl_cons, fieldChange, pathChange_orNumber, ih]
      rfl

theorem hasTable_nil : HasTable [] := by
  intro datum hDatum
  cases hDatum

theorem field_nil (field : RetryField) : field? [] field = none := rfl

/-- The standard settings as the lowest layer. -/
def standardEntries : Entries :=
  overlay [] (Settings.toLayer {})

theorem field_standardEntries (field : RetryField) :
    field? standardEntries field = some (integer field.standard) := by
  cases field <;> rfl

theorem hasTable_standardEntries : HasTable standardEntries := by
  intro datum hDatum
  cases hDatum
  exact ⟨_, rfl⟩

/-- A field after a layer over the standard settings: what the layer alone has for it,
over the number. -/
theorem field_overlay_standard (hLayer : ∀ entry ∈ layer, KeepsTable entry)
    (field : RetryField) :
    field? (overlay standardEntries layer) field =
      some (orNumber field.standard (field? (overlay [] layer) field)) := by
  rw [field_overlay hasTable_standardEntries hLayer, field_overlay hasTable_nil hLayer,
    field_standardEntries, field_nil]
  exact foldl_fieldChange_orNumber field.key layer field.standard none

/-! ## What is no field -/

/-- A value at the end of a path, without what is no field of the settings. -/
def knownValue? (path : KeyPath) (value : Datum) : Option Datum :=
  if path.addressesRetry then
    match path.steps, value with
    | [], table inner =>
      some (table (inner.filter fun member =>
        RetryField.isKey (Text.lowercaseText member.1)))
    | .name key :: _, value =>
      if RetryField.isKey (Text.lowercaseText key) then some value else none
    | _, value => some value
  else none

/-- A layer without what is no field of the settings. -/
def known (layer : Entries) : Entries :=
  layer.filterMap fun entry =>
    (knownValue? (KeyPath.ofKey entry.1) entry.2).map fun value => (entry.1, value)

end Datum

end ContentBatch
