import ContentBatch.Proofs.RoundTrip
import ContentBatch.Proofs.Settings.Precedence

/-!
# Settings written to a file and loaded

A text is written for settings if it holds their fields, in either order.  Such a file
is loaded, and gives the budget that was written.  The delay goes through the numbers of
settings files: up to the greatest signed number of sixty-four bits it is an integer,
and above that a number with a fraction, of which fifty-three binary digits are kept.
There are sixty-four digits in such a delay, so it is rounded to a multiple of `2 ^ 11`,
and only what is rounded beyond the range comes back as the greatest delay of all.

## Main results

* `Number.Binary64.nearest_of_large`: the number nearest to an integer of sixty-four
  binary digits.
* `Settings.load_of_written`: what is loaded, and when it is what was written.
* `Settings.delay_is_rounded`: a delay that is not.
-/

namespace ContentBatch

/-! ## Integers of sixty-four binary digits -/

namespace Number

/-- The quotient or its successor, whichever is nearer. -/
theorem roundHalfEven_cases (numerator denominator : Nat) :
    roundHalfEven numerator denominator = numerator / denominator ∧
        2 * (numerator % denominator) ≤ denominator ∨
      roundHalfEven numerator denominator = numerator / denominator + 1 ∧
        denominator ≤ 2 * (numerator % denominator) := by
  simp only [roundHalfEven, Bool.or_eq_true, Bool.and_eq_true,
    decide_eq_true_eq, beq_iff_eq]
  split <;> omega

/-- The distance between neighbours among the numbers of sixty-four bits from `2 ^ 63`
to `2 ^ 64`. -/
def largeSpacing : Nat := 2048

namespace Binary64

variable {number : Nat}

theorem log2_of_large (hlow : maxSigned64 < number) (hhigh : number ≤ maxUnsigned64) :
    number.log2 = 63 := by
  have hne : number ≠ 0 := by omega
  have hle : 2 ^ 63 ≤ number := hlow
  have hlt : number < 2 ^ 64 := Nat.lt_succ_of_le hhigh
  have hfrom : 63 ≤ number.log2 := (Nat.le_log2 hne).2 hle
  have hto : number.log2 < 64 := (Nat.log2_lt hne).2 hlt
  omega

theorem exponentFor_of_large (hlow : maxSigned64 < number)
    (hhigh : number ≤ maxUnsigned64) :
    exponentFor number 1 = 11 := by
  have hquotient : mantissaBound ≤ number / (1 * Nat.pow 2 10) := by
    unfold maxSigned64 at hlow
    unfold mantissaBound
    show 9007199254740992 ≤ number / 1024
    omega
  unfold exponentFor
  rw [log2_of_large hlow hhigh]
  show (if mantissaBound ≤ number / (1 * Nat.pow 2 10) then ((10 : Int) + 1) else 10) =
      11
  rw [if_pos hquotient]
  rfl

/-- An integer of sixty-four binary digits is rounded to fifty-three. -/
theorem nearest_of_large (hlow : maxSigned64 < number)
    (hhigh : number ≤ maxUnsigned64) :
    nearest false number 1 = .finite false (roundHalfEven number largeSpacing) 11 := by
  have hne : number ≠ 0 := by omega
  unfold nearest
  rw [if_neg hne, exponentFor_of_large hlow hhigh]
  rfl

end Binary64

/-- What is kept of an integer in a settings file: all of it up to the greatest signed
number of sixty-four bits, and above that fifty-three binary digits, within the range of
sixty-four bits. -/
def kept (number : Nat) : Nat :=
  if number ≤ maxSigned64 then number
  else min maxUnsigned64 (roundHalfEven number largeSpacing * largeSpacing)

theorem kept_le {number : Nat} (hhigh : number ≤ maxUnsigned64) :
    kept number ≤ maxUnsigned64 := by
  unfold kept
  split <;> omega

theorem kept_eq_iff {number : Nat} (hhigh : number ≤ maxUnsigned64) :
    kept number = number ↔
      number ≤ maxSigned64 ∨ largeSpacing ∣ number ∨ number = maxUnsigned64 := by
  have hrounded := roundHalfEven_cases number largeSpacing
  unfold kept
  unfold maxUnsigned64 at *
  unfold largeSpacing at *
  split <;> omega

end Number

/-! ## The data of written settings -/

namespace Datum

/-- An integer with no sign stands for what is kept of it. -/
theorem unsigned?_ofInteger {number : Nat} (hhigh : number ≤ Number.maxUnsigned64) :
    (ofInteger number).unsigned? = some (Number.kept number) := by
  unfold ofInteger Number.kept
  by_cases hlow : number ≤ Number.maxSigned64
  · rw [if_pos (Int.ofNat_le.2 hlow), if_pos hlow]
    exact if_pos hhigh
  · have hint : ¬ (number : Int) ≤ (Number.maxSigned64 : Int) := by omega
    have hnearest := Number.Binary64.nearest_of_large (Nat.lt_of_not_le hlow) hhigh
    rw [if_neg hint, if_neg hlow, Int.toNat_natCast, hnearest]
    rfl

/-- A number takes the place of what lies under it. -/
theorem mergeOver_ofInteger (value : Int) (old : Option Datum) :
    mergeOver (ofInteger value) old = ofInteger value := by
  unfold ofInteger
  split <;> simp [mergeOver]

theorem covering?_ofInteger (value : Int) :
    covering? (some (ofInteger value)) = some (ofInteger value) := by
  unfold ofInteger
  split <;> rfl

end Datum

theorem KeyPath.ofKey_retryKey : ofKey retryKey = ⟨retryKey, []⟩ := by decide +kernel

theorem KeyPath.addressesRetry_retryKey :
    (⟨retryKey, []⟩ : KeyPath).addressesRetry := by decide +kernel

namespace RetryField

/-- The orders in which the fields may be written. -/
def orders : List (List RetryField) := [[maxAttempts, delay], [delay, maxAttempts]]

theorem lowercaseText_key (field : RetryField) :
    Text.lowercaseText field.key = field.key := by
  cases field <;> decide +kernel

end RetryField

namespace RetrySettings

/-- The number of a field. -/
def number (settings : RetrySettings) : RetryField → Nat
  | .maxAttempts => settings.maxAttempts.toNat
  | .delay => settings.delay.toNat

theorem number_le (settings : RetrySettings) (field : RetryField) :
    settings.number field ≤ Number.maxUnsigned64 := by
  have hbudget := settings.maxAttempts.toNat_lt
  have hdelay := settings.delay.toNat_lt
  unfold Number.maxUnsigned64
  cases field <;> simp only [number] <;> omega

/-- The members that settings are written as. -/
def members (settings : RetrySettings)
    (order : List RetryField) : List (String × Json) :=
  order.map fun field => (field.key, .integer (settings.number field))

theorem haveOnlyPlain_members (settings : RetrySettings) (order : List RetryField) :
    Json.haveOnlyPlain (settings.members order) = true := by
  apply Json.haveOnlyPlain_iff.2
  intro member hmember
  obtain ⟨field, -, rfl⟩ := List.mem_map.1 hmember
  exact isPlain_natCast (settings.number_le field)

/-- The budget comes back from its number. -/
theorem maxAttemptsOf?_ofInteger (settings : RetrySettings) :
    maxAttemptsOf? (.ofInteger (settings.number .maxAttempts)) =
      some settings.maxAttempts := by
  have hbudget := settings.maxAttempts.toNat_lt
  have hkept : Number.kept (settings.number .maxAttempts) =
      settings.maxAttempts.toNat :=
    if_pos (by unfold Number.maxSigned64; simp only [number]; omega)
  rw [maxAttemptsOf?_eq_some_iff,
    Datum.unsigned?_ofInteger (settings.number_le .maxAttempts), hkept]

/-- What is kept of the delay comes back from its number. -/
theorem delayOf?_ofInteger (settings : RetrySettings) :
    delayOf? (.ofInteger (settings.number .delay)) =
      some (UInt64.ofNat (Number.kept settings.delay.toNat)) := by
  rw [delayOf?, Datum.unsigned?_ofInteger (settings.number_le .delay)]
  rfl

/-- What becomes of these members in a settings file. -/
def fileEntries (settings : RetrySettings) (order : List RetryField) : Entries :=
  [(retryKey,
    .table (order.map fun field => (field.key, .ofInteger (settings.number field))))]

variable {settings : RetrySettings} {order : List RetryField}

theorem depth_members (settings : RetrySettings) (order : List RetryField) :
    Json.depthMembers (settings.members order) = 0 := by
  induction order with
  | nil => rfl
  | cons field rest ih =>
      show max 0 (Json.depthMembers (settings.members rest)) = 0
      rw [ih]
      rfl

theorem ofJson?_members (h : order ∈ RetryField.orders) :
    Datum.ofJson? (.object [("retry", .object (settings.members order))]) =
      some (.table (settings.fileEntries order)) := by
  rcases List.mem_pair.1 h with rfl | rfl <;> rfl

theorem keepsTable_fileEntries (settings : RetrySettings) (order : List RetryField) :
    ∀ entry ∈ settings.fileEntries order, Datum.KeepsTable entry := by
  intro entry hentry
  rw [List.mem_singleton.1 hentry, Datum.KeepsTable, KeyPath.ofKey_retryKey]
  exact fun _ => ⟨_, rfl⟩

theorem mergeField_fileEntries (h : order ∈ RetryField.orders) (field : RetryField) :
    Datum.mergeField field.key
        (order.map fun field => (field.key, .ofInteger (settings.number field))) none =
      some (.ofInteger (settings.number field)) := by
  rcases List.mem_pair.1 h with rfl | rfl <;> cases field <;>
    simp [Datum.mergeField, RetryField.lowercaseText_key, RetryField.key_eq_iff,
      Datum.mergeOver_ofInteger]

/-- Such a file sets both fields. -/
theorem fileValue?_fileEntries (h : order ∈ RetryField.orders) (field : RetryField) :
    SettingsSource.fileValue? (settings.fileEntries order) field =
      some (.ofInteger (settings.number field)) := by
  have hfield : Datum.field? (Datum.overlay [] (settings.fileEntries order)) field =
      some (.ofInteger (settings.number field)) := by
    rw [Datum.field_overlay Datum.hasTable_nil (settings.keepsTable_fileEntries order),
      Datum.field_nil, fileEntries, List.foldl_cons, List.foldl_nil, Datum.fieldChange,
      KeyPath.ofKey_retryKey,
      Datum.pathChange, if_pos KeyPath.addressesRetry_retryKey]
    exact mergeField_fileEntries h field
  rw [SettingsSource.fileValue?, hfield, Datum.covering?_ofInteger]

end RetrySettings

/-! ## Reading the file -/

namespace Settings

/-- Settings as data, with the fields in an order. -/
def toJsonInOrder (settings : Settings) (order : List RetryField) : Json :=
  .object [("retry", .object (settings.retry.members order))]

/-- Whether a text is written for settings: it holds both fields, in either order. -/
def WrittenAs (settings : Settings) (text : String) : Prop :=
  ∃ order ∈ RetryField.orders, Json.ofText? text = some (settings.toJsonInOrder order)

theorem writtenAs_toText {order : List RetryField} (settings : Settings)
    (h : order ∈ RetryField.orders) :
    settings.WrittenAs (settings.toJsonInOrder order).toText := by
  have hplain : (settings.toJsonInOrder order).isPlain = true := by
    have hmembers := settings.retry.haveOnlyPlain_members order
    simp [toJsonInOrder, Json.isPlain, Json.haveOnlyPlain, hmembers]
  exact ⟨order, h, Json.ofText?_toText hplain⟩

end Settings

/-- Sources with a file in JSON and without an environment. -/
structure SettingsSource.JsonAlone (source : SettingsSource)
    (text : String) : Prop where
  file : ∃ path, source.path = some path ∧
    source.folder.settingsFile? source.formats path = some (Datum.ofJsonText?, text)
  environment : source.environment = none

theorem SettingsSource.jsonAlone_singleton (text : String) :
    ({ folder := [("d.json", text)], path := some "d.json" } :
      SettingsSource).JsonAlone text :=
  ⟨⟨"d.json", rfl, Folder.settingsFile?_singleton text⟩, rfl⟩

namespace Settings

variable {settings : Settings} {source : SettingsSource} {text : String}

theorem WrittenAs.layered (h : settings.WrittenAs text)
    (hsource : source.JsonAlone text) :
    ∃ order ∈ RetryField.orders, source.Layered (settings.retry.fileEntries order) := by
  obtain ⟨order, horder, htext⟩ := h
  obtain ⟨path, hpath, hfile⟩ := hsource.file
  have hdepth : (settings.toJsonInOrder order).depth ≤ Datum.maxJsonDepth := by
    have hmembers := settings.retry.depth_members order
    simp [toJsonInOrder, Json.depth, Json.depthMembers, hmembers, Datum.maxJsonDepth]
  refine ⟨order, horder, ?_, settings.retry.keepsTable_fileEntries order, ?_⟩
  · rw [SettingsSource.fileLayer?, hpath]
    exact Folder.settings?_of_json hfile htext hdepth
      (RetrySettings.ofJson?_members horder)
  · rw [SettingsSource.visible, hsource.environment]
    exact ⟨fun _ hentry => absurd hentry List.not_mem_nil, fun _ => Nat.zero_le 1⟩

/-- The value that decides on a field is the one that was written. -/
theorem decided_of_written {order : List RetryField}
    (horder : order ∈ RetryField.orders) (hsource : source.JsonAlone text)
    (field : RetryField) :
    source.decided (settings.retry.fileEntries order) field =
      .ofInteger (settings.retry.number field) := by
  have hvariables : source.visible.value? field = none := by
    rw [SettingsSource.visible, hsource.environment]
    rfl
  rw [SettingsSource.decided, hvariables, RetrySettings.fileValue?_fileEntries horder]
  rfl

/-- Settings with the budget of other settings, and with what is kept of their delay. -/
structure KeepsOf (loaded settings : Settings) : Prop where
  maxAttempts_eq : loaded.retry.maxAttempts = settings.retry.maxAttempts
  delay_eq : loaded.retry.delay.toNat = Number.kept settings.retry.delay.toNat

theorem eq_of_fields {loaded : Settings}
    (hbudget : loaded.retry.maxAttempts = settings.retry.maxAttempts)
    (hdelay : loaded.retry.delay = settings.retry.delay) : loaded = settings := by
  cases loaded with | mk loadedRetry =>
  cases settings with | mk retry =>
  cases loadedRetry
  cases retry
  simp only at hbudget hdelay
  rw [hbudget, hdelay]

theorem KeepsOf.eq_iff {loaded : Settings} (h : loaded.KeepsOf settings) :
    loaded = settings ↔ Number.kept settings.retry.delay.toNat =
      settings.retry.delay.toNat := by
  rw [← h.delay_eq, UInt64.toNat_inj]
  exact ⟨fun heq => heq ▸ rfl, eq_of_fields h.maxAttempts_eq⟩

theorem merged?_of_written (h : settings.WrittenAs text)
    (hsource : source.JsonAlone text) :
    ∃ loaded : Settings, source.merged? = some loaded ∧ loaded.KeepsOf settings := by
  obtain ⟨order, horder, hlayered⟩ := h.layered hsource
  have hrange : Number.kept settings.retry.delay.toNat < UInt64.size :=
    Nat.lt_succ_of_le (Number.kept_le (settings.retry.number_le .delay))
  refine ⟨⟨⟨settings.retry.maxAttempts,
    .ofNat (Number.kept settings.retry.delay.toNat)⟩⟩, ?_, rfl,
    UInt64.toNat_ofNat_of_lt' hrange⟩
  rw [hlayered.merged?, decided_of_written horder hsource,
    decided_of_written horder hsource, RetrySettings.maxAttemptsOf?_ofInteger,
    RetrySettings.delayOf?_ofInteger]
  rfl

/-- Settings that are accepted share their policy with no others. -/
theorem policy?_eq_iff {loaded : Settings} (h : settings.validate = .ok ()) :
    loaded.retry.policy? = settings.retry.policy? ↔ loaded = settings := by
  constructor
  · intro heq
    obtain ⟨policy, hpolicy⟩ := (validate_eq_ok_iff settings).1 h
    have hgrants := RetryPolicy.of?_eq_ok_iff.1 hpolicy
    have hloaded := RetryPolicy.of?_eq_ok_iff.1 (heq.trans hpolicy)
    exact eq_of_fields (hloaded.maxAttempts_eq.symm.trans hgrants.maxAttempts_eq)
      (hloaded.delay_eq.symm.trans hgrants.delay_eq)
  · intro heq
    rw [heq]

/-- Settings that are accepted are written as texts, in either order of their fields,
and are loaded from every file that holds such a text.  Loading succeeds with the budget
that was written and with what is kept of the delay.  The settings are the same, and
give the same policy, exactly if the delay is a signed number of sixty-four bits, or a
number with fifty-three binary digits, or the greatest delay of all. -/
theorem load_of_written {σ : Type} (h : settings.validate = .ok ()) :
    settings.WrittenAs (format.toText settings) ∧
      (∀ order ∈ RetryField.orders,
        settings.WrittenAs (settings.toJsonInOrder order).toText) ∧
      ∀ source text, settings.WrittenAs text → source.JsonAlone text →
        ∀ (scope : Scope) (batch : Batch σ), ∃ loaded : Settings,
          (load source scope batch).1 = .ok loaded ∧ loaded.KeepsOf settings ∧
          (loaded = settings ↔
            settings.retry.delay.toNat ≤ Number.maxSigned64 ∨
              Number.largeSpacing ∣ settings.retry.delay.toNat ∨
                settings.retry.delay.toNat = Number.maxUnsigned64) ∧
          (loaded.retry.policy? = settings.retry.policy? ↔ loaded = settings) := by
  have hwritten : ∀ order ∈ RetryField.orders,
      settings.WrittenAs (settings.toJsonInOrder order).toText :=
    fun order horder => settings.writtenAs_toText horder
  -- The format writes the budget first.
  refine ⟨hwritten [.maxAttempts, .delay] List.mem_cons_self, hwritten, ?_⟩
  intro source text htext hsource scope batch
  obtain ⟨loaded, hmerged, hkeeps⟩ := merged?_of_written htext hsource
  have hvalid : loaded.validate = .ok () := by
    rw [validate_eq, hkeeps.maxAttempts_eq, ← validate_eq, h]
  have hloaded : (load source scope batch).1 = .ok loaded := by
    rw [load_fst, SettingsSource.settings?_eq, hmerged]
    show loaded.validate.bind _ = _
    rw [hvalid]
    rfl
  have hdelay : settings.retry.delay.toNat ≤ Number.maxUnsigned64 :=
    settings.retry.number_le .delay
  exact ⟨loaded, hloaded, hkeeps, hkeeps.eq_iff.trans (Number.kept_eq_iff hdelay),
    policy?_eq_iff h⟩

/-- The greatest delay of all is rounded beyond the range and comes back. -/
theorem load_of_written_greatest_delay :
    let settings : Settings := ⟨⟨1, 18446744073709551615⟩⟩
    let source : SettingsSource :=
      { folder := [("d.json", format.toText settings)], path := some "d.json" }
    settings.validate = .ok () ∧ settings.WrittenAs (format.toText settings) ∧
      source.JsonAlone (format.toText settings) ∧
      (load source none (⟨(), [], #[]⟩ : Batch Unit)).1 = .ok settings := by
  intro settings source
  have hvalid : settings.validate = .ok () := rfl
  have hsource := SettingsSource.jsonAlone_singleton (format.toText settings)
  obtain ⟨hwritten, -, hload⟩ := @load_of_written settings Unit hvalid
  obtain ⟨loaded, hloaded, -, hsame, -⟩ :=
    hload source _ hwritten hsource none ⟨(), [], #[]⟩
  have heq : loaded = settings := hsame.2 (.inr (.inr (by decide +kernel)))
  exact ⟨hvalid, hwritten, hsource, heq ▸ hloaded⟩

/-- A delay that is loaded as another one, with another policy. -/
theorem delay_is_rounded :
    let settings : Settings := ⟨⟨3, 9223372036854775809⟩⟩
    let text :=
      "\x7b\"retry\":\x7b\"delay_ms\":9223372036854775809,\"max_attempts\":3\x7d\x7d"
    let source : SettingsSource :=
      { folder := [("d.json", text)], path := some "d.json" }
    settings.validate = .ok () ∧ settings.WrittenAs text ∧ source.JsonAlone text ∧
      (load source none (⟨(), [], #[]⟩ : Batch Unit)).1 =
        .ok ⟨⟨3, 9223372036854775808⟩⟩ ∧
      (⟨⟨3, 9223372036854775808⟩⟩ : Settings) ≠ settings := by
  intro settings text source
  have htext : text = (settings.toJsonInOrder [.delay, .maxAttempts]).toText := by
    decide +kernel
  have hwritten : settings.WrittenAs text :=
    htext ▸ settings.writtenAs_toText (List.mem_cons_of_mem _ List.mem_cons_self)
  have hmerged : source.merged? = some ⟨⟨3, 9223372036854775808⟩⟩ := by decide +kernel
  refine ⟨rfl, hwritten, SettingsSource.jsonAlone_singleton text, ?_, by decide⟩
  rw [load_fst, SettingsSource.settings?_eq, hmerged]
  rfl

end Settings

end ContentBatch
