import ContentBatch.Asset.Format
import ContentBatch.Proofs.Json.Canonical
import ContentBatch.Proofs.Timestamp.Written
import ContentBatch.Replication.Format
import ContentBatch.Settings.Format
import ContentBatch.Workflow.Format

/-!
# Data is read back as it was written

A value is *faithfully written* by a format if its data is plain and stands for the
value again.  The text of such a value can be read, and reading gives the value.

Options, kinds, verdicts and settings are always written faithfully.  The others are if
they satisfy what holds of everything that is read: the year of an instant is one that
instants may have, and the metadata of a model is in canonical form and not nested too
deeply.

## Main result

* `ofText?_toText_of_ofText?`: what was read from any text, in whatever spelling, is
  read again from the text that is written for it.
-/

namespace ContentBatch

/-! ## Lists of values -/

section Lists

variable {α β : Type} {read : β → Option α}

theorem mapM_map_eq_some {write : α → β} {values : List α}
    (h : ∀ value ∈ values, read (write value) = some value) :
    (values.map write).mapM read = some values := by
  induction values with
  | nil => rfl
  | cons value rest ih =>
      rw [List.map_cons, List.mapM_cons, h value List.mem_cons_self,
        ih fun other hOther => h other (List.mem_cons_of_mem _ hOther)]
      rfl

theorem exists_of_mem_mapM {items : List β} {values : List α}
    (h : items.mapM read = some values) :
    ∀ value ∈ values, ∃ item ∈ items, read item = some value := by
  induction items generalizing values with
  | nil =>
      cases h
      intro value hValue
      exact absurd hValue List.not_mem_nil
  | cons item rest ih =>
      rw [List.mapM_cons] at h
      obtain ⟨first, hFirst, h⟩ := Option.bind_eq_some_iff.1 h
      obtain ⟨others, hOthers, h⟩ := Option.bind_eq_some_iff.1 h
      cases h
      intro value hValue
      rcases List.mem_cons.1 hValue with rfl | hValue
      · exact ⟨item, List.mem_cons_self, hFirst⟩
      · obtain ⟨other, hOther, hRead⟩ := ih hOthers value hValue
        exact ⟨other, List.mem_cons_of_mem _ hOther, hRead⟩

end Lists

/-! ## Formats -/

namespace Json.Format

variable {α : Type} {format : Format α} {value : α}

/-- Whether a value is written as plain data that stands for it. -/
def Faithful (format : Format α) (value : α) : Prop :=
  (format.toJson value).isPlain = true ∧
  format.ofJson? (format.toJson value) = some value

/-- Whether everything that was read is read again from its own text, and normal texts
stay as they are. -/
def Lossless (format : Format α) : Prop :=
  (∀ text value, format.ofText? text = some value →
    format.ofText? (format.toText value) = some value) ∧
  ∀ text normal, format.normalized? text = some normal →
    format.normalized? normal = some normal

theorem Faithful.ofText?_toText (h : format.Faithful value) :
    format.ofText? (format.toText value) = some value := by
  show (Json.ofText? (format.toJson value).toText).bind format.ofJson? = some value
  rw [Json.ofText?_toText h.1]
  exact h.2

theorem exists_json_of_ofText? {text : String} (h : format.ofText? text = some value) :
    ∃ json, format.ofJson? json = some value := by
  obtain ⟨json, -, hValue⟩ := Option.bind_eq_some_iff.1 h
  exact ⟨json, hValue⟩

theorem lossless_of_faithful
    (h : ∀ json value, format.ofJson? json = some value → format.Faithful value) :
    format.Lossless := by
  have hRead : ∀ text value, format.ofText? text = some value →
      format.ofText? (format.toText value) = some value := by
    intro text value hText
    obtain ⟨json, hValue⟩ := exists_json_of_ofText? hText
    exact (h json value hValue).ofText?_toText
  refine ⟨hRead, ?_⟩
  intro text normal hNormal
  obtain ⟨value, hValue, rfl⟩ := Option.map_eq_some_iff.1 hNormal
  rw [normalized?, hRead text value hValue]
  rfl

/-- A text that is read at all is read again from the text that is written for its
value. -/
theorem Lossless.read_again (h : format.Lossless) {text : String}
    (hText : (format.ofText? text).isSome) :
    ∃ value, format.ofText? text = some value ∧
      format.ofText? (format.toText value) = some value := by
  obtain ⟨value, hValue⟩ := Option.isSome_iff_exists.1 hText
  exact ⟨value, hValue, h.1 text value hValue⟩

end Json.Format

/-! ## Renditions and assets -/

namespace Rendition

theorem faithful {rendition : Rendition}
    (h : Timestamp.yearInRange rendition.createdAt.date.year = true) :
    format.Faithful rendition := by
  have hSlots : Json.Record.slots? fields rendition.toJson =
      some [some (.string rendition.name), some (.string rendition.path),
        some (.string rendition.createdAt.toText)] := rfl
  have hRead : ofJson? rendition.toJson = some rendition := by
    simp [ofJson?, hSlots, Json.string?, Timestamp.ofText?_toText h]
  exact ⟨rfl, hRead⟩

theorem yearInRange_of_ofJson? {json : Json} {rendition : Rendition}
    (h : ofJson? json = some rendition) :
    Timestamp.yearInRange rendition.createdAt.date.year = true := by
  unfold ofJson? at h
  split at h
  · simp only [Option.bind_eq_bind, Option.bind_eq_some_iff] at h
    obtain ⟨_, -, _, -, _, -, createdAt, hCreatedAt, h⟩ := h
    cases h
    exact Timestamp.yearInRange_of_ofText? hCreatedAt
  · cases h

end Rendition

namespace Asset

theorem faithful {asset : Asset}
    (h : ∀ rendition ∈ asset.renditions, Rendition.format.Faithful rendition) :
    format.Faithful asset := by
  constructor
  · have hRenditions : Json.arePlain (asset.renditions.map Rendition.toJson) = true :=
      Json.arePlain_iff.2 (List.forall_mem_map.2 fun rendition hMem =>
        (h rendition hMem).1)
    show (true && (Json.arePlain (asset.renditions.map Rendition.toJson) && true)) =
        true
    rw [hRenditions]
    rfl
  · have hRenditions : (asset.renditions.map Rendition.toJson).mapM Rendition.ofJson? =
        some asset.renditions :=
          mapM_map_eq_some fun rendition hMem => (h rendition hMem).2
    show ((asset.renditions.map Rendition.toJson).mapM Rendition.ofJson?).bind
      (fun renditions => some ⟨asset.path, renditions⟩) = some asset
    rw [hRenditions]
    rfl

theorem faithful_of_ofJson? {json : Json} {asset : Asset}
    (h : ofJson? json = some asset) :
    format.Faithful asset := by
  unfold ofJson? at h
  split at h
  · simp only [Option.bind_eq_bind, Option.bind_eq_some_iff] at h
    obtain ⟨_, -, _, -, renditions, hRenditions, h⟩ := h
    cases h
    apply faithful
    intro rendition hMem
    obtain ⟨item, -, hItem⟩ := exists_of_mem_mapM hRenditions rendition hMem
    exact Rendition.faithful (Rendition.yearInRange_of_ofJson? hItem)
  · cases h

end Asset

/-! ## Options, kinds, verdicts and settings -/

theorem ReplicationOptions.faithful (options : ReplicationOptions) :
    format.Faithful options := by
  constructor
  · have hAgents : Json.arePlain (options.agentIds.map Json.string) = true :=
      Json.arePlain_iff.2 (List.forall_mem_map.2 fun _ _ => rfl)
    show (true && (Json.arePlain (options.agentIds.map Json.string) &&
        (true && (true && true)))) = true
    rw [hAgents]
    rfl
  · show ((options.agentIds.map Json.string).mapM Json.string?).bind
      (fun agentIds => some ⟨options.synchronous, agentIds, options.suppressVersions,
        options.suppressStatusUpdate⟩) = some options
    have hAgents : (options.agentIds.map Json.string).mapM Json.string? =
        some options.agentIds :=
      mapM_map_eq_some fun _ _ => rfl
    rw [hAgents]
    rfl

theorem ReplicationKind.faithful (kind : ReplicationKind) : format.Faithful kind :=
  ⟨rfl, ofJson?_toJson kind⟩

theorem Freshness.faithful (verdict : Freshness) : format.Faithful verdict :=
  ⟨rfl, ofJson?_toJson verdict⟩

namespace RetrySettings

theorem maxAttempts?_toNat (budget : UInt32) :
    maxAttempts? (.integer budget.toNat) = some budget := by
  have hRange : budget.toNat ≤ Number.maxUnsigned32 := Nat.le_of_lt_succ budget.toNat_lt
  show (if budget.toNat ≤ Number.maxUnsigned32 then some budget.toNat else none).map
      UInt32.ofNat = some budget
  rw [if_pos hRange, Option.map_some, UInt32.ofNat_toNat]

theorem delay?_toNat (delay : Millis) : delay? (.integer delay.toNat) = some delay := by
  have hRange : delay.toNat ≤ Number.maxUnsigned64 := Nat.le_of_lt_succ delay.toNat_lt
  show (if delay.toNat ≤ Number.maxUnsigned64 then some delay.toNat else none).map
      UInt64.ofNat = some delay
  rw [if_pos hRange, Option.map_some, UInt64.ofNat_toNat]

theorem ofJson?_toJson (settings : RetrySettings) :
    ofJson? settings.toJson = some settings := by
  show (maxAttempts? (.integer settings.maxAttempts.toNat)).bind (fun maxAttempts =>
    (delay? (.integer settings.delay.toNat)).bind fun delay =>
      some ⟨maxAttempts, delay⟩) = some settings
  rw [maxAttempts?_toNat, Option.bind_some, delay?_toNat]
  rfl

theorem isPlain_natCast {number : Nat} (h : number ≤ Number.maxUnsigned64) :
    (Json.integer number).isPlain = true := by
  rw [Json.isPlain, Bool.and_eq_true_iff]
  exact ⟨decide_eq_true (by omega), decide_eq_true (Int.ofNat_le.2 h)⟩

theorem isPlain_toJson (settings : RetrySettings) : settings.toJson.isPlain = true := by
  have hBudget : settings.maxAttempts.toNat ≤ Number.maxUnsigned64 :=
    (Nat.le_of_lt settings.maxAttempts.toNat_lt).trans (by decide)
  have hDelay : settings.delay.toNat ≤ Number.maxUnsigned64 :=
    Nat.le_of_lt_succ settings.delay.toNat_lt
  show ((Json.integer settings.maxAttempts.toNat).isPlain &&
    ((Json.integer settings.delay.toNat).isPlain && true)) = true
  rw [isPlain_natCast hBudget, isPlain_natCast hDelay]
  rfl

end RetrySettings

theorem Settings.faithful (settings : Settings) : format.Faithful settings := by
  constructor
  · show (settings.retry.toJson.isPlain && true) = true
    rw [settings.retry.isPlain_toJson]
    rfl
  · show (RetrySettings.ofJson? settings.retry.toJson).bind
        (fun retry => some ⟨retry⟩) = some settings
    rw [settings.retry.ofJson?_toJson]
    rfl

/-! ## Models -/

namespace WorkflowModel

variable {members sorted : List (String × Json)}

/-- Metadata as reading leaves it. -/
structure Canonical (metadata : List (String × Json)) : Prop where
  ordered : Json.Ordered metadata
  fixed : Json.Fixed metadata
  shallow : (Json.object metadata).depth + 1 ≤ maxDepth

theorem canonical_of_metadata? {json : Json} (hRead : metadata? json = some sorted) :
    Canonical sorted := by
  obtain ⟨members, hMembers, h⟩ := Option.bind_eq_some_iff.1 hRead
  split at h
  · rename_i hDepth
    obtain rfl : json = .object members := by
      cases json with
      | object _ => rw [Option.some.inj hMembers]
      | _ => cases hMembers
    have hForm : Json.canonical? (.object members) = some (.object sorted) := by
      rw [Json.canonical?, h]
      rfl
    have hShallow := Json.depth_canonical?_le _ hForm
    exact ⟨Json.Ordered.canonicalMembers? .nil h,
      Json.forall_canonicalMembers? (by simp)
        (fun member _ _ hValue => Json.canonical?_fixed member.2 hValue) h, by omega⟩
  · cases h

/-- Canonical metadata, written in any order, is read as it was. -/
theorem Canonical.metadata? (h : Canonical sorted) (hPerm : members.Perm sorted) :
    WorkflowModel.metadata? (.object members) = some sorted := by
  have hDepth : (Json.object members).depth = (Json.object sorted).depth :=
    congrArg (· + 1) (Json.depthMembers_perm hPerm)
  show (if (Json.object members).depth + 1 ≤
      maxDepth then Json.canonicalMembers? members [] else none) =
    some sorted
  rw [hDepth, if_pos h.shallow, Json.canonicalMembers?_of_perm h.fixed h.ordered hPerm]

theorem optionalString?_title (title : Option String) :
    ((title.map Json.string).getD .null).optionalString? = some title := by
  cases title <;> rfl

theorem isPlain_title (title : Option String) :
    ((title.map Json.string).getD .null).isPlain = true := by
  cases title <;> rfl

theorem isPlain_toJson {model : WorkflowModel}
    (h : ∀ member ∈ model.metadata, member.2.isPlain = true) :
    model.toJson.isPlain = true := by
  show (true && (((model.title.map Json.string).getD .null).isPlain &&
    (Json.haveOnlyPlain model.metadata && true))) = true
  rw [isPlain_title, Json.haveOnlyPlain_iff.2 h]
  rfl

theorem ofJson?_toJson {model : WorkflowModel} (h : Canonical sorted)
    (hPerm : model.metadata.Perm sorted) :
    ofJson? model.toJson = some { model with metadata := sorted } := by
  have hSlots : Json.Record.slots? fields model.toJson = some [some (.string model.id),
      some ((model.title.map Json.string).getD .null),
      some (.object model.metadata)] := rfl
  simp [ofJson?, hSlots, Json.string?, optionalString?_title, h.metadata? hPerm]

theorem canonical_of_ofJson? {json : Json} {model : WorkflowModel}
    (h : ofJson? json = some model) :
    Canonical model.metadata := by
  unfold ofJson? at h
  split at h
  · simp only [Option.bind_eq_bind, Option.bind_eq_some_iff] at h
    obtain ⟨_, -, _, -, metadata, hMetadata, h⟩ := h
    cases h
    exact canonical_of_metadata? hMetadata
  · cases h

/-- A model as reading leaves it, with plain metadata, is written faithfully. -/
theorem faithful {model : WorkflowModel} (hCanonical : Canonical model.metadata)
    (hPlain : ∀ member ∈ model.metadata, member.2.isPlain = true) :
    format.Faithful model :=
  ⟨isPlain_toJson hPlain, ofJson?_toJson hCanonical (.refl _)⟩

/-- A model as reading leaves it, with plain metadata that is written in any order. -/
theorem ofText?_toText {model : WorkflowModel} (hCanonical : Canonical model.metadata)
    (hPlain : ∀ member ∈ model.metadata, member.2.isPlain = true)
    (hPerm : members.Perm model.metadata) :
    format.ofText? (format.toText { model with metadata := members }) = some model := by
  have hMembers : ∀ member ∈ members, member.2.isPlain = true :=
    fun member hMember => hPlain member (hPerm.subset hMember)
  have hRead : ofJson? ({ model with metadata := members } : WorkflowModel).toJson =
      some model :=
    ofJson?_toJson hCanonical hPerm
  show (Json.ofText? ({ model with metadata := members } :
      WorkflowModel).toJson.toText).bind ofJson? = _
  rw [Json.ofText?_toText (isPlain_toJson hMembers)]
  exact hRead

end WorkflowModel

/-! ## Every format -/

/-- What was read from a text, in whatever spelling, is read again from the text that is
written for it.  The metadata of a model has to be plain, and its members may be written
in any order.

Values need not come from a text.  All of them are written faithfully, as long as their
instants have a year that instants may have, and their metadata is as reading leaves
it. -/
theorem ofText?_toText_of_ofText? :
    (Rendition.format.Lossless ∧ Asset.format.Lossless ∧
      ReplicationOptions.format.Lossless ∧
      ReplicationKind.format.Lossless ∧ Freshness.format.Lossless ∧
      Settings.format.Lossless ∧
      ∀ text model, WorkflowModel.format.ofText? text = some model →
        (∀ member ∈ model.metadata, member.2.isPlain = true) →
        ∀ members, members.Perm model.metadata →
          let written := WorkflowModel.format.toText { model with metadata := members }
          WorkflowModel.format.ofText? written = some model ∧
            WorkflowModel.format.normalized? written =
              some (WorkflowModel.format.toText model)) ∧
    (∀ rendition : Rendition,
      Timestamp.yearInRange rendition.createdAt.date.year = true →
      Rendition.format.Faithful rendition) ∧
    (∀ asset : Asset,
      (∀ rendition ∈ asset.renditions,
        Timestamp.yearInRange rendition.createdAt.date.year = true) →
        Asset.format.Faithful asset) ∧
    (∀ options, ReplicationOptions.format.Faithful options) ∧
    (∀ kind, ReplicationKind.format.Faithful kind) ∧
    (∀ verdict, Freshness.format.Faithful verdict) ∧
    (∀ settings, Settings.format.Faithful settings) ∧
    ∀ model : WorkflowModel, WorkflowModel.Canonical model.metadata →
      (∀ member ∈ model.metadata, member.2.isPlain = true) →
      WorkflowModel.format.Faithful model := by
  refine ⟨⟨?rendition, ?asset, ?options, ?kind, ?verdict, ?settings, ?model⟩,
    fun _ => Rendition.faithful, ?assets, ReplicationOptions.faithful,
      ReplicationKind.faithful,
    Freshness.faithful, Settings.faithful, fun _ => WorkflowModel.faithful⟩
  case rendition =>
    exact Json.Format.lossless_of_faithful fun _ _ h =>
      Rendition.faithful (Rendition.yearInRange_of_ofJson? h)
  case asset =>
    exact Json.Format.lossless_of_faithful fun _ _ h => Asset.faithful_of_ofJson? h
  case options =>
    exact Json.Format.lossless_of_faithful fun _ options _ => options.faithful
  case kind => exact Json.Format.lossless_of_faithful fun _ kind _ => kind.faithful
  case verdict =>
    exact Json.Format.lossless_of_faithful fun _ verdict _ => verdict.faithful
  case settings =>
    exact Json.Format.lossless_of_faithful fun _ settings _ => settings.faithful
  case model =>
    intro text model hText hPlain members hPerm written
    obtain ⟨json, hModel⟩ := Json.Format.exists_json_of_ofText? hText
    have hRead : WorkflowModel.format.ofText? written = some model :=
      WorkflowModel.ofText?_toText
        (WorkflowModel.canonical_of_ofJson? hModel) hPlain hPerm
    refine ⟨hRead, ?_⟩
    rw [Json.Format.normalized?, hRead]
    rfl
  case assets =>
    intro asset hYears
    exact Asset.faithful fun rendition hMem =>
      Rendition.faithful (hYears rendition hMem)

/-- Texts of every format in unusual spellings: a leap second with an offset, records as
arrays and with members that are passed over, words as objects, and metadata with a name
that is repeated, which is then written last name first. -/
theorem ofText?_toText_leap_second_and_repeated_name :
    (∃ rendition : Rendition,
      Rendition.format.ofText?
        "[\"web\", \"/caf\\u00e9\\n\", \"2016-12-31T15:59:60.5-08:00\"]" =
        some rendition ∧
      rendition.createdAt.nanos = 1500000000 ∧
      Rendition.format.ofText? (Rendition.format.toText rendition) = some rendition) ∧
    (∃ asset, Asset.format.ofText?
        "[\"/a\", [\x7b\"size\": 1e999, \"created_at\": \"2016-12-31t23:59:60z\",
          \"name\": \"web\", \"path\": \"/a/web\"\x7d]]" = some asset ∧
      Asset.format.ofText? (Asset.format.toText asset) = some asset) ∧
    (∃ options, ReplicationOptions.format.ofText? "[true, [\"publish\"], false, true]" =
      some options ∧
      ReplicationOptions.format.ofText? (ReplicationOptions.format.toText options) =
        some options) ∧
    (∃ kind, ReplicationKind.format.ofText? "\x7b\"activate\": null\x7d" = some kind ∧
      ReplicationKind.format.ofText? (ReplicationKind.format.toText kind) = some kind) ∧
    (∃ verdict, Freshness.format.ofText? " \"outd\\u0061ted\"" = some verdict ∧
      Freshness.format.ofText? (Freshness.format.toText verdict) = some verdict) ∧
    (∃ settings, Settings.format.ofText? "[[5]]" = some settings ∧
      Settings.format.ofText? (Settings.format.toText settings) = some settings) ∧
    ∃ model : WorkflowModel,
      WorkflowModel.format.ofText?
        "\x7b\"metadata\": \x7b\"b\": [1, -2], \"a\": \x7b\"x\": \"\\/\"\x7d,
        \"b\": true\x7d, \"other\": [0.5], \"id\": \"m\"\x7d" = some model ∧
      model.metadata.map Prod.fst = ["a", "b"] ∧
      (∀ member ∈ model.metadata, member.2.isPlain = true) ∧
      WorkflowModel.format.ofText?
        (WorkflowModel.format.toText { model with
          metadata := model.metadata.reverse }) = some model := by
  obtain ⟨⟨hRendition, hAsset, hOptions, hKind, hVerdict, hSettings, hModel⟩, -⟩ :=
    ofText?_toText_of_ofText?
  refine ⟨?rendition, hAsset.read_again (by decide +kernel),
    hOptions.read_again (by decide +kernel), hKind.read_again (by decide +kernel),
    hVerdict.read_again (by decide +kernel),
    hSettings.read_again (by decide +kernel), ?model⟩
  case rendition =>
    have hRead : (Rendition.format.ofText?
        "[\"web\", \"/caf\\u00e9\\n\", \"2016-12-31T15:59:60.5-08:00\"]").any
          (fun rendition => rendition.createdAt.nanos == 1500000000) = true := by
            decide +kernel
    obtain ⟨rendition, hText, hNanos⟩ := (Option.any_eq_true _ _).1 hRead
    exact ⟨rendition, hText, beq_iff_eq.1 hNanos, hRendition.1 _ rendition hText⟩
  case model =>
    have hRead : (WorkflowModel.format.ofText?
        "\x7b\"metadata\": \x7b\"b\": [1, -2], \"a\": \x7b\"x\": \"\\/\"\x7d,
        \"b\": true\x7d, \"other\": [0.5], \"id\": \"m\"\x7d").any
          (fun model => model.metadata.map Prod.fst ==
            ["a", "b"] && Json.haveOnlyPlain model.metadata) =
            true := by decide +kernel
    obtain ⟨model, hText, hMembers⟩ := (Option.any_eq_true _ _).1 hRead
    obtain ⟨hNames, hPlain⟩ := Bool.and_eq_true_iff.1 hMembers
    have hPlain := Json.haveOnlyPlain_iff.1 hPlain
    exact ⟨model, hText, beq_iff_eq.1 hNames, hPlain,
      (hModel _ model hText hPlain _ model.metadata.reverse_perm).1⟩

end ContentBatch
