import ContentBatch.Asset.Freshness
import ContentBatch.Json.Format
import ContentBatch.Json.Record
import ContentBatch.Timestamp.Text

/-!
# Assets in JSON

Renditions, assets and freshness verdicts as data. A written value reads back as itself;
reading also takes the other spellings of a record and any spelling of an instant.
-/

namespace ContentBatch

namespace Rendition

/-- The fields of a rendition. -/
def fields : List Json.Field :=
  [.required "name", .required "path", .required "created_at"]

/-- A rendition as data. -/
def toJson (rendition : Rendition) : Json :=
  .object [("name", .string rendition.name), ("path", .string rendition.path),
    ("created_at", .string rendition.createdAt.toText)]

/-- The rendition that some data stands for. -/
def ofJson? (json : Json) : Option Rendition :=
  match Json.Record.slots? fields json with
  | some [some name, some path, some createdAt] => do
      let createdAt ← createdAt.string?
      return ⟨← name.string?, ← path.string?, ← Timestamp.ofText? createdAt⟩
  | _ => none

/-- The format of renditions. -/
def format : Json.Format Rendition := ⟨toJson, ofJson?⟩

end Rendition

namespace Asset

/-- The fields of an asset. -/
def fields : List Json.Field := [.required "path", .required "renditions"]

/-- An asset as data. -/
def toJson (asset : Asset) : Json :=
  .object [("path", .string asset.path),
    ("renditions", .array (asset.renditions.map Rendition.toJson))]

/-- The asset that some data stands for. -/
def ofJson? (json : Json) : Option Asset :=
  match Json.Record.slots? fields json with
  | some [some path, some renditions] => do
      return ⟨← path.string?, ← (← renditions.array?).mapM Rendition.ofJson?⟩
  | _ => none

/-- The format of assets. -/
def format : Json.Format Asset := ⟨toJson, ofJson?⟩

end Asset

namespace Freshness

/-- A verdict as data. -/
def toJson (verdict : Freshness) : Json := .string verdict.name

/-- The verdict that some data stands for. -/
def ofJson? (json : Json) : Option Freshness := do
  ofName? (← json.word?)

/-- The format of verdicts. -/
def format : Json.Format Freshness := ⟨toJson, ofJson?⟩

theorem ofJson?_toJson (verdict : Freshness) : ofJson? verdict.toJson = some verdict :=
  ofName?_name verdict

end Freshness

end ContentBatch
