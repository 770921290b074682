import ContentBatch.Asset.Basic

/-!
# Freshness of renditions

Renditions are outdated when one of them is older than the original, or when there are
none beside it. Without an original there is nothing to compare with.
-/

namespace ContentBatch

/-- The verdict on an asset's renditions. -/
inductive Freshness where
  | fresh
  | outdated
  | noReference
  deriving DecidableEq, Repr

namespace Freshness

/-- Whether the renditions have to be made again. -/
def needsRegeneration : Freshness → Bool
  | outdated => true
  | _ => false

/-- The written name of a verdict. -/
def name : Freshness → String
  | fresh => "fresh"
  | outdated => "outdated"
  | noReference => "no_reference"

/-- The verdict as diagnostics show it. -/
def shown : Freshness → String
  | fresh => "Fresh"
  | outdated => "Outdated"
  | noReference => "NoReference"

/-- Every verdict. -/
def all : List Freshness := [fresh, outdated, noReference]

/-- The verdict with a written name. -/
def ofName? (name : String) : Option Freshness :=
  all.find? fun verdict => verdict.name == name

theorem ofName?_name (verdict : Freshness) : ofName? verdict.name = some verdict := by
  cases verdict <;> decide

/-- The verdict on renditions that are compared with a reference time. A single
rendition is the reference itself. -/
def classify (reference : Timestamp) (renditions : List Rendition) : Freshness :=
  if renditions.any fun rendition => rendition.createdAt.before reference then outdated
  else if renditions.length ≤ 1 then outdated
  else fresh

/-- The verdict on an asset, compared with its original. -/
def assess (asset : Asset) : Freshness :=
  match asset.original? with
  | some original => classify original.createdAt asset.renditions
  | none => noReference

end Freshness

end ContentBatch
