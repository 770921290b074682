import ContentBatch.Text.Lowercase
import ContentBatch.Text.Quoted
import ContentBatch.Timestamp.Basic

/-!
# Assets and renditions

An asset is a path with its renditions, in the order in which the store lists them. One
rendition is the original from which the others are made.

Two notions of *the original* live side by side. `Rendition.isOriginal` protects a
rendition from removal and ignores case; `Asset.original?` looks up the reference of a
comparison and takes the name as it is written.
-/

namespace ContentBatch

/-- One stored form of an asset. -/
structure Rendition where
  name : String
  path : String
  createdAt : Timestamp
  deriving DecidableEq, Repr

/-- A path with its renditions. -/
structure Asset where
  path : String
  renditions : List Rendition
  deriving DecidableEq, Repr

/-- The name of the rendition that the others are made from. -/
def originalName : String := "original"

namespace Rendition

/-- Whether the rendition has the name, ignoring case. -/
def nameMatches (rendition : Rendition) (name : String) : Bool :=
  Text.equalIgnoringCase rendition.name name

/-- Whether the rendition counts as an original. -/
def isOriginal (rendition : Rendition) : Bool :=
  rendition.nameMatches originalName

end Rendition

namespace Asset

/-- The first rendition with exactly this name. -/
def rendition? (asset : Asset) (name : String) : Option Rendition :=
  asset.renditions.find? fun rendition => rendition.name == name

/-- The rendition that the others are compared with. -/
def original? (asset : Asset) : Option Rendition :=
  asset.rendition? originalName

end Asset

/-- Which renditions a removal deletes. -/
inductive Selector where
  | allButOriginal
  | named (name : String)
  deriving DecidableEq, Repr

namespace Selector

/-- Whether the selector picks a rendition. -/
def selects : Selector → Rendition → Bool
  | allButOriginal, rendition => !rendition.isOriginal
  | named name, rendition => rendition.nameMatches name

/-- The selector as diagnostics show it. -/
def shown : Selector → String
  | allButOriginal => "AllButOriginal"
  | named name => "Named(" ++ Text.quoted name ++ ")"

/-- What is left of a list of renditions once the selected ones are gone. -/
def remaining (selector : Selector) (renditions : List Rendition) : List Rendition :=
  renditions.filter fun rendition => !selector.selects rendition

end Selector

end ContentBatch
