import ContentBatch.Text.Parts

/-!
# Files and folders

A file is found by its path. The path starts at the root, if its first character is a
slash, or else in the current folder, and goes on from folder to folder: an empty part
and a single point stay where they are, two points lead back, and every other part is
the name of a file or folder. Whatever comes after the name of something that is no
folder leads nowhere, and so does a path that leaves the current folder by two points.

There are no empty folders: a folder is there if some file lies in it.
-/

namespace ContentBatch

/-- A place among files and folders: the names on the way to it, the last one first,
from the root or from the current folder. -/
structure Place where
  rooted : Bool
  names : List (List Char)
  deriving DecidableEq

namespace Place

/-- Where a path starts, and its parts. -/
def start (path : String) : Place × List (List Char) :=
  match Text.parts '/' path.toList with
  | [] :: part :: parts => (⟨true, []⟩, part :: parts)
  | parts => (⟨false, []⟩, parts)

/-- The place that a plain path names, one without parts that stay or lead back. -/
def named (path : String) : Place :=
  let (start, parts) := start path
  { start with names := parts.reverse }

/-- Whether another place lies in the folder at a place. -/
def holds (place other : Place) : Bool :=
  place.rooted == other.rooted && place.names.isSuffixOf other.names && place != other

/-- Whether a part of a path stays where it is. -/
def stays (part : List Char) : Bool :=
  part.isEmpty || part == ['.']

/-- Goes on from a place along the parts of a path, given which places are folders. -/
def follow? (isFolder : Place → Bool) : Place → List (List Char) → Option Place
  | place, [] => some place
  | place, part :: parts =>
    if !isFolder place then none
    else if stays part then follow? isFolder place parts
    else if part == ['.', '.'] then
      match place.names with
      | _ :: names => follow? isFolder { place with names } parts
      | [] => if place.rooted then follow? isFolder place parts else none
    else follow? isFolder { place with names := part :: place.names } parts

end Place

/-- The files that can be reached, with their plain paths and their texts. -/
abbrev Folder := List (String × String)

namespace Folder

/-- Whether there is a folder at a place: it is the root or the current folder, or a
file lies in it. -/
def isFolder (paths : List String) (place : Place) : Bool :=
  place.names.isEmpty || paths.any fun path => place.holds (.named path)

/-- Where a path leads that was cut into its parts. -/
def placeOf? (folder : Folder) (start : Place)
    (parts : List (List Char)) : Option Place :=
  Place.follow? (isFolder (folder.map Prod.fst)) start parts

/-- The text of the file at a place. -/
def textAt? (folder : Folder) (place : Place) : Option String :=
  folder.findSome? fun (path, text) => if Place.named path =
    place then some text else none

end Folder

end ContentBatch
