import ContentBatch.Datum.OfJson
import ContentBatch.Settings.Folder
import ContentBatch.Settings.Layers
import ContentBatch.Toml.Document
import ContentBatch.Yaml.Node

/-!
# Settings files

The format of a settings file follows from the extension of its name. If there is no
file with a path, the extensions of all formats are tried after the path.

A file holds a table at its top.

Which formats there are, and what a text in one of them stands for, is left open: a
format is any function from texts to data. Those in `FileFormats.standard` are the
formats that this library reads itself, TOML and JSON, and YAML as far as it goes
without anchors, tags and directives.
-/

namespace ContentBatch

/-- A format of files: the datum that a text stands for, if it is well formed. -/
abbrev FileFormat := String → Option Datum

/-- The formats of files, by the extensions of their names, in the order in which these
are tried. -/
abbrev FileFormats := List (String × FileFormat)

namespace FileFormats

/-- The formats that are read here. -/
def standard : FileFormats :=
  [("toml", Datum.ofTomlText?), ("json", Datum.ofJsonText?),
    ("yaml", Datum.ofYamlText?), ("yml", Datum.ofYamlText?)]

/-- The extension of a name: what follows its last point, unless nothing comes before
that. -/
def extensionOf? (name : List Char) : Option String :=
  match name.reverse.dropWhile (· != '.') with
  | [] => none
  | [_] => none
  | _ => some (String.ofList (name.reverse.takeWhile (· != '.')).reverse)

/-- The format of the file with a name. -/
def ofName? (formats : FileFormats) (name : List Char) : Option FileFormat := do
  let extension ← extensionOf? name
  formats.lookup extension

end FileFormats

namespace Folder

/-- The text of the file with a path, and its format, if the format is known. -/
def exactFile? (formats : FileFormats) (folder : Folder) (path : String) :
    Option (Option FileFormat × String) := do
  let (start, parts) := Place.start path
  let place ← folder.placeOf? start parts
  let text ← folder.textAt? place
  return (place.names.head?.bind formats.ofName?, text)

/-- The text of the file whose path is the given one and an extension, and its format.
What stays where it is at the end of the path is left out. -/
def extendedFile? (formats : FileFormats) (folder : Folder) (path : String) :
    Option (FileFormat × String) :=
  let (start, parts) := Place.start path
  match parts.reverse.dropWhile Place.stays with
  | [] => none
  | ['.', '.'] :: _ => none
  | name :: before =>
    formats.findSome? fun (extension, format) => do
      let extended := name ++ '.' :: extension.toList
      let place ← folder.placeOf? start (extended :: before).reverse
      let text ← folder.textAt? place
      return (format, text)

/-- The text of the settings file that a path stands for, and its format. -/
def settingsFile? (formats : FileFormats) (folder : Folder) (path : String) :
    Option (FileFormat × String) :=
  match exactFile? formats folder path with
  | some (format, text) => format.map fun format => (format, text)
  | none => extendedFile? formats folder path

/-- The settings in a file. The text may start with a mark of its byte order. -/
def settings? (formats : FileFormats) (folder : Folder)
    (path : String) : Option Entries := do
  let (format, text) ← settingsFile? formats folder path
  match ← format (withoutMark text) with
  | .table entries => some entries
  | _ => none
where
  withoutMark (text : String) : String :=
    match text.toList with
    | '\ufeff' :: rest => String.ofList rest
    | _ => text

end Folder

end ContentBatch
