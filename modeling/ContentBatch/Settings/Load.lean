import ContentBatch.Batch.Basic
import ContentBatch.Settings.Environment
import ContentBatch.Settings.File

/-!
# Loading settings

Settings are loaded from three layers: the standard ones, those of a file, and those of
the environment. Later layers win, entry by entry. A file that is asked for has to be
there. What was loaded is checked at last, so a layer may hold settings that a later one
mends.
-/

namespace ContentBatch

/-- Where settings come from: a file in a folder, if a path is given, in one of some
formats, and the environment, if it counts. -/
structure SettingsSource where
  folder : Folder := []
  path : Option String := none
  environment : Option Environment := none
  formats : FileFormats := .standard

namespace SettingsSource

/-- The layer of the file; nothing if there is no such file or it cannot be read. -/
def fileLayer? (source : SettingsSource) : Option Entries :=
  match source.path with
  | some path => source.folder.settings? source.formats path
  | none => some []

/-- The layer of the environment. -/
def environmentLayer (source : SettingsSource) : Entries :=
  (source.environment.map Environment.settings).getD []

/-- The settings of all layers, not checked. -/
def merged? (source : SettingsSource) : Option Settings := do
  Settings.ofLayers? [← source.fileLayer?, source.environmentLayer]

/-- The settings of a source. -/
def settings? (source : SettingsSource) : Except ActionError Settings := do
  match source.merged? with
  | none => .error (.configuration "settings cannot be read")
  | some settings =>
    settings.validate
    return settings

end SettingsSource

namespace Settings

/-- Loads settings, and reports the file that is read and what was loaded. -/
def load {σ : Type} (source : SettingsSource) (scope : Scope) : Job σ Settings := do
  match source.path with
  | some path => Job.emit scope (.settingsFile path)
  | none => pure ()
  let settings ← Job.ofExcept source.settings?
  let policy ← Job.ofExcept settings.retry.policy?
  Job.emit scope (.settingsLoaded policy)
  return settings

end Settings

end ContentBatch
