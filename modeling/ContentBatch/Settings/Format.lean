import ContentBatch.Json.Format
import ContentBatch.Json.Record
import ContentBatch.Settings.Basic

/-!
# Settings in JSON

Every field has a default and may be left out. Numbers have to be whole and within the
range of their field.
-/

namespace ContentBatch

namespace RetrySettings

/-- The fields of retry settings. -/
def fields : List Json.Field := [.defaulted "max_attempts", .defaulted "delay_ms"]

/-- Retry settings as data. -/
def toJson (settings : RetrySettings) : Json :=
  .object [("max_attempts", .integer settings.maxAttempts.toNat),
    ("delay_ms", .integer settings.delay.toNat)]

/-- A budget of attempts. -/
def maxAttempts? (json : Json) : Option UInt32 :=
  (json.unsigned? Number.maxUnsigned32).map UInt32.ofNat

/-- A delay in milliseconds. -/
def delay? (json : Json) : Option Millis :=
  (json.unsigned? Number.maxUnsigned64).map UInt64.ofNat

/-- The value in a place, or the default if it is empty. -/
def orDefault {α : Type} (default : α) (read : Json → Option α) : Option Json → Option α
  | none => some default
  | some json => read json

/-- The retry settings that some data stands for. -/
def ofJson? (json : Json) : Option RetrySettings :=
  match Json.Record.slots? fields json with
  | some [maxAttempts, delay] => do
      let standard : RetrySettings := {}
      return ⟨← orDefault standard.maxAttempts maxAttempts? maxAttempts,
        ← orDefault standard.delay delay? delay⟩
  | _ => none

end RetrySettings

namespace Settings

/-- The fields of settings. -/
def fields : List Json.Field := [.defaulted "retry"]

/-- Settings as data. -/
def toJson (settings : Settings) : Json :=
  .object [("retry", settings.retry.toJson)]

/-- The settings that some data stands for. -/
def ofJson? (json : Json) : Option Settings :=
  match Json.Record.slots? fields json with
  | some [retry] => do
      return ⟨← RetrySettings.orDefault {} RetrySettings.ofJson? retry⟩
  | _ => none

/-- The format of settings. -/
def format : Json.Format Settings := ⟨toJson, ofJson?⟩

end Settings

end ContentBatch
