import ContentBatch.Retry.Policy

/-!
# Settings

What can be configured: the budget and the delay of retries that do not bring their own.
Settings are plain data and may say zero attempts; such settings are refused by
`validate`, and exactly those have no policy (`validate_eq_ok_iff`).
-/

namespace ContentBatch

/-- The settings of retries. -/
structure RetrySettings where
  maxAttempts : UInt32 := 3
  delay : Millis := 1000
  deriving DecidableEq, Repr

/-- All settings. -/
structure Settings where
  retry : RetrySettings := {}
  deriving DecidableEq, Repr

namespace RetrySettings

/-- The policy of the settings. -/
def policy? (settings : RetrySettings) : Except ActionError RetryPolicy :=
  RetryPolicy.of? settings.maxAttempts settings.delay

/-- The settings as diagnostics show them. -/
def shown (settings : RetrySettings) : String :=
  Text.shownRecord "RetryConfig"
    [("max_attempts", toString settings.maxAttempts.toNat),
      ("delay_ms", toString settings.delay.toNat)]

end RetrySettings

namespace Settings

/-- Refuses settings without a single attempt. -/
def validate (settings : Settings) : Except ActionError Unit :=
  if settings.retry.maxAttempts = 0 then
    .error (.configuration "retry.max_attempts must be greater than 0")
  else .ok ()

/-- Settings that were made elsewhere, unless they are refused. -/
def checked? (settings : Settings) : Except ActionError Settings := do
  settings.validate
  return settings

theorem validate_eq_ok_iff (settings : Settings) :
    settings.validate = .ok () ↔ ∃ policy, settings.retry.policy? = .ok policy := by
  rw [RetrySettings.policy?, RetryPolicy.of?_ok_iff, validate]
  have hPos : 0 < settings.retry.maxAttempts ↔
      settings.retry.maxAttempts ≠ 0 := UInt32.pos_iff_ne_zero
  rw [hPos]
  split <;> simp_all

/-- The settings as diagnostics show them. -/
def shown (settings : Settings) : String :=
  Text.shownRecord "DeferredActionsConfig" [("retry", settings.retry.shown)]

end Settings

end ContentBatch
