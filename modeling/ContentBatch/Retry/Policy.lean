import ContentBatch.Error
import ContentBatch.Number.Digits
import ContentBatch.Text.Shown

/-!
# Retry policies

A policy says how often an action is tried at most and how long to wait between two
attempts. There is always at least one attempt.
-/

namespace ContentBatch

/-- A length of time in milliseconds. -/
abbrev Millis := UInt64

/-- A length of time as diagnostics show it: whole seconds with as few decimals as are
exact, or milliseconds if it is shorter than a second. -/
def showMillis (delay : Millis) : String :=
  let seconds := delay.toNat / 1000
  let rest := delay.toNat % 1000
  if seconds = 0 then
    if rest = 0 then "0ns" else toString rest ++ "ms"
  else if rest = 0 then toString seconds ++ "s"
  else
    let digits := Nat.toDigits 10 (1000 + rest)
    let decimals := ((digits.drop 1).reverse.dropWhile (· == '0')).reverse
    toString seconds ++ "." ++ String.ofList decimals ++ "s"

/-- A budget of attempts and the delay between them. -/
structure RetryPolicy where
  maxAttempts : UInt32
  delay : Millis
  maxAttempts_pos : 0 < maxAttempts
  deriving DecidableEq

namespace RetryPolicy

/-- The policy with this budget and delay; a budget of zero has none. -/
def of? (maxAttempts : UInt32) (delay : Millis) : Except ActionError RetryPolicy :=
  if h : 0 < maxAttempts then .ok ⟨maxAttempts, delay, h⟩
  else .error (.validation "retry policy requires max_attempts >= 1")

/-- The policy with this budget and no delay. -/
def immediate? (maxAttempts : UInt32) : Except ActionError RetryPolicy :=
  of? maxAttempts 0

/-- Three attempts, a second apart. -/
def standard : RetryPolicy := ⟨3, 1000, by decide⟩

theorem one_le_maxAttempts (policy : RetryPolicy) : 1 ≤ policy.maxAttempts.toNat :=
  UInt32.lt_iff_toNat_lt.1 policy.maxAttempts_pos

theorem of?_ok_iff {maxAttempts : UInt32} {delay : Millis} :
    (∃ policy, of? maxAttempts delay = .ok policy) ↔ 0 < maxAttempts := by
  unfold of?
  split
  · rename_i h
    simp [h]
  · rename_i h
    simp [h]

/-- The policy as diagnostics show it. -/
def shown (policy : RetryPolicy) : String :=
  Text.shownRecord "RetryPolicy"
    [("max_attempts", toString policy.maxAttempts.toNat),
      ("delay", showMillis policy.delay)]

end RetryPolicy

end ContentBatch
