import ContentBatch.Asset.Freshness
import ContentBatch.Batch.Basic
import ContentBatch.Pattern.Path

/-!
# Filters

A filter decides whether an item is worked on. Filters over the path alone ask nobody;
the others ask the repository, and then an error is neither yes nor no: it ends the
evaluation.

`Filter.accepts` evaluates from the left: the second filter of `andThen` is only asked
if the first one accepts, and `acceptsAll` stops at the first filter of a list that does
not accept.

Filters, like everything that a host passes around, may stand behind holders. A holder
passes on what it is asked.
-/

namespace ContentBatch

/-- The kinds of holders: the only owner of what they hold, or one of several that share
it. -/
inductive Holder where
  | owned
  | shared
  deriving DecidableEq, Repr

/-- Conditions on items. -/
inductive Filter (σ : Type) where
  | pathMatches (pattern : PathPattern)
  | isAsset
  | hasOutdatedRenditions
  | negation (filter : Filter σ)
  | andThen (first second : Filter σ)
  | held (holder : Holder) (filter : Filter σ)
  | custom (name : String) (accepts : String → Job σ Bool)

namespace Filter

variable {σ : Type}

/-- The name of a filter. -/
def name : Filter σ → String
  | pathMatches _ => "matching"
  | isAsset => Operation.filterNonAssets
  | hasOutdatedRenditions => Operation.filterOutdated
  | negation _ => "not"
  | andThen _ _ => "and_then"
  | held _ filter => filter.name
  | custom name _ => name

/-- The filter that a negation negates; other filters are their own. -/
def inner : Filter σ → Filter σ
  | negation filter => filter
  | filter => filter

/-- The freshness of the asset at a path, if there is one. -/
def freshnessAt (repository : Repository σ) (scope : Scope) (path : String) :
    Job σ (Option Freshness) := do
  let asset ← Job.ask repository (.resolve path)
  let freshness := asset.map Freshness.assess
  Job.emit scope (.assessed path freshness)
  return freshness

/-- Whether a filter accepts the item at a path. -/
def accepts (repository : Repository σ) (scope : Scope) : Filter σ → String → Job σ Bool
  | pathMatches pattern, path => return pattern.isMatch path
  | isAsset, path => do
      let asset ← Job.within scope (.onItem Operation.filterNonAssets path) fun _ =>
        Job.ask repository (.resolve path)
      return asset.isSome
  | hasOutdatedRenditions, path => do
      let freshness ← Job.within scope
          (.onItem Operation.filterOutdated path) fun scope =>
        freshnessAt repository scope path
      return freshness.any Freshness.needsRegeneration
  | negation filter, path => do
      return !(← filter.accepts repository scope path)
  | andThen first second, path => do
      if ← first.accepts repository scope path then second.accepts repository scope path
      else return false
  | held _ filter, path => filter.accepts repository scope path
  | custom _ accepts, path => accepts path

/-- Whether all filters of a list accept the item at a path. -/
def acceptsAll (repository : Repository σ) (scope : Scope) :
    List (Filter σ) → String → Job σ Bool
  | [], _ => return true
  | filter :: filters, path => do
      if ← filter.accepts repository scope path then
        acceptsAll repository scope filters path
      else return false

/-- Accepts paths that match a pattern. -/
def matching (pattern : String) (engine : Pattern.Engine := .standard) :
    Except ActionError (Filter σ) :=
  (PathPattern.ofText? pattern engine).map pathMatches

/-- Accepts paths that do not match a pattern. -/
def notMatching (pattern : String) (engine : Pattern.Engine := .standard) :
    Except ActionError (Filter σ) :=
  (PathPattern.ofText? pattern engine).map fun pattern => negation (pathMatches pattern)

/-- Accepts what is not below a folder of subassets. -/
def excludeSubassets : Filter σ :=
  negation (pathMatches .subassets)

end Filter

end ContentBatch
