import ContentBatch.Asset.Basic
import ContentBatch.Replication
import ContentBatch.Retry.Policy
import ContentBatch.Workflow

/-!
# The repository around the actions

Everything that actions ask of the content repository is a `Call`, and every call has
one type of answer. A call either gives its answer or fails with an error.

`revert` and `refresh` roll the session back: the first drops what was not saved, the
second brings in what others saved. The last two calls stand for what a host adds of its
own: steps that succeed or fail, and questions that are answered with yes or no,
together with the answer that is usual.

Nothing else is known of a repository. It is a transition function on some states `σ`,
so it may answer the same call differently each time, and every statement about actions
holds of all repositories.
-/

namespace ContentBatch

/-- What can be asked of the repository. -/
inductive Call where
  | resolve (path : String)
  | removeRendition (assetPath name : String)
  | replicate (kind : ReplicationKind) (path : String)
      (options : Option ReplicationOptions)
  | execute (path : String) (model : WorkflowModel) (autoSave autoRefresh : Bool)
  | revert
  | refresh
  | setUserData (marker : String)
  | hostStep (name : String) (arguments : List String)
  | hostQuestion (name : String) (arguments : List String) (usual : Bool)
  deriving Repr

namespace Call

/-- The type of the answer to a call. -/
abbrev Answer : Call → Type
  | resolve _ => Option Asset
  | hostQuestion _ _ _ => Bool
  | _ => Unit

/-- Whether a call rolls the session back. -/
def rollsBack : Call → Bool
  | revert => true
  | refresh => true
  | _ => false

end Call

/-- A token by which waits can be cancelled, known by its name. -/
abbrev Token := String

/-- A content repository with states `σ`: for whom its sessions act, how it answers
calls, and how it waits. `sleep` waits out a delay; `sleepUnless` ends early, with
`false`, if the token is cancelled before the delay is over. -/
structure Repository (σ : Type) where
  user : String := "unknown"
  answer : (call : Call) → σ → Except ActionError call.Answer × σ
  sleep : Millis → σ → σ
  sleepUnless : Token → Millis → σ → Bool × σ

/-- In the states of a repository a token may be `cancelled`. Nothing takes this back,
whatever is asked for and waited for, and a wait on the token that is over while the
token is cancelled was not completed. -/
structure Repository.Cancels {σ : Type} (repository : Repository σ) (token : Token)
    (cancelled : σ → Prop) : Prop where
  answer : ∀ call store, cancelled store → cancelled (repository.answer call store).2
  sleep : ∀ delay store, cancelled store → cancelled (repository.sleep delay store)
  sleepUnless : ∀ other delay store,
    cancelled store → cancelled (repository.sleepUnless other delay store).2
  waits : ∀ delay store, cancelled (repository.sleepUnless token delay store).2 →
    (repository.sleepUnless token delay store).1 = false

end ContentBatch
