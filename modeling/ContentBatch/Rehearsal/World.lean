import ContentBatch.Repository

/-!
# A repository to rehearse on

A `World` is a small repository that follows a script. It keeps two lists of assets, the
working one and the committed one, a clock that only waits move, and for each kind of
call a queue of what is to happen at the next calls. With an empty queue everything goes
well.

Tokens are cancelled by the script, or by a timer when the clock passes it. A cancelled
token stays cancelled.
-/

namespace ContentBatch.Rehearsal

/-- An asset and the path at which it is found. -/
structure Stored where
  place : String
  asset : Asset
  deriving DecidableEq, Repr

/-- What is to happen at a call: a wait, the cancellation of a token, and then an error
instead of the usual answer, or an answer of its own. -/
structure Turn where
  wait : Nat := 0
  cancel : Option Token := none
  error : Option ActionError := none
  asset : Option (Option Asset) := none
  verdict : Option Bool := none
  deriving Repr

/-- The kinds of calls that can be scripted. -/
inductive Queue where
  | resolve
  | removeRendition
  | replicate
  | execute
  | revert
  | refresh
  | setUserData
  | step
  | question
  deriving DecidableEq, Repr

namespace Queue

/-- The queue that a call takes its turn from. -/
def ofCall : Call → Queue
  | .resolve _ => resolve
  | .removeRendition _ _ => removeRendition
  | .replicate _ _ _ => replicate
  | .execute _ _ _ _ => execute
  | .revert => revert
  | .refresh => refresh
  | .setUserData _ => setUserData
  | .hostStep _ _ => step
  | .hostQuestion _ _ _ => question

end Queue

/-- A timer that cancels a token. -/
structure Timer where
  due : Nat
  token : Token
  deriving DecidableEq, Repr

/-- A scripted repository. -/
structure World where
  clock : Nat := 0
  timers : List Timer := []
  cancelled : List Token := []
  queues : List (Queue × List Turn) := []
  working : List Stored := []
  committed : List Stored := []
  userData : Option String := none

namespace World

/-- Cancels a token. -/
def cancel (world : World) (token : Token) : World :=
  { world with cancelled := token :: world.cancelled }

/-- Moves the clock to a later time. Timers that it passes cancel their tokens. -/
def advanceTo (world : World) (time : Nat) : World :=
  if time ≤ world.clock then world
  else
    let (due, later) := world.timers.partition fun timer => timer.due ≤ time
    { world with
      clock := time
      timers := later
      cancelled := due.map Timer.token ++ world.cancelled }

/-- Waits for a delay. -/
def sleep (delay : Nat) (world : World) : World :=
  world.advanceTo (world.clock + delay)

/-- Waits for a delay. The wait ends at once if the token is cancelled already, and
early if a timer cancels it in between. -/
def sleepUnless (token : Token) (delay : Nat) (world : World) : Bool × World :=
  if world.cancelled.contains token then (false, world)
  else
    let deadline := world.clock + delay
    let early :=
      world.timers.filter fun timer => timer.token == token && timer.due ≤ deadline
    match early.map Timer.due with
    | [] => (true, world.advanceTo deadline)
    | due :: dues => (false, world.advanceTo (max world.clock (dues.foldl min due)))

/-- The next turn of a queue, taken from it. -/
def takeTurn (world : World) (queue : Queue) : Turn × World :=
  match world.queues.lookup queue with
  | some (turn :: turns) =>
    (turn, { world with
      queues := world.queues.map fun entry =>
        if entry.1 = queue then (queue, turns) else entry })
  | _ => ({}, world)

/-- Replaces the turns of a queue. -/
def script (world : World) (queue : Queue) (turns : List Turn) : World :=
  { world with
    queues := (queue, turns) :: world.queues.filter fun entry => entry.1 ≠ queue }

/-- The first working asset at a place. -/
def assetAt? (world : World) (place : String) : Option Asset :=
  (world.working.find? fun stored => stored.place == place).map Stored.asset

/-- An asset without the renditions of a name. -/
def withoutRendition (name : String) (asset : Asset) : Asset :=
  { asset with
    renditions := asset.renditions.filter fun rendition => rendition.name != name }

/-- The world without the renditions of a name in the working assets with a path, if
there are any. -/
def removeRendition (world : World) (path name : String) :
    Except ActionError Unit × World :=
  if world.working.any fun stored => stored.asset.path == path then
    (.ok (), { world with
      working := world.working.map fun stored =>
        if stored.asset.path == path then
          { stored with asset := withoutRendition name stored.asset }
        else stored })
  else (.error (.assetNotFound path), world)

/-- What a call does if nothing else is scripted but an answer. -/
def perform (turn : Turn) :
    (call : Call) → World → Except ActionError call.Answer × World
  | .resolve path, world => (.ok (turn.asset.getD (world.assetAt? path)), world)
  | .removeRendition path name, world => world.removeRendition path name
  | .replicate _ _ _, world => (.ok (), world)
  | .execute _ _ _ _, world => (.ok (), world)
  | .revert, world => (.ok (), { world with working := world.committed })
  | .refresh, world => (.ok (), world)
  | .setUserData marker, world => (.ok (), { world with userData := some marker })
  | .hostStep _ _, world => (.ok (), world)
  | .hostQuestion _ _ usual, world => (.ok (turn.verdict.getD usual), world)

/-- Whether a kind of call can wait. Marking a session takes no time. -/
def canWait : Queue → Bool
  | .setUserData => false
  | _ => true

/-- What a turn does before there is an answer: it waits if calls of its kind can, and
then it cancels its token. -/
def turnTo (turn : Turn) (queue : Queue) (world : World) : World :=
  let world :=
    if canWait queue then world.advanceTo (world.clock + turn.wait) else world
  match turn.cancel with
  | some token => world.cancel token
  | none => world

/-- Answers a call as the script says. -/
def answer (call : Call) (world : World) : Except ActionError call.Answer × World :=
  let queue := Queue.ofCall call
  let (turn, world) := world.takeTurn queue
  let world := world.turnTo turn queue
  match turn.error with
  | some error => (.error error, world)
  | none => perform turn call world

/-- The world as a repository. -/
def repository : Repository World where
  answer := answer
  sleep delay world := world.sleep delay.toNat
  sleepUnless token delay world := world.sleepUnless token delay.toNat

section Cancelled

variable {world : World} {token : Token}

theorem mem_cancelled_advanceTo (time : Nat) (h : token ∈ world.cancelled) :
    token ∈ (world.advanceTo time).cancelled := by
  unfold advanceTo
  by_cases hpassed : time ≤ world.clock
  · rw [if_pos hpassed]
    exact h
  · rw [if_neg hpassed]
    exact List.mem_append_right _ h

/-- If no timer cancels a token by some time, it is not cancelled when the clock is
moved there. -/
theorem not_mem_cancelled_advanceTo {time : Nat} (h : token ∉ world.cancelled)
    (htimers : ∀ timer ∈ world.timers, timer.due ≤ time → timer.token ≠ token) :
    token ∉ (world.advanceTo time).cancelled := by
  unfold advanceTo
  by_cases hpassed : time ≤ world.clock
  · rw [if_pos hpassed]
    exact h
  · rw [if_neg hpassed, List.partition_eq_filter_filter]
    show token ∉ (world.timers.filter _).map Timer.token ++ world.cancelled
    rw [List.mem_append, List.mem_map]
    rintro (⟨timer, htimer, rfl⟩ | hcancelled)
    · obtain ⟨hmem, hdue⟩ := List.mem_filter.1 htimer
      exact htimers timer hmem (of_decide_eq_true hdue) rfl
    · exact h hcancelled

theorem mem_cancelled_perform (turn : Turn) (call : Call)
    (h : token ∈ world.cancelled) :
    token ∈ (perform turn call world).2.cancelled := by
  cases call with
  | removeRendition path name =>
    show token ∈ (world.removeRendition path name).2.cancelled
    unfold removeRendition
    split
    · exact h
    · exact h
  | _ => exact h

theorem mem_cancelled_takeTurn (queue : Queue) (h : token ∈ world.cancelled) :
    token ∈ (world.takeTurn queue).2.cancelled := by
  unfold takeTurn
  split
  · exact h
  · exact h

theorem mem_cancelled_turnTo (turn : Turn) (queue : Queue)
    (h : token ∈ world.cancelled) :
    token ∈ (world.turnTo turn queue).cancelled := by
  have hwaited : token ∈ (if canWait queue then
      world.advanceTo (world.clock + turn.wait) else world).cancelled := by
    split
    · exact mem_cancelled_advanceTo _ h
    · exact h
  unfold turnTo
  cases turn.cancel with
  | none => exact hwaited
  | some other => exact List.mem_cons_of_mem _ hwaited

theorem mem_cancelled_answer (call : Call) (h : token ∈ world.cancelled) :
    token ∈ (answer call world).2.cancelled := by
  have hturned := mem_cancelled_turnTo (world.takeTurn (Queue.ofCall call)).1
    (Queue.ofCall call)
    (mem_cancelled_takeTurn (Queue.ofCall call) h)
  unfold answer
  dsimp only
  split
  · exact hturned
  · exact mem_cancelled_perform _ call hturned

/-- Tokens stay cancelled, and a wait is completed only if no timer cancels its token by
then. -/
theorem repository_cancels (token : Token) :
    repository.Cancels token fun world => token ∈ world.cancelled where
  answer call _ := mem_cancelled_answer call
  sleep _ _ := mem_cancelled_advanceTo _
  sleepUnless other delay world h := by
    show token ∈ (world.sleepUnless other delay.toNat).2.cancelled
    unfold sleepUnless
    split
    · exact h
    · dsimp only
      split
      · exact mem_cancelled_advanceTo _ h
      · exact mem_cancelled_advanceTo _ h
  waits delay world := by
    show token ∈ (world.sleepUnless token delay.toNat).2.cancelled →
      (world.sleepUnless token delay.toNat).1 = false
    unfold sleepUnless
    split
    · exact fun _ => rfl
    · rename_i hcancelled
      dsimp only
      split
      · rename_i hnone
        intro hmem
        refine absurd hmem (not_mem_cancelled_advanceTo ?_ ?_)
        · exact fun hmem => hcancelled (List.contains_iff_mem.2 hmem)
        · rintro timer htimer hdue rfl
          rw [List.map_eq_nil_iff, List.filter_eq_nil_iff] at hnone
          exact hnone timer htimer (by simp [hdue])
      · exact fun _ => rfl

end Cancelled

/-- Saves the working assets. -/
def commit (world : World) : World :=
  { world with committed := world.working }

/-- Stores an asset in place of the one that was found there, and makes the committed
assets the working ones. -/
def put (world : World) (stored : Stored) : World :=
  let assets :=
    (world.committed.filter fun other => other.place != stored.place) ++ [stored]
  { world with working := assets, committed := assets }

end World

end ContentBatch.Rehearsal
