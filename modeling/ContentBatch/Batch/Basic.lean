import ContentBatch.Journal.Basic

/-!
# Jobs

A `Batch` is what actions work on: the state of the repository, how often each rotation
was drawn from, and the journal. A `Job` is a step of it that may fail; whatever it did
to the batch before it failed stays done.

The few steps from which everything else is built are given here, each with the batch
that it leaves: `ask` calls the repository, `emit` reports an event, `within` opens a
span, `thenNote` writes down how some steps came out, `draw` takes the next turn of a
rotation. `forPaths` is how a host goes through its items, and `settled` what it does
around each of them.
-/

namespace ContentBatch

/-- What actions work on. -/
structure Batch (σ : Type) where
  store : σ
  turns : List Nat := []
  journal : Journal := #[]

/-- A step that works on a batch and may fail. -/
def Job (σ α : Type) : Type :=
  Batch σ → Except ActionError α × Batch σ

namespace Job

variable {σ α β : Type}

/-- Does nothing and succeeds. -/
def succeed (value : α) : Job σ α :=
  fun batch => (.ok value, batch)

/-- Does nothing and fails. -/
def fail (error : ActionError) : Job σ α :=
  fun batch => (.error error, batch)

/-- A step and, if it succeeds, the next one. -/
def andThen (first : Job σ α) (next : α → Job σ β) : Job σ β :=
  fun batch =>
    match first batch with
    | (.ok value, batch) => next value batch
    | (.error error, batch) => (.error error, batch)

instance : Monad (Job σ) where
  pure := succeed
  bind := andThen

theorem pure_apply (value : α) (batch : Batch σ) :
    (pure value : Job σ α) batch = (.ok value, batch) := rfl

theorem bind_apply (first : Job σ α) (next : α → Job σ β) (batch : Batch σ) :
    (first >>= next) batch =
      match first batch with
      | (.ok value, batch) => next value batch
      | (.error error, batch) => (.error error, batch) := rfl

/-- A step and the next one succeed if both do. -/
theorem bind_eq_ok {first : Job σ α} {next : α → Job σ β} {batch final : Batch σ}
    {result : β} (h : (first >>= next) batch = (.ok result, final)) :
    ∃ value middle, first batch = (.ok value, middle) ∧
      next value middle = (.ok result, final) := by
  rw [bind_apply] at h
  rcases hfirst : first batch with ⟨error | value, middle⟩
  case error =>
    rw [hfirst] at h
    cases h
  case ok =>
    rw [hfirst] at h
    exact ⟨value, middle, rfl, h⟩

/-- A result that needs no batch. -/
def ofExcept : Except ActionError α → Job σ α
  | .ok value => succeed value
  | .error error => fail error

/-- Writes a line into the journal. -/
def note (entry : Entry) : Job σ Unit :=
  fun batch => (.ok (), { batch with journal := batch.journal.push entry })

/-- The error of a failure, if it is one. -/
def failure? : Except ActionError α → Option ActionError
  | .ok _ => none
  | .error error => some error

theorem eq_ok_of_failure? {result : Except ActionError Unit}
    (h : failure? result = none) :
    result = .ok () := by
  cases result with
  | ok value => rfl
  | error error => cases h

/-- Calls the repository. -/
def ask (repository : Repository σ) (call : Call) : Job σ call.Answer :=
  fun batch =>
    match repository.answer call batch.store with
    | (answer, store) =>
      (answer, { batch with
        store, journal := batch.journal.push (.call call (failure? answer)) })

/-- Reports an event. -/
def emit (scope : Scope) (event : Event) : Job σ Unit :=
  note (.event event scope)

/-- Opens a span for some steps. -/
def within (scope : Scope) (span : Span) (steps : Scope → Job σ α) : Job σ α := do
  note (.span span scope)
  steps (some span)

/-- Does some steps and writes their outcome into the journal, also if they fail. -/
def thenNote (steps : Job σ α) (entry : Except ActionError α → Entry) : Job σ α :=
  fun batch =>
    match steps batch with
    | (result, batch) =>
      (result, { batch with journal := batch.journal.push (entry result) })

/-- Runs a job, whether it succeeds or fails, and then lets the host settle what is in
the store. -/
def settled (settle : Except ActionError α → σ → σ) (job : Job σ α) :
    Job σ (Except ActionError α) :=
  fun batch =>
    match job batch with
    | (result, batch) => (.ok result, { batch with store := settle result batch.store })

/-- Does something for each of several paths. -/
def forPaths (perform : String → Job σ α) : List String → Job σ (List α)
  | [] => succeed []
  | path :: paths =>
    andThen (perform path) fun result =>
      andThen (forPaths perform paths) fun results => succeed (result :: results)

/-- How often a rotation was drawn from. -/
def turnOf (turns : List Nat) (rotation : Nat) : Nat :=
  turns.getD rotation 0

/-- The counts of all rotations after one more draw from one of them. -/
def countTurn : List Nat → Nat → List Nat
  | [], 0 => [1]
  | [], rotation + 1 => 0 :: countTurn [] rotation
  | turn :: turns, 0 => (turn + 1) :: turns
  | turn :: turns, rotation + 1 => turn :: countTurn turns rotation

theorem turnOf_countTurn (turns : List Nat) (rotation other : Nat) :
    turnOf (countTurn turns rotation) other =
      turnOf turns other + if other = rotation then 1 else 0 := by
  fun_induction countTurn turns rotation generalizing other with
  | case1 => cases other <;> simp [turnOf]
  | case2 rotation ih =>
    cases other with
    | zero => simp [turnOf]
    | succ other => simpa [turnOf] using ih other
  | case3 turn turns => cases other <;> simp [turnOf]
  | case4 turn turns rotation ih =>
    cases other with
    | zero => simp [turnOf]
    | succ other => simpa [turnOf] using ih other

/-- The number of a rotation that was not drawn from yet. -/
def newRotation : Job σ Nat :=
  fun batch => (.ok batch.turns.length, { batch with turns := batch.turns ++ [0] })

/-- The next turn of a rotation. -/
def draw (rotation : Nat) : Job σ Nat :=
  fun batch =>
    (.ok (turnOf batch.turns rotation),
      { batch with turns := countTurn batch.turns rotation })

end Job

end ContentBatch
