import ContentBatch.Journal.Basic

/-!
# The session protocol

What a journal may look like when nobody but retries rolls the session back.

The protocol is a machine that reads the journal.  It keeps the numbers of the attempts
that are being made, innermost first, and a `Phase`: whether the retry that was active
last has something left to do.  While it has, nothing else may happen: no call is made
and no other retry begins until it has rolled back and either begun its next attempt or
returned.

* `Step` is one entry, `Run` is a list of entries.
* `Lawful` says what a run means for the entries themselves, read forwards and backwards
  from any of them.

## Main results

* `run_append_iff`: runs compose.
* `Run.lawful`: every run between two states in which nothing is left to do is lawful.
-/

namespace ContentBatch

namespace Entry

/-- Whether an entry is a message: it tells what happens and does nothing. -/
def isMessage : Entry → Bool
  | .span _ _ => true
  | .event _ _ => true
  | _ => false

/-- Whether an entry is a move: a call, or the beginning or the end of an attempt or of
a retry. -/
def isMove : Entry → Bool
  | .call _ _ => true
  | .attempt _ => true
  | .attempted _ _ => true
  | .retried _ => true
  | _ => false

/-- Whether an entry is a call of `revert`. -/
def isRevert : Entry → Bool
  | .call .revert _ => true
  | _ => false

/-- Whether an entry is the end of an attempt that failed. -/
def isFailedAttempt : Entry → Bool
  | .attempted _ (some _) => true
  | _ => false

end Entry

namespace Protocol

/-! ## The machine -/

/-- What the retry that was active last has left to do. `clear` is nothing. -/
inductive Phase where
  | clear
  | succeeded
  | failed (number : Nat) (error : ActionError)
  | reverted (number : Nat) (error : ActionError)
  | rolledBack (number : Nat) (error : ActionError)
  | broken (rollback : ActionError)

/-- The attempts that are being made, innermost first, and the phase. -/
structure State where
  running : List Nat
  phase : Phase

/-- One entry of a journal that keeps to the protocol. -/
inductive Step : State → Entry → State → Prop where
  | message {state : State} {entry : Entry} :
      entry.isMessage = true → Step state entry state
  | call {running : List Nat} {call : Call} {failure : Option ActionError} :
      call.rollsBack = false →
      Step ⟨running, .clear⟩ (.call call failure) ⟨running, .clear⟩
  | begin {running : List Nat} :
      Step ⟨running, .clear⟩ (.attempt 1) ⟨1 :: running, .clear⟩
  | succeed {running : List Nat} {number : Nat} :
      Step ⟨number :: running, .clear⟩ (.attempted number none) ⟨running, .succeeded⟩
  | fail {running : List Nat} {number : Nat} {error : ActionError} :
      Step ⟨number :: running, .clear⟩ (.attempted number (some error))
        ⟨running, .failed number error⟩
  | revert {running : List Nat} {number : Nat} {error : ActionError} :
      Step ⟨running, .failed number error⟩ (.call .revert none)
        ⟨running, .reverted number error⟩
  | revertFails {running : List Nat} {number : Nat} {error rollback : ActionError} :
      Step ⟨running, .failed number error⟩ (.call .revert (some rollback))
        ⟨running, .broken rollback⟩
  | refresh {running : List Nat} {number : Nat} {error : ActionError} :
      Step ⟨running, .reverted number error⟩ (.call .refresh none)
        ⟨running, .rolledBack number error⟩
  | refreshFails {running : List Nat} {number : Nat} {error rollback : ActionError} :
      Step ⟨running, .reverted number error⟩ (.call .refresh (some rollback))
        ⟨running, .broken rollback⟩
  | decide {running : List Nat} {number : Nat} {error : ActionError}
      {classifier : Classifier} :
      Step ⟨running, .rolledBack number error⟩ (.decision classifier error number)
        ⟨running, .rolledBack number error⟩
  | wait {running : List Nat} {number : Nat} {error : ActionError} {delay : Millis}
      {token : Option Token} {completed : Bool} :
      Step ⟨running, .rolledBack number error⟩ (.pause delay token completed)
        ⟨running, .rolledBack number error⟩
  | again {running : List Nat} {number : Nat} {error : ActionError} :
      Step ⟨running, .rolledBack number error⟩ (.attempt (number + 1))
        ⟨(number + 1) :: running, .clear⟩
  | returnSuccess {running : List Nat} :
      Step ⟨running, .succeeded⟩ (.retried none) ⟨running, .clear⟩
  | returnError {running : List Nat} {number : Nat} {error reported : ActionError} :
      reported = error ∨ reported = .interrupted number →
      Step ⟨running, .rolledBack number error⟩ (.retried (some reported))
        ⟨running, .clear⟩
  | returnRollback {running : List Nat} {rollback : ActionError} :
      Step ⟨running, .broken rollback⟩ (.retried (some rollback)) ⟨running, .clear⟩

/-- A list of entries that keep to the protocol. -/
inductive Run : State → List Entry → State → Prop where
  | nil {state : State} : Run state [] state
  | cons {before middle after : State} {entry : Entry} {entries : List Entry} :
      Step before entry middle → Run middle entries after →
      Run before (entry :: entries) after

variable {before middle after : State} {entry : Entry}
  {entries others past future : List Entry} {running : List Nat}

theorem Run.single (hstep : Step before entry after) : Run before [entry] after :=
  .cons hstep .nil

theorem run_append_iff :
    Run before (entries ++ others) after ↔
      ∃ middle, Run before entries middle ∧ Run middle others after := by
  constructor
  · intro hrun
    induction entries generalizing before with
    | nil => exact ⟨before, .nil, hrun⟩
    | cons entry entries ih =>
        cases hrun with
        | cons hstep hrest =>
            obtain ⟨middle, hentries, hothers⟩ := ih hrest
            exact ⟨middle, .cons hstep hentries, hothers⟩
  · rintro ⟨middle, hentries, hothers⟩
    induction hentries with
    | nil => exact hothers
    | cons hstep _ ih => exact .cons hstep (ih hothers)

theorem Run.append (hentries : Run before entries middle)
    (hothers : Run middle others after) :
    Run before (entries ++ others) after :=
  run_append_iff.2 ⟨middle, hentries, hothers⟩

/-! ## Reading a run from the middle -/

/-- The moves that have led into a phase. -/
def Phase.Follows : Phase → List Entry → Prop
  | .clear, _ => True
  | .succeeded, past => ∃ number, [.attempted number none] <:+ past
  | .failed number error, past => [.attempted number (some error)] <:+ past
  | .reverted number error, past =>
    [.attempted number (some error), .call .revert none] <:+ past
  | .rolledBack number error, past =>
    [.attempted number (some error), .call .revert none, .call .refresh none] <:+ past
  | .broken rollback, past =>
    ∃ number error,
      [.attempted number (some error), .call .revert (some rollback)] <:+ past ∨
        [.attempted number (some error), .call .revert none,
          .call .refresh (some rollback)]
          <:+ past

/-- The moves that a phase calls for. -/
def Phase.Precedes : Phase → List Entry → Prop
  | .clear, _ => True
  | .succeeded, future => [.retried none] <+: future
  | .failed _ _, future =>
    (∃ rollback, [.call .revert (some rollback), .retried (some rollback)] <+: future) ∨
      ∃ failure, [.call .revert none, .call .refresh failure] <+: future
  | .reverted _ _, future => ∃ failure, [.call .refresh failure] <+: future
  | .rolledBack number _, future =>
    [.attempt (number + 1)] <+: future ∨ ∃ error, [.retried (some error)] <+: future
  | .broken rollback, future => [.retried (some rollback)] <+: future

/-- What is no move changes nothing. -/
theorem Step.eq_of_not_move (hstep : Step before entry after)
    (hmove : entry.isMove = false) :
    after = before := by
  cases hstep with
  | message _ => rfl
  | decide => rfl
  | wait => rfl
  | _ => exact absurd hmove (by simp [Entry.isMove])

/-- A run without the entries that are no moves is a run. -/
theorem Run.moves (hrun : Run before entries after) :
    Run before (entries.filter Entry.isMove) after := by
  induction hrun with
  | nil => exact .nil
  | @cons _ _ _ entry entries hstep _ ih =>
      by_cases hmove : entry.isMove = true
      · rw [List.filter_cons_of_pos hmove]
        exact .cons hstep ih
      · rw [List.filter_cons_of_neg hmove]
        obtain rfl := hstep.eq_of_not_move (Bool.eq_false_iff.2 hmove)
        exact ih

theorem Step.follows (hstep : Step before entry after) (hmove : entry.isMove = true)
    (hpast : before.phase.Follows past) : after.phase.Follows (past ++ [entry]) := by
  cases hstep with
  | message hmessage => cases entry <;> simp_all [Entry.isMessage, Entry.isMove]
  | succeed => exact ⟨_, past, rfl⟩
  | fail => exact ⟨past, rfl⟩
  | @revert _ number error =>
      obtain ⟨past, rfl⟩ := hpast
      exact ⟨past, by rw [List.append_assoc]; rfl⟩
  | @revertFails _ number error rollback =>
      obtain ⟨past, rfl⟩ := hpast
      exact ⟨number, error, .inl ⟨past, by rw [List.append_assoc]; rfl⟩⟩
  | @refresh _ number error =>
      obtain ⟨past, rfl⟩ := hpast
      exact ⟨past, by rw [List.append_assoc]; rfl⟩
  | @refreshFails _ number error rollback =>
      obtain ⟨past, rfl⟩ := hpast
      exact ⟨number, error, .inr ⟨past, by rw [List.append_assoc]; rfl⟩⟩
  | decide => exact absurd hmove (by simp [Entry.isMove])
  | wait => exact absurd hmove (by simp [Entry.isMove])
  | _ => trivial

theorem Run.follows (hrun : Run before entries after)
    (hmoves : ∀ entry ∈ entries, entry.isMove = true)
    (hpast : before.phase.Follows past) :
    after.phase.Follows (past ++ entries) := by
  induction hrun generalizing past with
  | nil =>
      rw [List.append_nil]
      exact hpast
  | @cons _ _ _ entry entries hstep _ ih =>
      rw [List.forall_mem_cons] at hmoves
      have hmiddle := ih hmoves.2 (hstep.follows hmoves.1 hpast)
      rw [List.append_assoc] at hmiddle
      exact hmiddle

theorem Step.precedes (hstep : Step before entry after) (hmove : entry.isMove = true)
    (hfuture : after.phase.Precedes future) : before.phase.Precedes (entry :: future) :=
  by
  cases hstep with
  | message hmessage => cases entry <;> simp_all [Entry.isMessage, Entry.isMove]
  | revert =>
      obtain ⟨failure, hrefresh⟩ := hfuture
      exact .inr ⟨failure, List.cons_prefix_cons.2 ⟨rfl, hrefresh⟩⟩
  | @revertFails _ _ _ rollback =>
    exact .inl ⟨rollback, List.cons_prefix_cons.2 ⟨rfl, hfuture⟩⟩
  | refresh => exact ⟨none, future, rfl⟩
  | @refreshFails _ _ _ rollback => exact ⟨some rollback, future, rfl⟩
  | decide => exact absurd hmove (by simp [Entry.isMove])
  | wait => exact absurd hmove (by simp [Entry.isMove])
  | again => exact .inl ⟨future, rfl⟩
  | returnSuccess => exact ⟨future, rfl⟩
  | @returnError _ _ _ reported _ => exact .inr ⟨reported, future, rfl⟩
  | returnRollback => exact ⟨future, rfl⟩
  | _ => trivial

theorem Run.precedes (hrun : Run before entries after)
    (hmoves : ∀ entry ∈ entries, entry.isMove = true) (hclear : after.phase = .clear) :
    before.phase.Precedes entries := by
  induction hrun with
  | nil =>
      rw [hclear]
      trivial
  | cons hstep _ ih =>
      rw [List.forall_mem_cons] at hmoves
      exact hstep.precedes hmoves.1 (ih hmoves.2 hclear)

/-! ## Counting -/

/-- The calls of `revert` that a phase still owes. -/
def Phase.owed : Phase → Nat
  | .failed _ _ => 1
  | _ => 0

theorem Step.owed (hstep : Step before entry after) :
    [entry].countP Entry.isRevert + after.phase.owed =
      [entry].countP Entry.isFailedAttempt + before.phase.owed := by
  cases hstep with
  | message hmessage =>
      cases entry <;> simp_all [Entry.isMessage, Entry.isRevert, Entry.isFailedAttempt]
  | @call _ call _ hcall =>
      cases call <;> simp_all [Call.rollsBack, Entry.isRevert, Entry.isFailedAttempt]
  | _ => rfl

theorem Run.owed (hrun : Run before entries after) :
    entries.countP Entry.isRevert + after.phase.owed =
      entries.countP Entry.isFailedAttempt + before.phase.owed := by
  induction hrun with
  | nil => rfl
  | @cons _ _ _ entry entries hstep _ ih =>
      have hfirst := hstep.owed
      rw [List.countP_cons, List.countP_cons]
      rw [List.countP_singleton, List.countP_singleton] at hfirst
      omega

/-! ## Lawful journals -/

/-- What the protocol means for the moves of a journal: what must stand before a
rollback, an attempt and the end of a retry, and what must stand after a failed attempt.
`<:+` reads "ends" and `<+:` reads "begins". -/
structure Lawful (moves : List Entry) : Prop where
  revert_after_failure : ∀ past failure future,
    moves = past ++ .call .revert failure :: future →
      ∃ number error, [.attempted number (some error)] <:+ past
  refresh_after_revert : ∀ past failure future,
    moves = past ++ .call .refresh failure :: future →
      ∃ number error, [.attempted number (some error), .call .revert none] <:+ past
  rollback_of_failure : ∀ past number error future,
    moves = past ++ .attempted number (some error) :: future →
      (∃ rollback,
        [.call .revert (some rollback), .retried (some rollback)] <+: future) ∨
        ∃ failure, [.call .revert none, .call .refresh failure] <+: future
  attempt_after_rollback : ∀ past number future,
    moves = past ++ .attempt number :: future →
      number = 1 ∨ ∃ previous error, number = previous + 1 ∧
        [.attempted previous (some error), .call .revert none,
          .call .refresh none] <:+ past
  error_after_rollback : ∀ past error future,
    moves = past ++ .retried (some error) :: future →
      ∃ number cause,
        (error = cause ∨ error = .interrupted number) ∧
            [.attempted number (some cause), .call .revert none,
              .call .refresh none] <:+ past ∨
          [.attempted number (some cause), .call .revert (some error)] <:+ past ∨
          [.attempted number (some cause), .call .revert none,
            .call .refresh (some error)] <:+ past
  reverts_eq_failures : moves.countP Entry.isRevert = moves.countP Entry.isFailedAttempt

/-- The machine before and after one move of a run. -/
theorem Run.at_move (hrun : Run before (past ++ entry :: future) after)
    (hmoves : ∀ move ∈ past ++ entry :: future, move.isMove = true)
    (hbegin : before.phase = .clear) (hend : after.phase = .clear) :
    ∃ current next, Step current entry next ∧ current.phase.Follows past ∧
      next.phase.Precedes future := by
  obtain ⟨current, hpast, hrest⟩ := run_append_iff.1 hrun
  rw [List.forall_mem_append, List.forall_mem_cons] at hmoves
  cases hrest with
  | @cons _ next _ _ _ hstep hfuture =>
      refine ⟨current, next, hstep, ?_, hfuture.precedes hmoves.2.2 hend⟩
      have hnothing : before.phase.Follows [] := by
        rw [hbegin]
        trivial
      exact hpast.follows hmoves.1 hnothing

/-- A run that begins and ends with nothing left to do is lawful. -/
theorem Run.lawful (hrun : Run before entries after) (hbegin : before.phase = .clear)
    (hend : after.phase = .clear) : Lawful (entries.filter Entry.isMove) := by
  have hmoved := hrun.moves
  have hmoves : ∀ entry ∈ entries.filter Entry.isMove, entry.isMove = true :=
    fun entry hentry => (List.mem_filter.1 hentry).2
  have hat {past future : List Entry} {entry : Entry}
      (heq : entries.filter Entry.isMove = past ++ entry :: future) :
      ∃ current next, Step current entry next ∧ current.phase.Follows past ∧
        next.phase.Precedes future := by
    rw [heq] at hmoved hmoves
    exact hmoved.at_move hmoves hbegin hend
  constructor
  case revert_after_failure =>
    intro past failure future heq
    obtain ⟨current, next, hstep, hpast, _⟩ := hat heq
    cases hstep with
    | message hmessage => cases hmessage
    | call hcall => cases hcall
    | revert => exact ⟨_, _, hpast⟩
    | revertFails => exact ⟨_, _, hpast⟩
  case refresh_after_revert =>
    intro past failure future heq
    obtain ⟨current, next, hstep, hpast, _⟩ := hat heq
    cases hstep with
    | message hmessage => cases hmessage
    | call hcall => cases hcall
    | refresh => exact ⟨_, _, hpast⟩
    | refreshFails => exact ⟨_, _, hpast⟩
  case rollback_of_failure =>
    intro past number error future heq
    obtain ⟨current, next, hstep, _, hfuture⟩ := hat heq
    cases hstep with
    | message hmessage => cases hmessage
    | fail => exact hfuture
  case attempt_after_rollback =>
    intro past number future heq
    obtain ⟨current, next, hstep, hpast, _⟩ := hat heq
    cases hstep with
    | message hmessage => cases hmessage
    | begin => exact .inl rfl
    | again => exact .inr ⟨_, _, rfl, hpast⟩
  case error_after_rollback =>
    intro past error future heq
    obtain ⟨current, next, hstep, hpast, _⟩ := hat heq
    cases hstep with
    | message hmessage => cases hmessage
    | returnError hreported => exact ⟨_, _, .inl ⟨hreported, hpast⟩⟩
    | returnRollback =>
        obtain ⟨number, cause, hbroken⟩ := hpast
        exact ⟨number, cause, .inr hbroken⟩
  case reverts_eq_failures =>
    have hcount := hmoved.owed
    rw [hbegin, hend] at hcount
    exact hcount

end Protocol

end ContentBatch
