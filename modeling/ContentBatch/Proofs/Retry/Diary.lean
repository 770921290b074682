import ContentBatch.Proofs.Retry.Levels

/-!
# The diary of a retry

The diary of a retry is what its own lines, those on level zero, say of invocations and
reports.  It is kept by a machine: `Follows` is the next mark, given the last one and
the number of invocations so far, and in a diary that is `Kept` every mark follows from
what stands before it.  A failed invocation can only be followed by its verdict, and a
verdict only by another invocation or by a wait that is given up.  So what a report has
to do with the marks around it is read off from a single step of the machine.

`At` is a state of the machine, with the marks that it has kept so far.  The attempts of
a course take it from one state to the next.

## Main results

* `Kept.snoc`: one step of the machine, and after it what the marks around a mark can
  be.
* `kept_diary`: the machine keeps the diary of every course.
* `Written.diary_eq`: the diary of a course, mark by mark.
* `Written.own`: on level zero there is nothing but what the retry does itself.
-/

namespace ContentBatch

/-- The error of the failed attempt that a report is made for.  A success after failures
and an interrupted wait are reported for themselves. -/
def Report.verdict? : Report → Option ActionError
  | .succeeded _ => none
  | .rollbackFailed _ error _ => some error
  | .exhausted _ error => some error
  | .notRetryable _ _ error => some error
  | .failed _ error => some error
  | .interrupted _ => none

/-! ## Diaries -/

namespace Retry

open Levels

/-- What a diary has of the journal: an invocation of the job and how it came out, or a
report. -/
inductive Mark where
  | invoked (failure : Option ActionError)
  | reported (report : Report)
  deriving DecidableEq, Repr

namespace Mark

/-- The mark of a line, if it has one. -/
def ofLine? : Entry → Option Mark
  | .attempted _ failure => some (.invoked failure)
  | .event (.retry _ report) _ => some (.reported report)
  | _ => none

/-- How an invocation came out. -/
def outcome? : Mark → Option (Option ActionError)
  | invoked failure => some failure
  | reported _ => none

/-- What is reported. -/
def report? : Mark → Option Report
  | invoked _ => none
  | reported report => some report

end Mark

/-- The diary of a retry: the marks of its own lines. -/
def diary (entries : List Entry) : List Mark :=
  (layer 0 entries).filterMap Mark.ofLine?

/-- The number of invocations that some marks tell of. -/
def invocationsIn (marks : List Mark) : Nat :=
  marks.countP fun mark => mark.outcome?.isSome

/-- What is reported in some marks. -/
def reportsIn (marks : List Mark) : List Report :=
  marks.filterMap Mark.report?

/-- The mark after `last`, with `count` invocations so far, in the diary of a retry with
this budget. -/
inductive Follows (budget : Nat) (count : Nat) : Option Mark → Mark → Prop where
  | first {failure : Option ActionError} :
      count = 0 → Follows budget count none (.invoked failure)
  | again {remaining : Nat} {error : ActionError} {failure : Option ActionError} :
      Follows budget count (some (.reported (.failed remaining error)))
        (.invoked failure)
  | succeeded :
      1 < count →
      Follows budget count (some (.invoked none)) (.reported (.succeeded count))
  | rollbackFailed {error rollback : ActionError} :
      Follows budget count (some (.invoked (some error)))
        (.reported (.rollbackFailed count error rollback))
  | exhausted {error : ActionError} :
      count = budget →
      Follows budget count (some (.invoked (some error)))
        (.reported (.exhausted count error))
  | notRetryable {name : String} {error : ActionError} :
      count < budget →
      Follows budget count (some (.invoked (some error)))
        (.reported (.notRetryable count name error))
  | failed {error : ActionError} :
      count < budget →
      Follows budget count (some (.invoked (some error)))
        (.reported (.failed (budget - count) error))
  | interrupted {remaining : Nat} {error : ActionError} :
      Follows budget count (some (.reported (.failed remaining error)))
        (.reported (.interrupted count))

/-- Every mark follows from those before it. -/
def Kept (budget : Nat) (marks : List Mark) : Prop :=
  ∀ past mark future, marks = past ++ mark :: future →
    Follows budget (invocationsIn past) past.getLast? mark

variable {budget : Nat} {marks past future : List Mark} {mark : Mark}

theorem invocationsIn_append (marks others : List Mark) :
    invocationsIn (marks ++ others) = invocationsIn marks + invocationsIn others :=
  List.countP_append

namespace Kept

theorem nil : Kept budget [] := by
  intro past mark future h
  cases past <;> cases h

/-- One step of the machine. -/
theorem snoc (h : Kept budget marks)
    (hmark : Follows budget (invocationsIn marks) marks.getLast? mark) :
    Kept budget (marks ++ [mark]) := by
  intro past other future hsplit
  -- `other` is the new mark, or it has stood among the others before
  rcases List.eq_nil_or_concat future with rfl | ⟨before, last, rfl⟩
  case inl =>
    obtain ⟨rfl, hmarks⟩ := List.append_inj' hsplit rfl
    obtain rfl : mark = other := List.singleton_inj.1 hmarks
    exact hmark
  case inr =>
    rw [List.concat_eq_append, ← List.cons_append, ← List.append_assoc] at hsplit
    exact h past other before (List.append_inj' hsplit rfl).1

theorem follows_of_adjacent {last next : Mark} (h : Kept budget marks)
    (hmarks : marks = past ++ last :: next :: future) :
    Follows budget (invocationsIn (past ++ [last])) (some last) next := by
  have hnext := h (past ++ [last]) next future (by rw [hmarks, List.append_assoc]; rfl)
  rwa [List.getLast?_concat] at hnext

/-- After a failed invocation comes its verdict, if anything comes. -/
theorem verdict_after_failure {error : ActionError} {next : Mark}
    (h : Kept budget marks)
    (hmarks : marks = past ++ .invoked (some error) :: next :: future) :
    ∃ report, next = .reported report ∧ report.verdict? = some error := by
  cases h.follows_of_adjacent hmarks with
  | rollbackFailed => exact ⟨_, rfl, rfl⟩
  | exhausted => exact ⟨_, rfl, rfl⟩
  | notRetryable => exact ⟨_, rfl, rfl⟩
  | failed => exact ⟨_, rfl, rfl⟩

/-- A verdict is given right after the invocation that failed. -/
theorem failure_before_verdict {report : Report} {error : ActionError}
    (h : Kept budget marks) (hmarks : marks = past ++ .reported report :: future)
    (hverdict : report.verdict? = some error) :
    past.getLast? = some (.invoked (some error)) := by
  have hreport := h past (.reported report) future hmarks
  generalize past.getLast? = last at hreport ⊢
  cases hreport with
  | succeeded => cases hverdict
  | interrupted => cases hverdict
  | _ => exact congrArg (fun failure => some (Mark.invoked failure)) hverdict

/-- Nothing comes after a report, except for the one after which another attempt is
allowed. -/
theorem failed_of_later {report : Report} {next : Mark} (h : Kept budget marks)
    (hmarks : marks = past ++ .reported report :: next :: future) :
    ∃ remaining error, report = .failed remaining error := by
  cases h.follows_of_adjacent hmarks with
  | again => exact ⟨_, _, rfl⟩
  | interrupted => exact ⟨_, _, rfl⟩

/-- An attempt is the first one, or comes right after the report that it is allowed. -/
theorem failed_before_invocation {failure : Option ActionError} (h : Kept budget marks)
    (hmarks : marks = past ++ .invoked failure :: future) :
    past = [] ∨ ∃ remaining error,
      past.getLast? = some (.reported (.failed remaining error)) := by
  have hinvoked := h past (.invoked failure) future hmarks
  rw [← List.getLast?_eq_none_iff]
  generalize past.getLast? = last at hinvoked ⊢
  cases hinvoked with
  | first => exact .inl rfl
  | again => exact .inr ⟨_, _, rfl⟩

/-- What is reported as the number of attempts is the number of invocations so far. -/
theorem attempts_eq {subject : String} {report : Report} {value : FieldValue}
    (h : Kept budget marks) (hmarks : marks = past ++ .reported report :: future)
    (hvalue : ("attempts", value) ∈ (Event.retry subject report).fields) :
    value = .number (invocationsIn past) := by
  have hreport := h past (.reported report) future hmarks
  generalize past.getLast? = last at hreport
  cases hreport <;> simp_all [Event.fields, Report.fields]

/-- What is reported to remain is what the invocations so far leave of the budget. -/
theorem remaining_eq {remaining : Nat} {error : ActionError} (h : Kept budget marks)
    (hmarks : marks = past ++ .reported (.failed remaining error) :: future) :
    invocationsIn past < budget ∧ remaining = budget - invocationsIn past := by
  have hreport := h past (.reported (.failed remaining error)) future hmarks
  generalize past.getLast? = last at hreport
  cases hreport with
  | failed hspare => exact ⟨hspare, rfl⟩

end Kept

/-! ## The diary of a course -/

/-- The marks of failed attempts that were followed by another one, the first of them
numbered `number`. -/
def told (budget number : Nat) : List ActionError → List Mark
  | [] => []
  | error :: errors =>
    [.invoked (some error), .reported (.failed (budget - number) error)] ++
      told budget (number + 1) errors

/-- What is reported after the last attempt, `number`. -/
def Ending.reports (retry : Retry) (number : Nat) : Ending → List Report
  | succeeded => if 1 < number then [.succeeded number] else []
  | revertFailed error rollback => [.rollbackFailed number error rollback]
  | refreshFailed error rollback => [.rollbackFailed number error rollback]
  | exhausted error => [.exhausted number error]
  | notRetryable error => [.notRetryable number retry.classifier.name error]
  | interrupted error =>
    [.failed (retry.policy.maxAttempts.toNat - number) error, .interrupted number]

/-- The marks of the last attempt, `number`. -/
def Ending.told (retry : Retry) (number : Nat) (ending : Ending) : List Mark :=
  .invoked (Job.failure? ending.attempted) ::
    (ending.reports retry number).map .reported

/-- The marks of a course in which attempts failed with `errors` and the one after them
came to `ending`. -/
def courseDiary (retry : Retry) (errors : List ActionError)
    (ending : Ending) : List Mark :=
  told retry.policy.maxAttempts.toNat 1 errors ++ ending.told retry (errors.length + 1)

/-- What the budget has to do with attempt `number` being the last one. -/
def Ending.Within (budget number : Nat) : Ending → Prop
  | exhausted _ => number = budget
  | notRetryable _ => number < budget
  | interrupted _ => number < budget
  | _ => True

theorem Surroundings.Ends.within {τ : Type} {surroundings : Surroundings τ}
    {delay : Millis} {number : Nat} {state final : τ} {ending : Ending}
    (hends : surroundings.Ends delay budget number state ending final) :
    ending.Within budget number := by
  cases hends with
  | exhausted _ _ _ hspent => exact hspent
  | notRetryable _ _ _ hspare _ => exact hspare
  | interrupted _ _ _ hspare _ _ => exact hspare
  | _ => trivial

variable {count number : Nat} {last : Option Mark} {error : ActionError}
  {errors : List ActionError} {ending : Ending}

/-- The machine has kept some marks; there are `count` invocations among them, and
`last` is the last of them. -/
structure At (budget count : Nat) (last : Option Mark) (marks : List Mark) : Prop where
  kept : Kept budget marks
  count_eq : invocationsIn marks = count
  last_eq : marks.getLast? = last

theorem at_nil : At budget 0 none [] :=
  ⟨.nil, rfl, rfl⟩

theorem At.invoke {failure : Option ActionError} (h : At budget count last marks)
    (hinvoked : Follows budget count last (.invoked failure)) :
    At budget (count + 1) (some (.invoked failure)) (marks ++ [.invoked failure]) := by
  obtain ⟨hkept, rfl, rfl⟩ := h
  exact ⟨hkept.snoc hinvoked, invocationsIn_append marks _, List.getLast?_concat⟩

theorem At.report {report : Report} (h : At budget count last marks)
    (hreport : Follows budget count last (.reported report)) :
    At budget count (some (.reported report)) (marks ++ [.reported report]) := by
  obtain ⟨hkept, rfl, rfl⟩ := h
  exact ⟨hkept.snoc hreport, invocationsIn_append marks _, List.getLast?_concat⟩

/-- Failed attempts, as many as leave the budget for another one. -/
theorem At.told (h : At budget count last marks)
    (hdue : ∀ failure, Follows budget count last (.invoked failure))
    (hlength : count + 1 + errors.length ≤ budget) :
    ∃ next,
      At budget (count + errors.length) next (marks ++ told budget (count + 1) errors) ∧
      ∀ failure, Follows budget (count + errors.length) next (.invoked failure) := by
  induction errors generalizing count last marks with
  | nil => exact ⟨last, by rwa [Retry.told, List.append_nil], hdue⟩
  | cons error errors ih =>
      -- the bound on the count is what lets the verdict allow another attempt
      rw [List.length_cons] at hlength
      have hfailed := (h.invoke (hdue (some error))).report (.failed (by omega))
      obtain ⟨next, hnext, hnextDue⟩ := ih hfailed (fun _ => .again) (by omega)
      rw [List.append_assoc, List.append_assoc] at hnext
      rw [List.length_cons, Nat.add_comm errors.length, ← Nat.add_assoc]
      exact ⟨next, hnext, hnextDue⟩

/-- The last attempt. -/
theorem At.final {retry : Retry}
    (h : At retry.policy.maxAttempts.toNat count last marks)
    (hdue : ∀ failure,
      Follows retry.policy.maxAttempts.toNat count last (.invoked failure))
    (hwithin : ending.Within retry.policy.maxAttempts.toNat (count + 1)) :
    Kept retry.policy.maxAttempts.toNat (marks ++ ending.told retry (count + 1)) := by
  have hinvoked := h.invoke (hdue (Job.failure? ending.attempted))
  rw [Ending.told, List.append_cons]
  cases ending with
  | succeeded =>
      by_cases hlater : 1 < count + 1
      · rw [Ending.reports, if_pos hlater]
        exact (hinvoked.report (.succeeded hlater)).kept
      · rw [Ending.reports, if_neg hlater, List.map_nil, List.append_nil]
        exact hinvoked.kept
  | revertFailed error rollback => exact (hinvoked.report .rollbackFailed).kept
  | refreshFailed error rollback => exact (hinvoked.report .rollbackFailed).kept
  | exhausted error => exact (hinvoked.report (.exhausted hwithin)).kept
  | notRetryable error => exact (hinvoked.report (.notRetryable hwithin)).kept
  | interrupted error =>
      have hfailed := hinvoked.report (.failed hwithin)
      have hinterrupted := (hfailed.report .interrupted).kept
      rw [List.append_assoc _ [_] [_]] at hinterrupted
      exact hinterrupted

/-- The machine keeps the diary of a course. -/
theorem kept_diary {retry : Retry}
    (hlength : errors.length + 1 ≤ retry.policy.maxAttempts.toNat)
    (hwithin : ending.Within retry.policy.maxAttempts.toNat (errors.length + 1)) :
    Kept retry.policy.maxAttempts.toNat (courseDiary retry errors ending) := by
  have hbegin : At retry.policy.maxAttempts.toNat 0 none [] := at_nil
  obtain ⟨last, hat, hdue⟩ :=
    hbegin.told (fun _ => .first rfl) (show 0 + 1 + errors.length ≤ _ by omega)
  rw [Nat.zero_add] at hat hdue
  exact hat.final hdue hwithin

/-! ## The diary in the journal -/

theorem diary_append {entries : List Entry} (h : Balanced entries)
    (others : List Entry) :
    diary (entries ++ others) = diary entries ++ diary others := by
  unfold diary
  rw [h.layer_append, List.filterMap_append]

theorem diary_attemptEntries {inner : List Entry} (h : Balanced inner) (number : Nat)
    (result : Except ActionError Unit) :
    diary (attemptEntries number result inner) = [.invoked (Job.failure? result)] := by
  unfold diary
  rw [layer_attemptEntries_zero h]
  rfl

theorem Ending.diary_closing (retry : Retry) (scope : Scope) (subject : String)
    (number : Nat) (ending : Ending) :
    diary (ending.closing retry scope subject number) =
      (ending.reports retry number).map .reported := by
  unfold diary
  rw [(ending.flat_closing retry scope subject number).layer_zero]
  cases ending with
  | succeeded =>
      by_cases hlater : 1 < number
      · rw [closing, reports, if_pos hlater, if_pos hlater]
        rfl
      · rw [closing, reports, if_neg hlater, if_neg hlater]
        rfl
  | _ => rfl

variable {retry : Retry} {scope : Scope} {subject : String} {entries : List Entry}
  {Good : Except ActionError Unit → List Entry → Prop}

theorem diary_roundEntries {inner : List Entry} (h : Balanced inner) :
    diary (retry.roundEntries scope subject number error inner) =
      [.invoked (some error),
        .reported (.failed (retry.policy.maxAttempts.toNat - number) error)] := by
  rw [roundEntries_eq, diary_append (balanced_attemptEntries h number _),
    diary_attemptEntries h]
  unfold diary
  rw [(retry.flat_betweenAttempts scope subject number error).layer_zero]
  rfl

/-- The diary of a course. -/
theorem Written.diary_eq
    (hwritten : Written retry scope subject Good number errors ending entries)
    (hgood : ∀ result inner, Good result inner → Balanced inner) :
    diary entries =
      told retry.policy.maxAttempts.toNat number errors ++
        ending.told retry (number + errors.length) := by
  induction hwritten with
  | @ends number ending inner hinner =>
      rw [Ending.entries,
        diary_append (balanced_attemptEntries (hgood _ _ hinner) number _),
        diary_attemptEntries (hgood _ _ hinner), Ending.diary_closing]
      rfl
  | @continues number error errors ending inner entries hinner _ ih =>
      rw [diary_append (balanced_roundEntries (hgood _ _ hinner) error),
        diary_roundEntries (hgood _ _ hinner), ih, told, List.append_assoc,
        List.length_cons, Nat.add_right_comm, Nat.add_assoc]

/-- A line of the retry itself, between its span and its result.  It makes no call but
to roll back, and what it reports is within `scope` and about `subject`. -/
def Own (scope : Scope) (subject : String) : Entry → Prop
  | .call call _ => call.rollsBack = true
  | .event event within => within = scope ∧ ∃ report, event = .retry subject report
  | .span _ _ => False
  | .retried _ => False
  | _ => True

theorem Ending.own_closing (retry : Retry) (scope : Scope) (subject : String)
    (number : Nat) (ending : Ending) :
    ∀ entry ∈ ending.closing retry scope subject number, Own scope subject entry := by
  cases ending with
  | succeeded =>
      by_cases hlater : 1 < number
      · simp [closing, hlater, Own, reportEntry]
      · simp [closing, hlater]
  | _ => simp [closing, Own, reportEntry, Call.rollsBack]

theorem own_betweenAttempts (retry : Retry) (scope : Scope) (subject : String)
    (number : Nat) (error : ActionError) :
    ∀ entry ∈ retry.betweenAttempts scope subject number error,
      Own scope subject entry := by
  simp [betweenAttempts, Own, reportEntry, Call.rollsBack]

theorem own_attemptEntries {inner : List Entry} (h : Balanced inner) (number : Nat)
    (result : Except ActionError Unit) :
    ∀ entry ∈ layer 0 (attemptEntries number result inner),
      Own scope subject entry := by
  rw [layer_attemptEntries_zero h]
  simp [Own]

/-- On level zero, there is nothing but what the retry does itself. -/
theorem Written.own
    (hwritten : Written retry scope subject Good number errors ending entries)
    (hgood : ∀ result inner, Good result inner → Balanced inner) :
    ∀ entry ∈ layer 0 entries, Own scope subject entry := by
  induction hwritten with
  | @ends number ending inner hinner =>
      have hattempt :=
        balanced_attemptEntries (hgood _ _ hinner) number ending.attempted
      rw [Ending.entries, hattempt.layer_append,
        (ending.flat_closing retry scope subject number).layer_zero]
      exact List.forall_mem_append.2
        ⟨own_attemptEntries (hgood _ _ hinner) number _,
          ending.own_closing retry scope subject number⟩
  | @continues number error errors ending inner entries hinner _ ih =>
      have hattempt := balanced_attemptEntries (hgood _ _ hinner) number (.error error)
      have hround : Balanced (retry.roundEntries scope subject number error inner) :=
        balanced_roundEntries (hgood _ _ hinner) error
      rw [hround.layer_append, roundEntries_eq, hattempt.layer_append,
        (retry.flat_betweenAttempts scope subject number error).layer_zero]
      have hattempts : ∀ entry ∈ layer 0 (attemptEntries number (.error error) inner) ++
          retry.betweenAttempts scope subject number error, Own scope subject entry :=
        List.forall_mem_append.2
          ⟨own_attemptEntries (hgood _ _ hinner) number _,
            own_betweenAttempts retry scope subject number error⟩
      exact List.forall_mem_append.2 ⟨hattempts, ih⟩

end Retry

end ContentBatch
