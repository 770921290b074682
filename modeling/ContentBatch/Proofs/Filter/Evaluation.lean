import ContentBatch.Filter

/-!
# Filters as Boolean expressions

A filter is an expression over *leaves*: patterns, questions about the asset at the
path, and the closures of a host.  Its leaves are numbered from left to right.  When
values are given to them, an expression has a Boolean value, which knows nothing of an
order or of errors, and `reached` tells which leaves are needed to find it from left to
right: those of the second part of a conjunction only if the first part is true.
Holders are no part of an expression.

An evaluation asks exactly the leaves that are reached, one after another, until it has
the value or until a leaf has no answer.  Then the error of that leaf is the result, and
no leaf is asked after it.

* `Asks` says what it takes to ask one leaf: at most one call of the repository.
* `Consults` strings leaves together.
* `Evaluates` says which leaves are asked, and what follows from their answers.

## Main results

* `evaluates_from`: every evaluation is one of an expression.
* `expression_laws`: the same together with the laws of conjunction, negation and
  holders.
-/

namespace ContentBatch

theorem Journal.calls_push (journal : Journal) (entry : Entry) :
    calls (journal.push entry) = journal.calls ++ calls #[entry] := by
  unfold calls
  rw [Array.toList_push, List.filterMap_append]

namespace Filter

variable {σ : Type}

/-! ## Expressions -/

/-- The leaves of an expression, from left to right. -/
def leaves : Filter σ → List (Filter σ)
  | negation filter => filter.leaves
  | andThen first second => first.leaves ++ second.leaves
  | held _ filter => filter.leaves
  | leaf => [leaf]

/-- The value of an expression whose leaves are numbered from `start` on and have the
values `truth`. -/
def value (truth : Nat → Bool) : Filter σ → Nat → Bool
  | negation filter, start => !filter.value truth start
  | andThen first second, start =>
    first.value truth start && second.value truth (start + first.leaves.length)
  | held _ filter, start => filter.value truth start
  | _, start => truth start

/-- The numbers of the leaves that an evaluation from left to right needs. -/
def reached (truth : Nat → Bool) : Filter σ → Nat → List Nat
  | negation filter, start => filter.reached truth start
  | andThen first second, start =>
    first.reached truth start ++
      if first.value truth start then second.reached truth (start + first.leaves.length)
      else []
  | held _ filter, start => filter.reached truth start
  | _, start => [start]

variable {filter first second : Filter σ} {truth other : Nat → Bool} {start leaf : Nat}

/-- The value depends only on the leaves that are reached. -/
theorem value_congr (h : ∀ leaf ∈ filter.reached truth start, truth leaf = other leaf) :
    filter.value truth start = filter.value other start := by
  induction filter generalizing start with
  | negation filter ih => exact congrArg (!·) (ih h)
  | andThen first second ihfirst ihsecond =>
      rw [reached, List.forall_mem_append] at h
      have hfirst := ihfirst h.1
      rw [value, value, ← hfirst]
      by_cases hvalue : first.value truth start = true
      · rw [if_pos hvalue] at h
        rw [ihsecond h.2]
      · rw [Bool.eq_false_iff.2 hvalue, Bool.false_and, Bool.false_and]
  | held holder filter ih => exact ih h
  | _ => exact h start (List.mem_singleton_self start)

/-- Which leaves are reached depends only on those themselves. -/
theorem reached_congr
    (h : ∀ leaf ∈ filter.reached truth start, truth leaf = other leaf) :
    filter.reached truth start = filter.reached other start := by
  induction filter generalizing start with
  | negation filter ih => exact ih h
  | andThen first second ihfirst ihsecond =>
      rw [reached, List.forall_mem_append] at h
      rw [reached, reached, ← ihfirst h.1, ← value_congr h.1]
      by_cases hvalue : first.value truth start = true
      · rw [if_pos hvalue] at h
        rw [if_pos hvalue, if_pos hvalue, ihsecond h.2]
      · rw [if_neg hvalue, if_neg hvalue]
  | held holder filter ih => exact ih h
  | _ => rfl

theorem mem_reached (h : leaf ∈ filter.reached truth start) :
    start ≤ leaf ∧ leaf < start + filter.leaves.length := by
  induction filter generalizing start with
  | negation filter ih => exact ih h
  | andThen first second ihfirst ihsecond =>
      rw [leaves, List.length_append]
      rcases List.mem_append.1 h with hfirst | hsecond
      · have hbounds := ihfirst hfirst
        omega
      · by_cases hvalue : first.value truth start = true
        · rw [if_pos hvalue] at hsecond
          have hbounds := ihsecond hsecond
          omega
        · rw [if_neg hvalue] at hsecond
          cases hsecond
  | held holder filter ih => exact ih h
  | _ =>
      obtain rfl := List.mem_singleton.1 h
      exact ⟨Nat.le_refl leaf, Nat.lt_succ_self leaf⟩

/-- Leaves are reached from left to right, and none twice. -/
theorem reached_sorted (filter : Filter σ) (truth : Nat → Bool) (start : Nat) :
    (filter.reached truth start).Pairwise (· < ·) := by
  induction filter generalizing start with
  | negation filter ih => exact ih start
  | andThen first second ihfirst ihsecond =>
      rw [reached]
      by_cases hvalue : first.value truth start = true
      · rw [if_pos hvalue]
        refine List.pairwise_append.2 ⟨ihfirst start, ihsecond _, ?_⟩
        intro left hleft right hright
        have hbelow := (mem_reached hleft).2
        have habove := (mem_reached hright).1
        omega
      · rw [if_neg hvalue, List.append_nil]
        exact ihfirst start
  | held holder filter ih => exact ih start
  | _ => exact List.pairwise_singleton _ _

/-! ## Asking leaves -/

/-- A leaf that was asked, by its number, and what it said. -/
structure Consultation where
  leaf : Nat
  answer : Except ActionError Bool

/-- One call was made, which asked for the asset at a path, and no turn was taken. -/
structure Resolves (repository : Repository σ) (path : String) (before : Batch σ)
    (found : Except ActionError (Option Asset)) (after : Batch σ) : Prop where
  store : repository.answer (.resolve path) before.store = (found, after.store)
  turns : after.turns = before.turns
  calls : after.journal.calls =
      before.journal.calls ++ [(.resolve path, Job.failure? found)]

/-- A leaf is asked.  Patterns answer by themselves, questions about the asset are
answered from one call and have no answer if it fails. -/
inductive Asks (repository : Repository σ) (path : String) :
    Filter σ → Batch σ → Except ActionError Bool → Batch σ → Prop where
  | pathMatches {pattern : PathPattern} {batch : Batch σ} :
      Asks repository path (pathMatches pattern) batch
        (.ok (pattern.isMatch path)) batch
  | isAsset {before after : Batch σ} {found : Except ActionError (Option Asset)} :
      Resolves repository path before found after →
      Asks repository path isAsset before (found.map Option.isSome) after
  | hasOutdatedRenditions {before after : Batch σ}
      {found : Except ActionError (Option Asset)} :
      Resolves repository path before found after →
      Asks repository path hasOutdatedRenditions before
        (found.map fun asset => asset.any fun asset =>
          (Freshness.assess asset).needsRegeneration)
        after
  | custom {name : String} {accepts : String → Job σ Bool} {before after : Batch σ}
      {answer : Except ActionError Bool} :
      accepts path before = (answer, after) →
      Asks repository path (custom name accepts) before answer after

/-- Some of the leaves are asked, one after another. -/
inductive Consults (repository : Repository σ) (path : String)
    (leaves : List (Filter σ)) :
    Batch σ → List Consultation → Batch σ → Prop where
  | nil {batch : Batch σ} : Consults repository path leaves batch [] batch
  | cons {before middle after : Batch σ} {number : Nat} {leaf : Filter σ}
      {answer : Except ActionError Bool} {consulted : List Consultation} :
      leaves[number]? = some leaf →
      Asks repository path leaf before answer middle →
      Consults repository path leaves middle consulted after →
      Consults repository path leaves before (⟨number, answer⟩ :: consulted) after

/-- A leaf that said what its value is. -/
def answered (truth : Nat → Bool) (leaf : Nat) : Consultation :=
  ⟨leaf, .ok (truth leaf)⟩

/-- What an evaluation of an expression asks, and how it comes out.  With a result, the
leaves that are reached were asked, and the result is the value of the expression,
whatever the other leaves would have said.  With an error, the leaves were asked up to
one that is reached and has no answer, and the error is what this leaf said. -/
def Evaluates (filter : Filter σ) (start : Nat) (consulted : List Consultation) :
    Except ActionError Bool → Prop
  | .ok accepted =>
    ∃ truth, consulted = (filter.reached truth start).map (answered truth) ∧
      ∀ other, (∀ leaf ∈ filter.reached truth start, truth leaf = other leaf) →
        filter.value other start = accepted
  | .error error =>
    ∃ truth past leaf, past ++ [leaf] <+: filter.reached truth start ∧
      consulted = past.map (answered truth) ++ [⟨leaf, .error error⟩]

variable {repository : Repository σ} {scope : Scope} {path : String}
  {all rest : List (Filter σ)} {before middle after : Batch σ}
  {consulted others : List Consultation} {result : Except ActionError Bool}
  {accepted : Bool} {error : ActionError}

theorem calls_note (entry : Entry) (hentry : Journal.calls #[entry] = [])
    (batch : Batch σ) :
    (Job.note entry batch).2.journal.calls = batch.journal.calls := by
  show Journal.calls (batch.journal.push entry) = _
  rw [Journal.calls_push, hentry, List.append_nil]

/-- A note after the call makes no difference. -/
theorem Resolves.note {found : Except ActionError (Option Asset)}
    (h : Resolves repository path before found after) (entry : Entry)
    (hentry : Journal.calls #[entry] = []) :
    Resolves repository path before found (Job.note entry after).2 where
  store := h.store
  turns := h.turns
  calls := by rw [calls_note entry hentry, h.calls]

/-- The call after a note. -/
theorem resolves_ask (repository : Repository σ) (path : String) (entry : Entry)
    (hentry : Journal.calls #[entry] = []) (batch : Batch σ) :
    Resolves repository path batch
      (Job.ask repository (.resolve path) (Job.note entry batch).2).1
      (Job.ask repository (.resolve path) (Job.note entry batch).2).2 where
  store := rfl
  turns := rfl
  calls := by
    show Journal.calls ((Job.note entry batch).2.journal.push _) = _
    rw [Journal.calls_push, calls_note entry hentry]
    rfl

theorem Consults.append (hfirst : Consults repository path all before consulted middle)
    (hrest : Consults repository path all middle others after) :
    Consults repository path all before (consulted ++ others) after := by
  induction hfirst with
  | nil => exact hrest
  | cons hleaf hasks _ ih => exact .cons hleaf hasks (ih hrest)

theorem Consults.single {answer : Except ActionError Bool} {asked : Filter σ}
    (hleaves : all.drop start = asked :: rest)
    (hasks : Asks repository path asked before answer after) :
    Consults repository path all before [⟨start, answer⟩] after := by
  refine .cons ?_ hasks .nil
  rw [← List.head?_drop, hleaves, List.head?_cons]

/-- What the consultations say is true of every assignment of values that agrees with
them on the leaves that are reached. -/
theorem map_answered_congr {numbers : List Nat}
    (h : ∀ leaf ∈ numbers, truth leaf = other leaf) :
    numbers.map (answered truth) = numbers.map (answered other) :=
  List.map_congr_left fun leaf hleaf => by rw [answered, answered, h leaf hleaf]

/-! ## Evaluations of the parts and of the whole -/

theorem Evaluates.decided (filter : Filter σ) (truth : Nat → Bool) (start : Nat) :
    filter.Evaluates start ((filter.reached truth start).map (answered truth))
      (.ok (filter.value truth start)) :=
  ⟨truth, rfl, fun _ h => (value_congr h).symm⟩

/-- The values that an evaluation with a result has found. -/
theorem Evaluates.exists_truth (h : filter.Evaluates start consulted (.ok accepted)) :
    ∃ truth, consulted = (filter.reached truth start).map (answered truth) ∧
      filter.value truth start = accepted := by
  obtain ⟨truth, hconsulted, hvalue⟩ := h
  exact ⟨truth, hconsulted, hvalue truth fun _ _ => rfl⟩

/-- A leaf is an expression of its own. -/
theorem Evaluates.single (hvalue : ∀ truth, filter.value truth start = truth start)
    (hreached : ∀ truth, filter.reached truth start = [start])
    (answer : Except ActionError Bool) :
    filter.Evaluates start [⟨start, answer⟩] answer := by
  cases answer with
  | ok accepted =>
      have hdecided := decided filter (fun _ => accepted) start
      rw [hvalue, hreached] at hdecided
      exact hdecided
  | error error =>
      refine ⟨fun _ => false, [], start, ?_, rfl⟩
      rw [hreached]
      exact List.prefix_refl _

/-- Behind a holder stands the same expression. -/
theorem Evaluates.held (holder : Holder) (h : filter.Evaluates start consulted result) :
    (held holder filter).Evaluates start consulted result := by
  cases result with
  | ok accepted => exact h
  | error error => exact h

/-- A negation asks what the negated expression asks, and keeps its error. -/
theorem Evaluates.negation (h : filter.Evaluates start consulted result) :
    (negation filter).Evaluates start consulted (result.map (!·)) := by
  cases result with
  | ok accepted =>
      obtain ⟨truth, rfl, rfl⟩ := h.exists_truth
      exact decided (.negation filter) truth start
  | error error => exact h

/-- If the first part is not true, the second one is not asked. -/
theorem Evaluates.andThen_left (second : Filter σ)
    (h : first.Evaluates start consulted result) (hresult : result ≠ .ok true) :
    (andThen first second).Evaluates start consulted result := by
  cases result with
  | ok accepted =>
      obtain ⟨truth, rfl, rfl⟩ := h.exists_truth
      have hvalue : first.value truth start = false :=
        Bool.eq_false_iff.2 fun htrue => hresult (congrArg Except.ok htrue)
      have hdecided := decided (andThen first second) truth start
      rw [reached, value, hvalue, if_neg Bool.false_ne_true,
        List.append_nil, Bool.false_and]
        at hdecided
      rw [hvalue]
      exact hdecided
  | error error =>
      obtain ⟨truth, past, leaf, hreached, hconsulted⟩ := h
      exact ⟨truth, past, leaf, hreached.trans (List.prefix_append _ _), hconsulted⟩

/-- The values of two neighbours, put together: those below `bound` from the left one,
the others from the right one. -/
def joined (bound : Nat) (left right : Nat → Bool) (leaf : Nat) : Bool :=
  if leaf < bound then left leaf else right leaf

/-- The conjunction of a true part and another one reaches what both reach, and has the
value of the other. -/
theorem andThen_joined {left : Nat → Bool} (hvalue : first.value left start = true)
    (second : Filter σ) (right : Nat → Bool) :
    let bound := start + first.leaves.length
    let both := joined bound left right
    (andThen first second).reached both start =
        first.reached left start ++ second.reached right bound ∧
      (andThen first second).value both start = second.value right bound ∧
      (∀ leaf ∈ first.reached left start, left leaf = both leaf) ∧
      ∀ leaf ∈ second.reached right bound, right leaf = both leaf := by
  intro bound both
  have hleft : ∀ leaf ∈ first.reached left start, left leaf = both leaf :=
    fun leaf hleaf => (if_pos (mem_reached hleaf).2).symm
  have hright : ∀ leaf ∈ second.reached right bound, right leaf = both leaf :=
    fun leaf hleaf => (if_neg (Nat.not_lt.2 (mem_reached hleaf).1)).symm
  refine ⟨?_, ?_, hleft, hright⟩
  · rw [reached, ← value_congr hleft,
      if_pos hvalue, ← reached_congr hleft, ← reached_congr hright]
  · rw [value, ← value_congr hleft, hvalue, Bool.true_and, ← value_congr hright]

/-- If the first part is true, the second one is asked after it and decides. -/
theorem Evaluates.andThen_right (hfirst : first.Evaluates start consulted (.ok true))
    (hsecond : second.Evaluates (start + first.leaves.length) others result) :
    (andThen first second).Evaluates start (consulted ++ others) result := by
  obtain ⟨left, rfl, htrue⟩ := hfirst.exists_truth
  let bound := start + first.leaves.length
  cases result with
  | ok accepted =>
      obtain ⟨right, rfl, rfl⟩ := hsecond.exists_truth
      obtain ⟨hreached, hvalue, hleft, hright⟩ := andThen_joined htrue second right
      have hdecided := decided (andThen first second) (joined bound left right) start
      rw [hreached, hvalue, List.map_append, ← map_answered_congr hleft,
        ← map_answered_congr hright] at hdecided
      exact hdecided
  | error error =>
      obtain ⟨right, past, leaf, hleaf, rfl⟩ := hsecond
      obtain ⟨hreached, _, hleft, hright⟩ := andThen_joined htrue second right
      refine ⟨joined bound left right, first.reached left start ++ past, leaf, ?_, ?_⟩
      · rw [hreached, List.append_assoc]
        exact (List.prefix_append_right_inj _).2 hleaf
      · rw [List.map_append, List.append_assoc, map_answered_congr hleft]
        have hpast : past.map (answered right) =
            past.map (answered (joined bound left right)) :=
          map_answered_congr fun number hnumber =>
            hright number (hleaf.subset (List.mem_append_left _ hnumber))
        rw [hpast]

theorem Evaluates.sorted (h : filter.Evaluates start consulted result) :
    (consulted.map Consultation.leaf).Pairwise (· < ·) := by
  cases result with
  | ok accepted =>
      obtain ⟨truth, rfl, _⟩ := h.exists_truth
      rw [List.map_map]
      show ((filter.reached truth start).map id).Pairwise (· < ·)
      rw [List.map_id]
      exact filter.reached_sorted truth start
  | error error =>
      obtain ⟨truth, past, leaf, hreached, rfl⟩ := h
      rw [List.map_append, List.map_map]
      show (past.map id ++ [leaf]).Pairwise (· < ·)
      rw [List.map_id]
      exact (filter.reached_sorted truth start).sublist hreached.sublist

/-! ## The evaluation of a filter -/

theorem accepts_negation (filter : Filter σ) (repository : Repository σ) (scope : Scope)
    (path : String) (batch : Batch σ) :
    (negation filter).accepts repository scope path batch =
      ((filter.accepts repository scope path batch).1.map (!·),
        (filter.accepts repository scope path batch).2) := by
  rw [accepts, Job.bind_apply]
  rcases filter.accepts repository scope path batch with ⟨_ | _, _⟩
  · rfl
  · rfl

/-- The second part of a conjunction is evaluated if and only if the first one is
true. -/
theorem accepts_andThen (first second : Filter σ) (repository : Repository σ)
    (scope : Scope) (path : String) (batch : Batch σ) :
    (andThen first second).accepts repository scope path batch =
      match first.accepts repository scope path batch with
      | (.ok true, batch) => second.accepts repository scope path batch
      | outcome => outcome := by
  rw [accepts, Job.bind_apply]
  rcases first.accepts repository scope path batch with ⟨_ | _ | _, _⟩
  · rfl
  · rfl
  · rfl

/-- Asking whether there is an asset takes one call. -/
theorem asks_isAsset (repository : Repository σ) (scope : Scope) (path : String)
    (batch : Batch σ) :
    Asks repository path isAsset batch
      ((isAsset : Filter σ).accepts repository scope path batch).1
      ((isAsset : Filter σ).accepts repository scope path batch).2 := by
  let opened :=
    (Job.note (.span (.onItem Operation.filterNonAssets path) scope) batch).2
  have haccepts : (isAsset : Filter σ).accepts repository scope path batch =
      (Job.ask repository (.resolve path) >>= fun asset => pure asset.isSome) opened :=
        rfl
  have hresolves := resolves_ask repository path
    (.span (.onItem Operation.filterNonAssets path) scope)
    rfl batch
  rw [haccepts, Job.bind_apply]
  rcases hasked : Job.ask repository (.resolve path) opened with ⟨error | asset, asked⟩
  case error =>
    rw [hasked] at hresolves
    exact .isAsset hresolves
  case ok =>
    rw [hasked] at hresolves
    exact .isAsset hresolves

/-- Asking whether there are outdated renditions takes one call. -/
theorem asks_hasOutdatedRenditions (repository : Repository σ) (scope : Scope)
    (path : String) (batch : Batch σ) :
    Asks repository path hasOutdatedRenditions batch
      ((hasOutdatedRenditions : Filter σ).accepts repository scope path batch).1
      ((hasOutdatedRenditions : Filter σ).accepts repository scope path batch).2 := by
  let span := Span.onItem Operation.filterOutdated path
  let opened := (Job.note (.span span scope) batch).2
  have haccepts :
      (hasOutdatedRenditions : Filter σ).accepts repository scope path batch =
      (freshnessAt repository (some span) path >>= fun freshness =>
        pure (freshness.any Freshness.needsRegeneration)) opened := rfl
  have hresolves := resolves_ask repository path (.span span scope) rfl batch
  rw [haccepts, Job.bind_apply, freshnessAt, Job.bind_apply]
  rcases hasked : Job.ask repository (.resolve path) opened with ⟨error | asset, asked⟩
  case error =>
    rw [hasked] at hresolves
    exact .hasOutdatedRenditions hresolves
  case ok =>
    rw [hasked] at hresolves
    have hassessed := hresolves.note
      (.event (.assessed path (asset.map Freshness.assess)) (some span))
      rfl
    have hasks := Asks.hasOutdatedRenditions hassessed
    cases asset with
    | none => exact hasks
    | some asset => exact hasks

/-- Every evaluation of a filter is one of an expression, also where the filter is only
a part of it. -/
theorem evaluates_from (repository : Repository σ) (scope : Scope) (path : String)
    (filter : Filter σ) (hleaves : all.drop start = filter.leaves ++ rest)
    (batch : Batch σ) :
    ∃ consulted,
      Consults repository path all batch consulted
        (filter.accepts repository scope path batch).2 ∧
        filter.Evaluates start consulted
          (filter.accepts repository scope path batch).1 := by
  induction filter generalizing start rest batch with
  | pathMatches pattern =>
      exact ⟨_, .single hleaves .pathMatches, .single (fun _ => rfl) (fun _ => rfl) _⟩
  | isAsset =>
      exact ⟨_, .single hleaves (asks_isAsset repository scope path batch),
        .single (fun _ => rfl) (fun _ => rfl) _⟩
  | hasOutdatedRenditions =>
      exact ⟨_,
        .single hleaves (asks_hasOutdatedRenditions repository scope path batch),
        .single (fun _ => rfl) (fun _ => rfl) _⟩
  | negation filter ih =>
      obtain ⟨consulted, hconsults, hevaluates⟩ := ih hleaves batch
      rw [accepts_negation]
      exact ⟨consulted, hconsults, hevaluates.negation⟩
  | andThen first second ihfirst ihsecond =>
      rw [leaves, List.append_assoc] at hleaves
      have hsecond : all.drop (start + first.leaves.length) =
          second.leaves ++ rest := by
        rw [← List.drop_drop, hleaves, List.drop_left]
      obtain ⟨consulted, hconsults, hevaluates⟩ := ihfirst hleaves batch
      rw [accepts_andThen]
      rcases houtcome : first.accepts repository scope path batch with
          ⟨error | _ | _, middle⟩
      case error =>
        rw [houtcome] at hconsults hevaluates
        exact ⟨consulted, hconsults,
          hevaluates.andThen_left second (by intro h; cases h)⟩
      case ok.false =>
        rw [houtcome] at hconsults hevaluates
        exact ⟨consulted, hconsults,
          hevaluates.andThen_left second (by intro h; cases h)⟩
      case ok.true =>
        rw [houtcome] at hconsults hevaluates
        obtain ⟨others, hothers, hresult⟩ := ihsecond hsecond middle
        exact ⟨consulted ++ others, hconsults.append hothers,
          hevaluates.andThen_right hresult⟩
  | held holder filter ih =>
      obtain ⟨consulted, hconsults, hevaluates⟩ := ih hleaves batch
      exact ⟨consulted, hconsults, hevaluates.held holder⟩
  | custom name accepts =>
      exact ⟨_, .single hleaves (.custom rfl), .single (fun _ => rfl) (fun _ => rfl) _⟩

/-! ## Laws -/

/-- Conjunction is associative. -/
theorem accepts_andThen_andThen (first second third : Filter σ)
    (repository : Repository σ) (scope : Scope) :
    (andThen (andThen first second) third).accepts repository scope =
      (andThen first (andThen second third)).accepts repository scope := by
  funext path batch
  simp only [accepts_andThen]
  rcases first.accepts repository scope path batch with ⟨_ | _ | _, _⟩
  · rfl
  · rfl
  · rfl

/-- A negation of a negation is the expression itself. -/
theorem accepts_negation_negation (filter : Filter σ) (repository : Repository σ)
    (scope : Scope) :
    (negation (negation filter)).accepts repository scope =
      filter.accepts repository scope := by
  funext path batch
  simp only [accepts_negation]
  rcases filter.accepts repository scope path batch with ⟨_ | _ | _, _⟩
  · rfl
  · rfl
  · rfl

/-- A filter without the holders in it. -/
def bare : Filter σ → Filter σ
  | negation filter => negation filter.bare
  | andThen first second => andThen first.bare second.bare
  | held _ filter => filter.bare
  | leaf => leaf

/-- Holders make no difference, wherever they stand. -/
theorem accepts_bare (filter : Filter σ) (repository : Repository σ) (scope : Scope) :
    filter.bare.accepts repository scope = filter.accepts repository scope := by
  induction filter with
  | negation filter ih =>
      funext path batch
      rw [bare, accepts_negation, accepts_negation, ih]
  | andThen first second ihfirst ihsecond =>
      funext path batch
      rw [bare, accepts_andThen, accepts_andThen, ihfirst, ihsecond]
  | held holder filter ih => exact ih
  | _ => rfl

theorem acceptsAll_cons_cons (first second : Filter σ) (filters : List (Filter σ))
    (repository : Repository σ) (scope : Scope) :
    acceptsAll repository scope (first :: second :: filters) =
      acceptsAll repository scope (andThen first second :: filters) := by
  funext path batch
  rw [acceptsAll, acceptsAll, acceptsAll, Job.bind_apply, Job.bind_apply,
    accepts_andThen]
  rcases first.accepts repository scope path batch with ⟨_ | _ | _, _⟩
  · rfl
  · rfl
  · rfl

/-- All filters of a list accept if their conjunction does. -/
theorem acceptsAll_eq_accepts (filter : Filter σ) (filters : List (Filter σ))
    (repository : Repository σ) (scope : Scope) :
    acceptsAll repository scope (filter :: filters) =
      (filters.foldl andThen filter).accepts repository scope := by
  induction filters generalizing filter with
  | nil =>
      funext path batch
      rw [acceptsAll, Job.bind_apply]
      rcases hfilter : filter.accepts repository scope path batch with ⟨_ | _ | _, _⟩
      · exact hfilter.symm
      · exact hfilter.symm
      · exact hfilter.symm
  | cons second filters ih => rw [acceptsAll_cons_cons, ih, List.foldl_cons]

/-- Filters are Boolean expressions that are evaluated from the left.  An evaluation
asks the leaves that are reached, in their order and none twice, and comes out with the
value of the expression or with the error of the leaf that it asked last.  In result,
calls and state, a list of filters is the conjunction of its members (and accepts
everything if it has none), conjunction is associative, double negation changes nothing,
and neither do holders, wherever they stand. -/
theorem expression_laws (repository : Repository σ) (scope : Scope) :
    (∀ (filter : Filter σ) path batch, ∃ consulted,
      Consults repository path filter.leaves batch consulted
          (filter.accepts repository scope path batch).2 ∧
        filter.Evaluates 0 consulted (filter.accepts repository scope path batch).1 ∧
        (consulted.map Consultation.leaf).Pairwise (· < ·)) ∧
    (∀ path batch, acceptsAll repository scope [] path batch = (.ok true, batch)) ∧
    (∀ (filter : Filter σ) filters,
      acceptsAll repository scope (filter :: filters) =
        (filters.foldl andThen filter).accepts repository scope) ∧
    (∀ first second third : Filter σ,
      (andThen (andThen first second) third).accepts repository scope =
        (andThen first (andThen second third)).accepts repository scope) ∧
    (∀ filter : Filter σ,
      (negation (negation filter)).accepts repository scope =
        filter.accepts repository scope) ∧
    ∀ filter : Filter σ,
      filter.bare.accepts repository scope = filter.accepts repository scope := by
  refine ⟨?_, fun path batch => rfl,
    fun filter filters => acceptsAll_eq_accepts filter filters repository scope,
    fun first second third =>
      accepts_andThen_andThen first second third repository scope,
    fun filter => accepts_negation_negation filter repository scope,
    fun filter => accepts_bare filter repository scope⟩
  intro filter path batch
  have hleaves : filter.leaves.drop 0 = filter.leaves ++ [] := (List.append_nil _).symm
  obtain ⟨consulted, hconsults, hevaluates⟩ :=
    evaluates_from repository scope path filter hleaves batch
  exact ⟨consulted, hconsults, hevaluates, hevaluates.sorted⟩

end Filter

end ContentBatch
