import ContentBatch.Catalog
import ContentBatch.Proofs.Retry.Invariant

/-!
# Retried removals converge

A removal works from a snapshot of the renditions, and may fail between any two
deletions.  What it has deleted until then is gone for good, or is there again after the
rollback, depending on the store.  Either way the next attempt takes a new snapshot.

Two things do not change all the while: what the selector would leave of the renditions
that are there, and what it would leave of those that a rollback may restore.  That is
enough, because a selector goes by names and the store deletes all renditions of a name
at once.

`Contents` is what is known of the store; `Deleting` and `Keeping` say what its calls do
to it.  `Removal.Safe` says of a condition on the store that no removal breaks it,
together with what a removal may ask for while it holds.  Each part of the main result
is one such condition.

## Main results

* `Removal.Safe.retried`: what is safe stays so, in all attempts of a retried removal.
* `Action.removeRenditions_contents`: what a removal leaves if it succeeds.
* `Action.retried_removal_converges`: what a retried removal leaves, and what it never
  asks for.
-/

namespace ContentBatch

variable {σ : Type}

theorem Job.exists_eq_ok {job : Job σ Unit} {batch : Batch σ}
    (h : failure? (job batch).1 = none) :
    ∃ final, job batch = (.ok (), final) :=
  ⟨(job batch).2, Prod.ext (eq_ok_of_failure? h) rfl⟩

/-! ## What a selector leaves -/

namespace Selector

/-- Whether a rendition is selected depends on its name only. -/
theorem selects_congr (selector : Selector) {rendition other : Rendition}
    (hname : rendition.name = other.name) :
    selector.selects rendition = selector.selects other := by
  cases selector with
  | allButOriginal => rw [selects, selects, Rendition.isOriginal, Rendition.isOriginal,
      Rendition.nameMatches, Rendition.nameMatches, hname]
  | named name =>
    rw [selects, selects, Rendition.nameMatches, Rendition.nameMatches, hname]

/-- What a selector leaves is the same if renditions with the name of a selected one are
gone already. -/
theorem remaining_without (selector : Selector) {rendition : Rendition}
    (hselected : selector.selects rendition = true) (renditions : List Rendition) :
    selector.remaining (renditions.filter fun other => other.name != rendition.name) =
      selector.remaining renditions := by
  unfold remaining
  rw [List.filter_filter]
  refine List.filter_congr ?_
  intro other _
  by_cases hname : other.name = rendition.name
  · rw [selector.selects_congr hname, hselected]
    rfl
  · rw [bne_iff_ne.2 hname, Bool.and_true]

/-- A rendition without the name of any selected one of a list. -/
def spares (selector : Selector) (listed : List Rendition)
    (rendition : Rendition) : Bool :=
  listed.all fun other => !selector.selects other || rendition.name != other.name

theorem spares_cons_of_selects {selector : Selector} {listed : Rendition}
    (hselected : selector.selects listed = true) (rest : List Rendition) :
    selector.spares (listed :: rest) =
      fun rendition => selector.spares rest rendition &&
        (rendition.name != listed.name) := by
  funext rendition
  rw [spares, List.all_cons, hselected, Bool.not_true, Bool.false_or, Bool.and_comm]
  rfl

theorem spares_cons_of_not_selects {selector : Selector} {listed : Rendition}
    (hselected : ¬selector.selects listed = true) (rest : List Rendition) :
    selector.spares (listed :: rest) = selector.spares rest := by
  funext rendition
  rw [spares, List.all_cons, Bool.eq_false_iff.2 hselected,
    Bool.not_false, Bool.true_or, Bool.true_and]
  rfl

/-- Without the names of its selected renditions, a list is left with what is not
selected. -/
theorem filter_spares (selector : Selector) (renditions : List Rendition) :
    renditions.filter (selector.spares renditions) = selector.remaining renditions := by
  refine List.filter_congr ?_
  intro rendition hrendition
  rw [Bool.eq_iff_iff, spares, List.all_eq_true, Bool.not_eq_true']
  constructor
  · intro hspared
    have hown := hspared rendition hrendition
    rw [bne_self_eq_false, Bool.or_false, Bool.not_eq_true'] at hown
    exact hown
  · intro hleft other _
    rw [Bool.or_eq_true, Bool.not_eq_true', bne_iff_ne]
    by_cases hname : rendition.name = other.name
    · exact .inl ((selector.selects_congr hname).symm.trans hleft)
    · exact .inr hname

end Selector

/-! ## A store that keeps the renditions of an asset -/

/-- The renditions of an asset: those that are there now, and those that a rollback may
restore. -/
structure Contents where
  working : List Rendition
  held : List Rendition
  deriving DecidableEq, Repr

namespace Contents

/-- The contents without the renditions of a name. -/
def without (contents : Contents) (name : String) : Contents :=
  { contents with
    working := contents.working.filter fun rendition => rendition.name != name }

end Contents

/-- A store that deletes by name: `resolve` finds the renditions that are there, and
`removeRendition` deletes all of them that have exactly the name. -/
structure Deleting (repository : Repository σ) (path assetPath : String)
    (contents : σ → Contents) :
    Prop where
  resolve :
      ∀ store, contents (repository.answer (.resolve path) store).2 = contents store
  resolved : ∀ store asset,
      (repository.answer (.resolve path) store).1 = .ok (some asset) →
    asset = ⟨assetPath, (contents store).working⟩
  remove : ∀ name store,
      (repository.answer (.removeRendition assetPath name) store).1 = .ok () →
    contents (repository.answer (.removeRendition assetPath name) store).2 =
      (contents store).without name

/-- A store that keeps the renditions of the asset at a path, with no other writer.  A
call that fails changes nothing, and `revert` leaves the store as it is or restores what
it held. -/
structure Keeping (repository : Repository σ) (path assetPath : String)
    (contents : σ → Contents) :
    Prop extends Deleting repository path assetPath contents where
  remove_failed : ∀ name store error,
    (repository.answer (.removeRendition assetPath name) store).1 = .error error →
      contents (repository.answer (.removeRendition assetPath name) store).2 =
        contents store
  revert : ∀ store, contents (repository.answer .revert store).2 = contents store ∨
    contents (repository.answer .revert store).2 =
      ⟨(contents store).held, (contents store).held⟩
  refresh : ∀ store, contents (repository.answer .refresh store).2 = contents store
  sleep : ∀ delay store, contents (repository.sleep delay store) = contents store
  sleepUnless : ∀ token delay store,
    contents (repository.sleepUnless token delay store).2 = contents store

/-! ## What a removal asks for -/

namespace Removal

/-- If the store was in a condition, it is again, and only renditions that may be named
were asked to be removed meanwhile. -/
def Spares (Inv : σ → Prop) (Named : String → String → Prop)
    (before after : Batch σ) : Prop :=
  Inv before.store →
    Inv after.store ∧ ∃ entries,
      after.journal.toList = before.journal.toList ++ entries ∧
      ∀ assetPath name failure,
        .call (.removeRendition assetPath name) failure ∈ entries →
        Named assetPath name

/-- A condition on the store that a removal from the asset at a path cannot break as
long as it names what may be named, and in which it names nothing else. -/
structure Safe (repository : Repository σ) (path : String) (selector : Selector)
    (Inv : σ → Prop) (Named : String → String → Prop) : Prop where
  resolve : ∀ store, Inv store → Inv (repository.answer (.resolve path) store).2
  resolved : ∀ store asset, Inv store →
    (repository.answer (.resolve path) store).1 = .ok (some asset) →
      ∀ rendition ∈ asset.renditions, selector.selects rendition = true →
        Named asset.path rendition.name
  remove : ∀ assetPath name store, Named assetPath name → Inv store →
    Inv (repository.answer (.removeRendition assetPath name) store).2
  revert : ∀ store, Inv store → Inv (repository.answer .revert store).2
  refresh : ∀ store, Inv store → Inv (repository.answer .refresh store).2
  sleep : ∀ delay store, Inv store → Inv (repository.sleep delay store)
  sleepUnless : ∀ token delay store, Inv store →
      Inv (repository.sleepUnless token delay store).2

variable {repository : Repository σ} {path : String} {selector : Selector}
  {Inv : σ → Prop} {Named : String → String → Prop}

/-- The calls of a removal, those around its attempts included. -/
def Permitted (path : String) (Named : String → String → Prop) : Call → Prop
  | .resolve found => found = path
  | .removeRendition assetPath name => Named assetPath name
  | .revert => True
  | .refresh => True
  | _ => False

theorem spares_note (entry : Entry)
    (h : ∀ assetPath name failure,
      entry = .call (.removeRendition assetPath name) failure → Named assetPath name) :
    (Job.note entry : Job σ Unit).Respects (Spares Inv Named) := by
  intro batch hbefore
  refine ⟨hbefore, [entry], Array.toList_push, ?_⟩
  intro assetPath name failure hentry
  exact h assetPath name failure (List.mem_singleton.1 hentry).symm

theorem Safe.composable (hsafe : Safe repository path selector Inv Named) :
    Job.Composable repository (Permitted path Named) (Spares Inv Named) where
  refl batch hbefore := ⟨hbefore, [], (List.append_nil _).symm, nofun⟩
  trans := by
    intro first second third hsecond hthird hfirst
    obtain ⟨hinv, entries, hentries, hnamed⟩ := hsecond hfirst
    obtain ⟨hinv, others, hothers, hnamed'⟩ := hthird hinv
    refine ⟨hinv, entries ++ others, ?_, ?_⟩
    · rw [hothers, hentries, List.append_assoc]
    · intro assetPath name failure hentry
      rcases List.mem_append.1 hentry with hentry | hentry
      · exact hnamed assetPath name failure hentry
      · exact hnamed' assetPath name failure hentry
  span span scope := spares_note _ nofun
  event event scope := spares_note _ nofun
  draw _ _ hbefore := ⟨hbefore, [], (List.append_nil _).symm, nofun⟩
  call call hcall batch hbefore := by
    refine ⟨?_, [.call call (Job.failure? (repository.answer call batch.store).1)],
      Array.toList_push, ?_⟩
    · show Inv (repository.answer call batch.store).2
      cases call with
      | resolve found =>
          cases hcall
          exact hsafe.resolve _ hbefore
      | removeRendition assetPath name => exact hsafe.remove _ _ _ hcall hbefore
      | revert => exact hsafe.revert _ hbefore
      | refresh => exact hsafe.refresh _ hbefore
      | _ => exact hcall.elim
    · intro assetPath name failure hentry
      cases List.mem_singleton.1 hentry
      exact hcall

theorem Safe.retryable (hsafe : Safe repository path selector Inv Named) :
    Retry.Retryable repository (Spares Inv Named) where
  revert := hsafe.composable.call _ trivial
  refresh := hsafe.composable.call _ trivial
  sleep delay _ hbefore :=
    ⟨hsafe.sleep delay _ hbefore, [], (List.append_nil _).symm, nofun⟩
  sleepUnless token delay _ hbefore :=
    ⟨hsafe.sleepUnless token delay _ hbefore, [], (List.append_nil _).symm, nofun⟩
  note entry hentry := by
    refine spares_note entry ?_
    rintro _ _ _ rfl
    cases hentry

theorem Safe.removeSelected (hsafe : Safe repository path selector Inv Named)
    (assetPath : String) (renditions : List Rendition) (removed : Nat)
    (hnamed : ∀ rendition ∈ renditions, selector.selects rendition = true →
      Named assetPath rendition.name) :
    (Action.removeSelected repository selector assetPath renditions removed).Respects
      (Spares Inv Named) := by
  have hR := hsafe.composable
  induction renditions generalizing removed with
  | nil => exact hR.pure _
  | cons rendition renditions ih =>
      rw [List.forall_mem_cons] at hnamed
      unfold Action.removeSelected
      by_cases hselected : selector.selects rendition = true
      · rw [if_pos hselected]
        exact hR.bind (hR.call _ (hnamed.1 hselected))
          (fun _ => ih (removed + 1) hnamed.2)
      · rw [if_neg hselected]
        exact ih removed hnamed.2

theorem Safe.removeFrom (hsafe : Safe repository path selector Inv Named)
    (scope : Scope) :
    (Action.removeFrom repository scope selector path).Respects (Spares Inv Named) := by
  have hR := hsafe.composable
  intro batch
  have hasked := hR.call (.resolve path) rfl batch
  rw [Action.removeFrom, Job.bind_apply, Action.resolveAsset, Job.bind_apply]
  rcases hanswer : Job.ask repository (.resolve path) batch with ⟨error | found, middle⟩
  case error =>
    rw [hanswer] at hasked
    exact hasked
  rw [hanswer] at hasked
  cases found with
  | none => exact hasked
  | some asset =>
      intro hbefore
      -- only what was found in this state is named
      have hnamed :=
        hsafe.resolved batch.store asset hbefore (congrArg Prod.fst hanswer)
      have hremoved := hR.bind
        (hsafe.removeSelected asset.path asset.renditions 0 hnamed)
        fun removed =>
          hR.emit scope (.itemOperation Operation.removeRenditions path "completed"
            (some ("removed " ++ toString removed ++ " rendition(s)")))
      exact hR.trans _ _ _ hasked (hremoved middle) hbefore

theorem Safe.removal (hsafe : Safe repository path selector Inv Named) (scope : Scope) :
    ((Action.removeRenditions selector).apply repository scope path).Respects
      (Spares Inv Named) :=
  hsafe.composable.within (hsafe.removeFrom _)

/-- A retried removal keeps a safe condition, and names what may be named, in all of its
attempts. -/
theorem Safe.retried (hsafe : Safe repository path selector Inv Named) (retry : Retry)
    (scope : Scope) :
    ((Action.retry retry (.removeRenditions selector)).apply repository
      scope path).Respects
      (Spares Inv Named) :=
  Retry.perform_respects hsafe.composable hsafe.retryable retry scope _ path
    (hsafe.removal _)

end Removal

/-! ## What a removal leaves -/

namespace Action

variable {repository : Repository σ} {path assetPath : String} {contents : σ → Contents}
  {selector : Selector} {batch final : Batch σ}

theorem removeSelected_contents
    (hdeleting : Deleting repository path assetPath contents)
    {renditions : List Rendition} {removed total : Nat}
    (hok : removeSelected repository selector assetPath renditions removed batch =
      (.ok total, final)) :
    contents final.store =
      ⟨(contents batch.store).working.filter (selector.spares renditions),
        (contents batch.store).held⟩ := by
  induction renditions generalizing batch removed with
  | nil =>
      obtain ⟨_, rfl⟩ := Prod.mk.inj hok
      rw [List.filter_eq_self.2 (fun _ _ => rfl : ∀ r ∈ _, selector.spares [] r = true)]
  | cons rendition renditions ih =>
      unfold removeSelected at hok
      by_cases hselected : selector.selects rendition = true
      · rw [if_pos hselected] at hok
        obtain ⟨_, middle, hasked, hrest⟩ := Job.bind_eq_ok hok
        obtain ⟨hanswer, rfl⟩ := Prod.mk.inj hasked
        have hmiddle := hdeleting.remove rendition.name batch.store hanswer
        rw [ih hrest]
        show Contents.mk
            ((contents (repository.answer _ batch.store).2).working.filter _) _ = _
        rw [hmiddle, Contents.without, List.filter_filter,
          Selector.spares_cons_of_selects hselected]
      · rw [if_neg hselected] at hok
        rw [ih hok, Selector.spares_cons_of_not_selects hselected]

theorem removeFrom_contents (hdeleting : Deleting repository path assetPath contents)
    {scope : Scope}
    (hok : removeFrom repository scope selector path batch = (.ok (), final)) :
    contents final.store = ⟨selector.remaining (contents batch.store).working,
      (contents batch.store).held⟩ := by
  obtain ⟨asset, resolved, hresolved, hrest⟩ := Job.bind_eq_ok hok
  obtain ⟨total, removed, hremoved, hemit⟩ := Job.bind_eq_ok hrest
  obtain ⟨found, asked, hasked, hfound⟩ := Job.bind_eq_ok hresolved
  have hsame : contents asked.store = contents batch.store := by
    obtain ⟨_, rfl⟩ := Prod.mk.inj hasked
    exact hdeleting.resolve batch.store
  cases found with
  | none => cases hfound
  | some asset =>
      cases hfound
      obtain rfl := hdeleting.resolved batch.store asset (congrArg Prod.fst hasked)
      obtain ⟨_, rfl⟩ := Prod.mk.inj hemit
      have hcontents := removeSelected_contents hdeleting hremoved
      rw [hsame, Selector.filter_spares] at hcontents
      exact hcontents

/-- A removal that succeeds leaves what the selector does not select, in the order in
which it was there. -/
theorem removeRenditions_contents
    (hdeleting : Deleting repository path assetPath contents) {scope : Scope}
    (hok : (Action.removeRenditions selector).apply repository scope path batch =
      (.ok (), final)) :
    contents final.store = ⟨selector.remaining (contents batch.store).working,
      (contents batch.store).held⟩ := by
  let span := Span.onItem Operation.removeRenditions path
  have hinside : removeFrom repository (some span) selector path
      (Job.note (.span span scope) batch).2
      = (.ok (), final) := hok
  have hcontents := removeFrom_contents hdeleting hinside
  exact hcontents

end Action

namespace Keeping

variable {repository : Repository σ} {path assetPath : String} {contents : σ → Contents}

/-- While a removal is under way, what it would leave does not change: neither of what
is there nor of what a rollback may restore. -/
theorem underWay (hkeeping : Keeping repository path assetPath contents)
    (selector : Selector) (left : List Rendition) :
    Removal.Safe repository path selector
      (fun store => selector.remaining (contents store).working = left ∧
        selector.remaining (contents store).held = left)
      (fun found name => found = assetPath ∧
        ∃ rendition, selector.selects rendition = true ∧ rendition.name = name) where
  resolve store hstore := by
    rw [hkeeping.resolve]
    exact hstore
  resolved store asset _ hasset rendition _ hselected := by
    obtain rfl := hkeeping.resolved store asset hasset
    exact ⟨rfl, rendition, hselected, rfl⟩
  remove := by
    rintro _ _ store ⟨rfl, rendition, hselected, rfl⟩ hstore
    rcases hanswer :
        (repository.answer (.removeRendition _ rendition.name) store).1 with error | _
    · rw [hkeeping.remove_failed _ _ error hanswer]
      exact hstore
    · rw [hkeeping.remove _ _ hanswer]
      exact ⟨(selector.remaining_without hselected _).trans hstore.1, hstore.2⟩
  revert store hstore := by
    rcases hkeeping.revert store with hsame | hrestored
    · rw [hsame]
      exact hstore
    · rw [hrestored]
      exact ⟨hstore.2, hstore.2⟩
  refresh store hstore := by
    rw [hkeeping.refresh]
    exact hstore
  sleep delay store hstore := by
    rw [hkeeping.sleep]
    exact hstore
  sleepUnless token delay store hstore := by
    rw [hkeeping.sleepUnless]
    exact hstore

/-- Where nothing is selected, neither now nor after a rollback, no rendition is asked
to be removed. -/
theorem settled (hkeeping : Keeping repository path assetPath contents)
    (selector : Selector) (left : List Rendition) :
    Removal.Safe repository path selector
      (fun store => contents store = ⟨selector.remaining left, selector.remaining left⟩)
      (fun _ _ => False) where
  resolve store hstore := (hkeeping.resolve store).trans hstore
  resolved store asset hstore hasset rendition hrendition hselected := by
    obtain rfl := hkeeping.resolved store asset hasset
    rw [hstore] at hrendition
    have hspared := (List.mem_filter.1 hrendition).2
    rw [hselected] at hspared
    cases hspared
  remove _ _ _ hnone := hnone.elim
  revert store hstore := by
    rcases hkeeping.revert store with hsame | hrestored
    · exact hsame.trans hstore
    · rw [hrestored, hstore]
  refresh store hstore := (hkeeping.refresh store).trans hstore
  sleep delay store hstore := (hkeeping.sleep delay store).trans hstore
  sleepUnless token delay store hstore :=
    (hkeeping.sleepUnless token delay store).trans hstore

end Keeping

/-- Whatever the repository does, the removal of all renditions but the original names
no original. -/
theorem Removal.sparesOriginal (repository : Repository σ) (path : String) :
    Removal.Safe repository path .allButOriginal (fun _ => True)
      (fun _ name => Text.equalIgnoringCase name originalName = false) where
  resolve _ _ := trivial
  resolved _ _ _ _ _ _ hselected := (Bool.not_eq_true' _).mp hselected
  remove _ _ _ _ _ := trivial
  revert _ _ := trivial
  refresh _ _ := trivial
  sleep _ _ _ := trivial
  sleepUnless _ _ _ _ := trivial

namespace Action

variable {repository : Repository σ} {path assetPath : String} {contents : σ → Contents}

/-- A retried removal that succeeds, however its attempts failed and whatever the
rollbacks restored, leaves exactly what the selector does not select.  Done again, it
asks for no rendition to be removed.  And whether it succeeds or not, the removal of all
renditions but the original never asks for one that is an original, in whatever case it
is written. -/
theorem retried_removal_converges (retry : Retry) (selector : Selector)
    (hkeeping : Keeping repository path assetPath contents) (scope : Scope)
    {batch final : Batch σ} {result : Except ActionError Unit}
    (hstart : (contents batch.store).held = (contents batch.store).working)
    (hrun : (Action.retry retry (.removeRenditions selector)).apply repository scope
      path batch = (result, final)) :
    (result = .ok () →
      (contents final.store).working =
          (contents batch.store).working.filter
            (fun rendition => !selector.selects rendition) ∧
        ∀ (described : σ → Contents) (again last : Batch σ)
          (next : Except ActionError Unit),
          Keeping repository path assetPath described →
            described again.store =
              ⟨(contents final.store).working, (contents final.store).working⟩ →
              (Action.retry retry (.removeRenditions selector)).apply repository
                scope path again
                = (next, last) →
                ∃ entries, last.journal.toList = again.journal.toList ++ entries ∧
                  ∀ found name failure,
                    .call (.removeRendition found name) failure ∉ entries) ∧
      (selector = .allButOriginal →
        ∃ entries, final.journal.toList = batch.journal.toList ++ entries ∧
          ∀ found name failure, .call (.removeRendition found name) failure ∈ entries →
            Text.equalIgnoringCase name originalName = false) := by
  constructor
  · rintro rfl
    -- when the last attempt begins, some of the selected renditions may be gone, and
    -- nothing else is changed
    have hsafe :=
      hkeeping.underWay selector (selector.remaining (contents batch.store).working)
    obtain ⟨begun, done, hbegun, hdone, hfinal⟩ :=
      Retry.perform_eq_ok hsafe.composable hsafe.retryable (hsafe.removal _) hrun
    have hleft : (contents final.store).working =
        selector.remaining (contents batch.store).working := by
      rw [hfinal, removeRenditions_contents hkeeping.toDeleting hdone]
      exact (hbegun ⟨rfl, congrArg selector.remaining hstart⟩).1.1
    refine ⟨hleft, ?_⟩
    intro described again last next hdescribed hagain hrepeated
    rw [hleft] at hagain
    have hsettled :=
      (hdescribed.settled selector (contents batch.store).working).retried retry scope
      again hagain
    rw [hrepeated] at hsettled
    exact hsettled.2
  · rintro rfl
    have hspared :=
      (Removal.sparesOriginal repository path).retried retry scope batch trivial
    rw [hrun] at hspared
    exact hspared.2

end Action

/-! ## A shelf with renditions -/

/-- A store with the renditions of one asset.  What is worked on can be thrown back to
what was saved.  Its calls succeed or fail as a script says. -/
structure Shelf where
  script : List Bool := []
  saved : List Rendition
  working : List Rendition

namespace Shelf

/-- What a call does if it succeeds. -/
def perform : (call : Call) → Shelf → call.Answer × Shelf
  | .resolve path, shelf => (some ⟨path, shelf.working⟩, shelf)
  | .removeRendition _ name, shelf =>
    ((), { shelf with
      working := shelf.working.filter fun rendition => rendition.name != name })
  | .revert, shelf => ((), { shelf with working := shelf.saved })
  | .refresh, shelf => ((), shelf)
  | .replicate _ _ _, shelf => ((), shelf)
  | .execute _ _ _ _, shelf => ((), shelf)
  | .setUserData _, shelf => ((), shelf)
  | .hostStep _ _, shelf => ((), shelf)
  | .hostQuestion _ _ usual, shelf => (usual, shelf)

/-- Fails if the script says so. -/
def answer (call : Call) (shelf : Shelf) : Except ActionError call.Answer × Shelf :=
  match shelf.script with
  | false :: script => (.error (.session "conflict"), { shelf with script })
  | script =>
    let (value, shelf) := perform call { shelf with script := script.tail }
    (.ok value, shelf)

/-- The shelf as a repository. -/
def repository : Repository Shelf where
  answer := answer
  sleep _ shelf := shelf
  sleepUnless _ _ shelf := (true, shelf)

/-- What is on the shelf. -/
def contents (shelf : Shelf) : Contents := ⟨shelf.working, shelf.saved⟩

theorem answer_cases (call : Call) (shelf : Shelf) :
    ((∃ error, (answer call shelf).1 = .error error) ∧
        contents (answer call shelf).2 = contents shelf) ∨
      ∃ script, answer call shelf =
        (.ok (perform call { shelf with script }).1,
          (perform call { shelf with script }).2) := by
  unfold answer
  split
  · exact .inl ⟨⟨_, rfl⟩, rfl⟩
  · exact .inr ⟨_, rfl⟩

theorem keeping (path : String) : Keeping repository path path contents where
  resolve store := by
    rcases answer_cases (.resolve path) store with ⟨-, hsame⟩ | ⟨script, hanswer⟩
    · exact hsame
    · exact congrArg (fun answer => contents answer.2) hanswer
  resolved store asset hasset := by
    rcases answer_cases (.resolve path) store with
        ⟨⟨error, herror⟩, -⟩ | ⟨script, hanswer⟩
    · cases hasset.symm.trans herror
    · cases hasset.symm.trans (congrArg Prod.fst hanswer)
      rfl
  remove name store hok := by
    rcases answer_cases (.removeRendition path name) store with
        ⟨⟨error, herror⟩, -⟩ | ⟨script, hanswer⟩
    · cases hok.symm.trans herror
    · exact congrArg (fun answer => contents answer.2) hanswer
  remove_failed name store error herror := by
    rcases answer_cases (.removeRendition path name) store with
        ⟨-, hsame⟩ | ⟨script, hanswer⟩
    · exact hsame
    · cases herror.symm.trans (congrArg Prod.fst hanswer)
  revert store := by
    rcases answer_cases .revert store with ⟨-, hsame⟩ | ⟨script, hanswer⟩
    · exact .inl hsame
    · exact .inr (congrArg (fun answer => contents answer.2) hanswer)
  refresh store := by
    rcases answer_cases .refresh store with ⟨-, hsame⟩ | ⟨script, hanswer⟩
    · exact hsame
    · exact congrArg (fun answer => contents answer.2) hanswer
  sleep _ _ := rfl
  sleepUnless _ _ _ := rfl

/-- Renditions with a name that is there twice and once in capitals, and a second
original. -/
def upload : List Rendition :=
  ["original", "web", "WEB", "web", "Original"].map fun name =>
    ⟨name, "/a/" ++ name, .epoch⟩

/-- The second deletion fails, and the first is thrown back; the next attempt finds
everything again.  By the general law both originals are left, and they alone. -/
theorem retried_removal_of_script :
    let removal : Action Shelf :=
      .retry { policy := .standard } Catalog.removeAllRenditions
    let start : Batch Shelf := { store := ⟨[true, true, false], upload, upload⟩ }
    ∃ final, removal.apply repository none "/a" start = (.ok (), final) ∧
      final.store.working.map Rendition.name = ["original", "Original"] ∧
        ∃ entries, final.journal.toList = start.journal.toList ++ entries ∧
          ∀ found name failure, .call (.removeRendition found name) failure ∈ entries →
            Text.equalIgnoringCase name originalName = false := by
  intro removal start
  obtain ⟨final, hrun⟩ := Job.exists_eq_ok (show Job.failure?
    (removal.apply repository none "/a" start).1 = none by decide +kernel)
  obtain ⟨hconverges, hspares⟩ := Action.retried_removal_converges
    { policy := .standard }
    .allButOriginal (keeping "/a") none rfl hrun
  have hleft : final.store.working = upload.filter _ := (hconverges rfl).1
  refine ⟨final, hrun, ?_, hspares rfl⟩
  rw [hleft]
  decide +kernel

end Shelf

end ContentBatch
