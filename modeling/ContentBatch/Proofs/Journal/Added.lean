import ContentBatch.Proofs.Composition

/-!
# What a job adds to the journal

The journal only grows.  `Job.Adds` says of a job that it leaves the journal it finds as
it is and adds entries to it, and what is known of these entries together with the
result.

The steps that write lines have their rules here, so that a statement about the journal
follows the structure of a job and no journal is ever taken apart.  `Added` is the same
as a relation, for what is said of the lines alone; it is composable if the lines of
single steps can be strung together.
-/

namespace ContentBatch.Job

variable {σ α β : Type}

/-- The job adds entries at the end of the journal, and `Good` holds of its result and
of what it adds. -/
def Adds (job : Job σ α) (Good : Except ActionError α → List Entry → Prop) : Prop :=
  ∀ batch, ∃ entries, (job batch).2.journal.toList = batch.journal.toList ++ entries ∧
    Good (job batch).1 entries

variable {Good : Except ActionError α → List Entry → Prop}

theorem Adds.mono {Better : Except ActionError α → List Entry → Prop} {job : Job σ α}
    (hjob : job.Adds Good)
    (h : ∀ result entries, Good result entries → Better result entries) :
    job.Adds Better := by
  intro batch
  obtain ⟨entries, hjournal, hgood⟩ := hjob batch
  exact ⟨entries, hjournal, h _ _ hgood⟩

theorem adds_ask {repository : Repository σ} {call : Call}
    {Asked : Except ActionError call.Answer → List Entry → Prop}
    (h : ∀ answer, Asked answer [.call call (failure? answer)]) :
    (ask repository call).Adds Asked := by
  intro batch
  refine ⟨[.call call (failure? (repository.answer call batch.store).1)], ?_, h _⟩
  show (batch.journal.push _).toList = _
  rw [Array.toList_push]

/-- The lines of a call. -/
theorem adds_call (repository : Repository σ) (call : Call) :
    (ask repository call).Adds fun answer lines =>
      lines = [.call call (failure? answer)] :=
  adds_ask fun _ => rfl

theorem adds_emit {scope : Scope} {event : Event}
    {Emitted : Except ActionError Unit → List Entry → Prop}
    (h : Emitted (.ok ()) [.event event scope]) :
    (emit scope event : Job σ Unit).Adds Emitted :=
  fun _ => ⟨[.event event scope], Array.toList_push, h⟩

/-- The lines of two steps, or of the first alone if it fails. -/
theorem adds_bind {first : Job σ α} {next : α → Job σ β}
    {Then : Except ActionError β → List Entry → Prop} (hfirst : first.Adds Good)
    (hnext : ∀ value before, Good (.ok value) before →
      (next value).Adds fun result after => Then result (before ++ after))
    (herror : ∀ error before, Good (.error error) before → Then (.error error) before) :
    (first >>= next).Adds Then := by
  intro batch
  obtain ⟨before, hjournal, hgood⟩ := hfirst batch
  rw [bind_apply]
  rcases hresult : first batch with ⟨error | value, middle⟩
  all_goals rw [hresult] at hjournal hgood
  case error => exact ⟨before, hjournal, herror error before hgood⟩
  case ok =>
    obtain ⟨after, hrest, hthen⟩ := hnext value before hgood middle
    refine ⟨before ++ after, ?_, hthen⟩
    rw [hrest, hjournal, List.append_assoc]

theorem adds_within {scope : Scope} {span : Span} {steps : Scope → Job σ α}
    (h : (steps (some span)).Adds fun result entries =>
      Good result (.span span scope :: entries)) :
    (within scope span steps).Adds Good := by
  intro batch
  obtain ⟨entries, hjournal, hgood⟩ := h (note (.span span scope) batch).2
  refine ⟨.span span scope :: entries, ?_, hgood⟩
  show (steps (some span) (note (.span span scope) batch).2).2.journal.toList = _
  rw [hjournal]
  show (batch.journal.push _).toList ++ entries = _
  rw [Array.toList_push, List.append_assoc]
  rfl

theorem adds_thenNote {steps : Job σ α} {entry : Except ActionError α → Entry}
    (h : steps.Adds fun result entries => Good result (entries ++ [entry result])) :
    (thenNote steps entry).Adds Good := by
  intro batch
  obtain ⟨entries, hjournal, hgood⟩ := h batch
  refine ⟨entries ++ [entry (steps batch).1], ?_, hgood⟩
  show ((steps batch).2.journal.push _).toList = _
  rw [Array.toList_push, hjournal, List.append_assoc]

/-- Between two batches, lines of which `Good` holds were added to the journal. -/
def Added (Good : List Entry → Prop) (before after : Batch σ) : Prop :=
  ∃ entries, after.journal.toList = before.journal.toList ++ entries ∧ Good entries

/-- What holds of the lines of single steps, and of lines one after the other, can be
said of what was added. -/
theorem composable_added {repository : Repository σ} {allowed : Call → Prop}
    {Good : List Entry → Prop} (hnil : Good [])
    (happend : ∀ entries others, Good entries → Good others → Good (entries ++ others))
    (hspan : ∀ span scope, Good [.span span scope])
    (hevent : ∀ event scope, Good [.event event scope])
    (hcall : ∀ call failure, allowed call → Good [.call call failure]) :
    Composable repository allowed (Added Good) where
  refl batch := ⟨[], (List.append_nil _).symm, hnil⟩
  trans := by
    rintro first second third ⟨entries, hentries, hgood⟩ ⟨others, hothers, hrest⟩
    refine ⟨entries ++ others, ?_, happend entries others hgood hrest⟩
    rw [hothers, hentries, List.append_assoc]
  span span scope batch := ⟨[.span span scope], Array.toList_push, hspan span scope⟩
  event event scope batch :=
    ⟨[.event event scope], Array.toList_push, hevent event scope⟩
  draw rotation batch := ⟨[], (List.append_nil _).symm, hnil⟩
  call call hallowed batch :=
    ⟨[.call call (failure? (repository.answer call batch.store).1)], Array.toList_push,
      hcall call _ hallowed⟩

end ContentBatch.Job
