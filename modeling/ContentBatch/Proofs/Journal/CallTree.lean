import ContentBatch.Proofs.Journal.Added
import ContentBatch.Proofs.Retry.Protocol
import ContentBatch.Work
import Mathlib.Data.List.Basic

/-!
# Call trees

The run of a composition as a tree, and the journal as what the tree looks like when it
is read.

A node of a call tree is an `Activity`: a filter, an action or work that is applied,
something that is reported, or any other line.  Which activities stand directly within
another one, and in which order, is what the composition says; `Comprises` is its
grammar, and a tree `Conforms` if every node is as the grammar has it.

Spans are not part of the grammar.  They come in when the tree is written down.  `nodes`
lists every node with those that enclose it, and `entries` gives it at most one line: an
activity that has a span begins with the line for it, and a line for a span or an event
has around it the span of the nearest enclosing activity that has one.

`Does` says of a job that it does some activities one after another.  Like `Adds`, on
which it is built, it has a rule for each of the steps that jobs are made of.

## Main results

* `CallTree.entries_eq`: of all that encloses a tree, only the nearest span matters.
* `CallTree.Conforms.spans_eq`: the spans in the journal are those of the nodes.
* `Job.does_bind`: what two steps do.
* `Job.does_within`, `Job.does_part`: the steps within an activity, with and without a
  span, become one node.
-/

namespace ContentBatch

/-! ## Activities -/

/-- What is done in a run.  A `line` is a line of the journal that is no message: a span
is not written by itself, and an event is reported. -/
inductive Activity (σ : Type) where
  | filter (filter : Filter σ) (path : String)
  | action (action : Action σ) (path : String)
  | work (work : Work σ)
  | report (event : Event)
  | line (entry : Entry)

namespace Activity

variable {σ : Type}

/-- The span of an activity, if it has one. -/
def span? : Activity σ → Option Span
  | filter .isAsset path => some (.onItem Operation.filterNonAssets path)
  | filter .hasOutdatedRenditions path => some (.onItem Operation.filterOutdated path)
  | action (.replicate kind _) path => some (.onItem kind.name path)
  | action (.removeRenditions _) path => some (.onItem Operation.removeRenditions path)
  | action (.withAllRenditions _ _) path =>
    some (.onItem Operation.withAllRenditions path)
  | action (.startWorkflow _) path => some (.onItem Operation.startWorkflow path)
  | action (.retry _ _) path => some (.onItem Operation.retry path)
  | work (.retry _ tried) => some tried.retrySpan
  | _ => none

/-- The span of the nearest of some activities, innermost first, that has one. -/
def nearestSpan? (enclosing : List (Activity σ)) : Option Span :=
  enclosing.findSome? span?

/-- The line that an activity begins with, if there is one. -/
def opening? (within : Scope) : Activity σ → Option Entry
  | report event => some (.event event within)
  | line entry => some entry
  | activity => activity.span?.map fun span => .span span within

/-- A call and how it came out. -/
def call (call : Call) (failure : Option ActionError) : Activity σ :=
  line (.call call failure)

/-- Activities that are nothing but calls. -/
def Calls (activities : List (Activity σ)) : Prop :=
  ∀ activity ∈ activities, ∃ asked failure, activity = call asked failure

/-- What is reported after a call, if the call did not fail. -/
def reportUnless (failure : Option ActionError) (event : Event) : List (Activity σ) :=
  match failure with
  | none => [report event]
  | some _ => []

end Activity

open Activity

/-! ## The grammar -/

section Grammar

variable {σ : Type}

/-- What a retry does itself after an attempt. -/
inductive AfterAttempt (subject : String) : Activity σ → Prop where
  | rollback {asked : Call} {failure : Option ActionError} :
      asked.rollsBack = true → AfterAttempt subject (call asked failure)
  | decision {classifier : Classifier} {error : ActionError} {number : Nat} :
      AfterAttempt subject (line (.decision classifier error number))
  | pause {delay : Millis} {token : Option Token} {completed : Bool} :
      AfterAttempt subject (line (.pause delay token completed))
  | report {told : Report} :
      AfterAttempt subject (report (.retry subject told))

/-- The attempts of a retry from `number` on.  In each of them, what is tried is done
once. -/
inductive Attempts (tried : Activity σ) (subject : String) :
    Nat → List (Activity σ) → Prop where
  | last {number : Nat} {failure : Option ActionError} {after : List (Activity σ)} :
      (∀ activity ∈ after, AfterAttempt subject activity) →
      Attempts tried subject number
        (line (.attempt number) :: tried :: line (.attempted number failure) :: after)
  | again {number : Nat} {error : ActionError} {after later : List (Activity σ)} :
      (∀ activity ∈ after, AfterAttempt subject activity) →
      Attempts tried subject (number + 1) later →
      Attempts tried subject number
        (line (.attempt number) :: tried :: line (.attempted number (some error)) ::
          (after ++ later))

/-- What is done for the renditions of an item, one after another.  Filters are asked
about the path of the rendition, up to the first that does not accept it, and then what
is fanned out is done with the item itself. -/
inductive Visits (fanned : Action σ) (filters : List (Filter σ)) (path : String) :
    List (Activity σ) → Prop where
  | nil : Visits fanned filters path []
  | rejected {asked others : List (Filter σ)} {rendition : String}
      {later : List (Activity σ)} :
      filters = asked ++ others → Visits fanned filters path later →
      Visits fanned filters path (asked.map (filter · rendition) ++ later)
  | accepted {rendition : String} {later : List (Activity σ)} :
      Visits fanned filters path later →
      Visits fanned filters path
        (filters.map (filter · rendition) ++ action fanned path :: later)

/-- What stands directly within an activity. -/
inductive Comprises : Activity σ → List (Activity σ) → Prop where
  | report {event : Event} : Comprises (report event) []
  | line {entry : Entry} : entry.isMessage = false → Comprises (line entry) []
  | pathMatches {pattern : PathPattern} {path : String} :
      Comprises (filter (.pathMatches pattern) path) []
  | isAsset {path : String} {failure : Option ActionError} :
      Comprises (filter .isAsset path) [call (.resolve path) failure]
  | hasOutdatedRenditions {path : String} {failure : Option ActionError}
      {freshness : Option Freshness} :
      Comprises (filter .hasOutdatedRenditions path)
        (call (.resolve path) failure ::
          reportUnless failure (.assessed path freshness))
  | negation {negated : Filter σ} {path : String} :
      Comprises (filter (.negation negated) path) [filter negated path]
  | andThenFirst {first second : Filter σ} {path : String} :
      Comprises (filter (.andThen first second) path) [filter first path]
  | andThenBoth {first second : Filter σ} {path : String} :
      Comprises (filter (.andThen first second) path) [filter first path,
        filter second path]
  | heldFilter {holder : Holder} {inner : Filter σ} {path : String} :
      Comprises (filter (.held holder inner) path) [filter inner path]
  | customFilter {name : String} {accepts : String → Job σ Bool} {path : String}
      {calls : List (Activity σ)} :
      Calls calls → Comprises (filter (.custom name accepts) path) calls
  | replicate {kind : ReplicationKind} {targets : Targets} {path : String}
      {failure : Option ActionError} {options : Option ReplicationOptions} :
      Comprises (action (.replicate kind targets) path)
        (call (.replicate kind path options) failure ::
          reportUnless failure
            (.replicated path kind (options.map ReplicationOptions.agentIds)))
  | removalUnresolved {selector : Selector} {path : String}
      {failure : Option ActionError} :
      Comprises (action (.removeRenditions selector) path)
        [call (.resolve path) failure]
  | removalFailed {selector : Selector} {path assetPath name : String}
      {names : List String} {error : ActionError} :
      Comprises (action (.removeRenditions selector) path)
        (call (.resolve path) none ::
          (names.map (fun name => call (.removeRendition assetPath name) none) ++
            [call (.removeRendition assetPath name) (some error)]))
  | removal {selector : Selector} {path assetPath : String} {names : List String} :
      Comprises (action (.removeRenditions selector) path)
        (call (.resolve path) none ::
          (names.map (fun name => call (.removeRendition assetPath name) none) ++
            [report (.itemOperation Operation.removeRenditions path "completed"
              (some ("removed " ++ toString names.length ++ " rendition(s)")))]))
  | fanOutUnresolved {fanned : Action σ} {filters : List (Filter σ)} {path : String}
      {failure : Option ActionError} :
      Comprises (action (.withAllRenditions fanned filters) path)
        [call (.resolve path) failure]
  | fanOutFailed {fanned : Action σ} {filters : List (Filter σ)} {path : String}
      {visits : List (Activity σ)} :
      Visits fanned filters path visits →
      Comprises (action (.withAllRenditions fanned filters) path)
        (call (.resolve path) none :: visits)
  | fanOut {fanned : Action σ} {filters : List (Filter σ)} {path : String}
      {visits : List (Activity σ)} {renditions invoked : Nat} :
      Visits fanned filters path visits →
      Comprises (action (.withAllRenditions fanned filters) path)
        (call (.resolve path) none ::
          (visits ++ [report (.fannedOut path renditions invoked)]))
  | workflowUnmarked {model : WorkflowModel} {path : String} {error : ActionError} :
      Comprises (action (.startWorkflow model) path)
        [call (.setUserData workflowMarker) (some error)]
  | workflow {model : WorkflowModel} {path : String} {failure : Option ActionError} :
      Comprises (action (.startWorkflow model) path)
        (call (.setUserData workflowMarker) none ::
          call (.execute path model false false) failure ::
          reportUnless failure (.workflowCompleted path model.id))
  | retriedAction {retry : Retry} {tried : Action σ} {path : String}
      {attempts : List (Activity σ)} {failure : Option ActionError} :
      Attempts (action tried path) path 1 attempts →
      Comprises (action (.retry retry tried) path)
        (attempts ++ [line (.retried failure)])
  | customAction {name : String} {apply : String → Job σ Unit} {path : String}
      {calls : List (Activity σ)} :
      Calls calls → Comprises (action (.custom name apply) path) calls
  | bound {bound : Action σ} {path : String} :
      Comprises (work (.bound bound path)) [action bound path]
  | retriedWork {retry : Retry} {tried : Work σ} {attempts : List (Activity σ)}
      {failure : Option ActionError} :
      Attempts (work tried) tried.name 1 attempts →
      Comprises (work (.retry retry tried)) (attempts ++ [line (.retried failure)])
  | customWork {name : String} {run : Job σ Unit} {calls : List (Activity σ)} :
      Calls calls → Comprises (work (.custom name run)) calls

end Grammar

/-! ## Trees -/

/-- An activity and what is done within it, in order. -/
inductive CallTree (σ : Type) where
  | node (activity : Activity σ) (inside : List (CallTree σ))

namespace CallTree

variable {σ : Type}

/-- The activity at the root. -/
def root : CallTree σ → Activity σ
  | node activity _ => activity

/-- Every node is as the grammar has it. -/
inductive Conforms : CallTree σ → Prop where
  | node {activity : Activity σ} {inside : List (CallTree σ)} :
      Comprises activity (inside.map root) → (∀ tree ∈ inside, tree.Conforms) →
      Conforms (.node activity inside)

mutual

/-- The nodes of a tree in the order in which they begin, each with the activities that
enclose it, innermost first. -/
def nodes (enclosing : List (Activity σ)) :
    CallTree σ → List (Activity σ × List (Activity σ))
  | node activity inside =>
    (activity, enclosing) :: nodesAll (activity :: enclosing) inside

/-- The nodes of several trees, one after another. -/
def nodesAll (enclosing : List (Activity σ)) :
    List (CallTree σ) → List (Activity σ × List (Activity σ))
  | [] => []
  | tree :: trees => tree.nodes enclosing ++ nodesAll enclosing trees

end

/-- The line of a node, if there is one.  Outside of all spans of the tree, it is within
`scope`. -/
def entryOf? (scope : Scope) (node : Activity σ × List (Activity σ)) : Option Entry :=
  node.1.opening? ((nearestSpan? node.2).or scope)

/-- The lines of a tree below some activities. -/
def entries (scope : Scope) (enclosing : List (Activity σ))
    (tree : CallTree σ) : List Entry :=
  (tree.nodes enclosing).filterMap (entryOf? scope)

/-- The lines of several trees, one after another. -/
def entriesAll (scope : Scope) (enclosing : List (Activity σ))
    (trees : List (CallTree σ)) : List Entry :=
  (nodesAll enclosing trees).filterMap (entryOf? scope)

/-- The span of a node, if it has one, and the span around it. -/
def spanOf? (scope : Scope)
    (node : Activity σ × List (Activity σ)) : Option (Span × Scope) :=
  node.1.span?.map fun span => (span, (nearestSpan? node.2).or scope)

/-- The spans of a tree. -/
def spans (scope : Scope) (tree : CallTree σ) : List (Span × Scope) :=
  (tree.nodes []).filterMap (spanOf? scope)

/-! ### What encloses a tree -/

theorem entries_node (scope : Scope) (enclosing : List (Activity σ))
    (activity : Activity σ) (inside : List (CallTree σ)) :
    (node activity inside).entries scope enclosing =
      (activity.opening? ((nearestSpan? enclosing).or scope)).toList ++
        entriesAll scope (activity :: enclosing) inside := by
  rw [entries, nodes, List.filterMap_cons]
  unfold entryOf?
  cases activity.opening? ((nearestSpan? enclosing).or scope) <;> rfl

theorem entriesAll_cons (scope : Scope) (enclosing : List (Activity σ))
    (tree : CallTree σ) (trees : List (CallTree σ)) :
    entriesAll scope enclosing (tree :: trees) =
      tree.entries scope enclosing ++ entriesAll scope enclosing trees := by
  rw [entriesAll, nodesAll, List.filterMap_append]
  rfl

theorem nearestSpan?_cons_or (activity : Activity σ) (enclosing : List (Activity σ))
    (scope : Scope) :
    (nearestSpan? (activity :: enclosing)).or scope =
      activity.span?.or ((nearestSpan? enclosing).or scope) := by
  unfold nearestSpan?
  rw [List.findSome?_cons]
  cases activity.span? <;> rfl

mutual

/-- Of all that encloses a tree, only the nearest span matters. -/
theorem entries_eq (scope : Scope) (enclosing : List (Activity σ)) (tree : CallTree σ) :
    tree.entries scope enclosing =
      tree.entries ((nearestSpan? enclosing).or scope) [] := by
  match tree with
  | node activity inside =>
      rw [entries_node, entries_node, entriesAll_eq scope, entriesAll_eq _ [activity],
        nearestSpan?_cons_or, nearestSpan?_cons_or]
      rfl

theorem entriesAll_eq (scope : Scope) (enclosing : List (Activity σ))
    (trees : List (CallTree σ)) :
    entriesAll scope enclosing trees =
      entriesAll ((nearestSpan? enclosing).or scope) [] trees := by
  match trees with
  | [] => rfl
  | tree :: trees =>
    rw [entriesAll_cons, entriesAll_cons, entries_eq scope, entriesAll_eq scope]

end

theorem entriesAll_append (scope : Scope) (trees others : List (CallTree σ)) :
    entriesAll scope [] (trees ++ others) =
      entriesAll scope [] trees ++ entriesAll scope [] others := by
  induction trees with
  | nil => rfl
  | cons tree trees ih =>
    rw [List.cons_append, entriesAll_cons, entriesAll_cons, ih, List.append_assoc]

/-! ### Spans of a tree -/

theorem mem_nodesAll {node : Activity σ × List (Activity σ)}
    {enclosing : List (Activity σ)} {trees : List (CallTree σ)} :
    node ∈ nodesAll enclosing trees ↔ ∃ tree ∈ trees, node ∈ tree.nodes enclosing := by
  induction trees with
  | nil => simp [nodesAll]
  | cons tree trees ih => rw [nodesAll, List.mem_append, ih, List.exists_mem_cons_iff]

/-- No node of a tree is a line for a span or an event. -/
theorem Conforms.not_message {tree : CallTree σ} (h : tree.Conforms)
    {enclosing around : List (Activity σ)} {entry : Entry}
    (hnode : (line entry, around) ∈ tree.nodes enclosing) : entry.isMessage = false :=
  by
  induction h generalizing enclosing with
  | @node activity inside hcomprises _ ih =>
      rw [nodes] at hnode
      rcases List.mem_cons.1 hnode with hroot | hinside
      case inl =>
        obtain ⟨rfl, _⟩ := Prod.mk.inj hroot
        generalize inside.map root = activities at hcomprises
        cases hcomprises with
        | line hmessage => exact hmessage
      case inr =>
        obtain ⟨tree, htree, hbelow⟩ := mem_nodesAll.1 hinside
        exact ih tree htree hbelow

/-- With a tree, its spans come into the journal: one for each node that has one. -/
theorem Conforms.spans_eq {tree : CallTree σ} (h : tree.Conforms) {scope : Scope}
    {before after : Journal}
    (hjournal : after.toList = before.toList ++ tree.entries scope []) :
    after.spans = before.spans ++ tree.spans scope := by
  unfold Journal.spans
  rw [hjournal, List.filterMap_append, List.append_cancel_left_eq, entries,
    List.filterMap_filterMap]
  refine List.filterMap_congr ?_
  rintro ⟨activity, around⟩ hnode
  cases activity with
  | line entry =>
      have hmessage := h.not_message hnode
      cases entry with
      | span => cases hmessage
      | _ => rfl
  | report event => rfl
  | filter filter path => cases filter <;> rfl
  | action action path => cases action <;> rfl
  | work work => cases work <;> rfl

/-! ### Activities in a journal -/

/-- The lines are those of some activities, done one after another within a scope. -/
def Shows (scope : Scope) (activities : List (Activity σ))
    (lines : List Entry) : Prop :=
  ∃ trees, trees.map root = activities ∧ (∀ tree ∈ trees, tree.Conforms) ∧
    lines = entriesAll scope [] trees

variable {scope : Scope} {activity : Activity σ}
  {activities others inside : List (Activity σ)} {lines more : List Entry}

namespace Shows

theorem nil : Shows scope ([] : List (Activity σ)) [] :=
  ⟨[], rfl, List.forall_mem_nil _, rfl⟩

theorem append (h : Shows scope activities lines) (hothers : Shows scope others more) :
    Shows scope (activities ++ others) (lines ++ more) := by
  obtain ⟨trees, rfl, htrees, rfl⟩ := h
  obtain ⟨later, rfl, hlater, rfl⟩ := hothers
  exact ⟨trees ++ later, List.map_append, List.forall_mem_append.2 ⟨htrees, hlater⟩,
    (entriesAll_append scope trees later).symm⟩

/-- What is done within an activity becomes one node. -/
theorem node (hcomprises : Comprises activity inside)
    (h : Shows (activity.span?.or scope) inside lines) :
    Shows scope [activity] ((activity.opening? scope).toList ++ lines) := by
  obtain ⟨trees, rfl, htrees, rfl⟩ := h
  refine ⟨[.node activity trees], rfl,
    List.forall_mem_singleton.2 (.node hcomprises htrees), ?_⟩
  rw [entriesAll_cons, entries_node, entriesAll_eq scope [activity],
    nearestSpan?_cons_or]
  exact (List.append_nil _).symm

theorem report (event : Event) :
    Shows scope [(.report event : Activity σ)] [.event event scope] :=
  node .report nil

theorem line {entry : Entry} (h : entry.isMessage = false) :
    Shows scope [(.line entry : Activity σ)] [entry] :=
  node (.line h) nil

/-- Activities that belong to a single tree. -/
theorem exists_tree (h : Shows scope [activity] lines) :
    ∃ tree : CallTree σ, tree.root = activity ∧ tree.Conforms ∧
      lines = tree.entries scope [] := by
  obtain ⟨trees, hroots, htrees, rfl⟩ := h
  obtain ⟨tree, rfl, hroot⟩ := List.map_eq_singleton_iff.1 hroots
  refine ⟨tree, hroot, List.forall_mem_singleton.1 htrees, ?_⟩
  rw [entriesAll_cons]
  exact List.append_nil _

end Shows

end CallTree

/-! ## What a job does -/

namespace Job

open CallTree

variable {σ α β : Type} {scope : Scope}
  {Good : Except ActionError α → List (Activity σ) → Prop}

/-- Within a scope, the job does some activities one after another, and `Good` holds of
its result and of them. -/
def Does (scope : Scope) (job : Job σ α)
    (Good : Except ActionError α → List (Activity σ) → Prop) : Prop :=
  job.Adds fun result lines => ∃ activities, Good result activities ∧
    Shows scope activities lines

theorem Does.mono {Better : Except ActionError α → List (Activity σ) → Prop}
    {job : Job σ α} (hjob : job.Does scope Good)
    (h : ∀ result activities, Good result activities → Better result activities) :
    job.Does scope Better := by
  refine Adds.mono hjob ?_
  rintro result lines ⟨activities, hgood, hshows⟩
  exact ⟨activities, h _ _ hgood, hshows⟩

theorem does_pure {value : α} (h : Good (.ok value) []) :
    (pure value : Job σ α).Does scope Good :=
  fun _ => ⟨[], (List.append_nil _).symm, [], h, .nil⟩

theorem does_fail {error : ActionError} (h : Good (.error error) []) :
    (fail error : Job σ α).Does scope Good :=
  fun _ => ⟨[], (List.append_nil _).symm, [], h, .nil⟩

theorem does_ask (repository : Repository σ) (scope : Scope) (asked : Call) :
    (ask repository asked).Does scope fun answer activities =>
      activities = [call asked (failure? answer)] :=
  adds_ask fun _ => ⟨_, rfl, .line rfl⟩

theorem does_emit {event : Event}
    {Emitted : Except ActionError Unit → List (Activity σ) → Prop}
    (h : Emitted (.ok ()) [.report event]) :
    (emit scope event : Job σ Unit).Does scope Emitted :=
  adds_emit ⟨_, h, .report event⟩

theorem does_bind {first : Job σ α} {next : α → Job σ β}
    {Then : Except ActionError β → List (Activity σ) → Prop}
    (hfirst : first.Does scope Good)
    (hnext : ∀ value before, Good (.ok value) before →
      (next value).Does scope fun result after => Then result (before ++ after))
    (herror : ∀ error before, Good (.error error) before → Then (.error error) before) :
    (first >>= next).Does scope Then := by
  refine adds_bind hfirst ?_ ?_
  · rintro value lines ⟨before, hgood, hshows⟩
    refine Adds.mono (hnext value before hgood) ?_
    rintro result more ⟨after, hthen, hlater⟩
    exact ⟨before ++ after, hthen, hshows.append hlater⟩
  · rintro error lines ⟨before, hgood, hshows⟩
    exact ⟨before, herror error before hgood, hshows⟩

/-- A result that is only looked at tells nothing new. -/
theorem does_bind_pure {first : Job σ α} {value : α → β}
    {Done : List (Activity σ) → Prop}
    (hfirst : first.Does scope fun _ activities => Done activities) :
    (first >>= fun answer => pure (value answer)).Does scope fun _ activities =>
      Done activities := by
  refine does_bind hfirst ?_ (fun _ _ hdone => hdone)
  intro answer before hdone
  refine does_pure ?_
  rwa [List.append_nil]

/-- The steps within a span become the node of an activity with that span. -/
theorem does_within {activity : Activity σ} {span : Span} {steps : Scope → Job σ α}
    (hspan : activity.opening? scope = some (.span span scope))
    (hopens : activity.span? = some span)
    (h : (steps (some span)).Does (some span) fun _ inside =>
      Comprises activity inside) :
    (within scope span steps).Does scope fun _ activities =>
      activities = [activity] := by
  refine adds_within (Adds.mono h ?_)
  rintro result lines ⟨inside, hcomprises, hshows⟩
  refine ⟨[activity], rfl, ?_⟩
  have hnode : Shows scope [activity] ((activity.opening? scope).toList ++ lines) := by
    refine .node hcomprises ?_
    rwa [hopens]
  rwa [hspan] at hnode

/-- Steps without a span around them become the node of an activity without one. -/
theorem does_part {activity : Activity σ} {job : Job σ α}
    (hopening : activity.opening? scope = none) (hopens : activity.span? = none)
    (h : job.Does scope fun _ inside => Comprises activity inside) :
    job.Does scope fun _ activities => activities = [activity] := by
  refine Adds.mono h ?_
  rintro result lines ⟨inside, hcomprises, hshows⟩
  refine ⟨[activity], rfl, ?_⟩
  have hnode : Shows scope [activity] ((activity.opening? scope).toList ++ lines) := by
    refine .node hcomprises ?_
    rwa [hopens]
  rwa [hopening] at hnode

end Job

end ContentBatch
