import ContentBatch.RoundRobin.Rota

/-!
# Many cursors go round on their own

All cursors of a rota share one list, and a shared cursor may take over the place of a
private one.  What a cursor does next depends on nothing but how often it was drawn
from: it stands at that number modulo the length of the list.

The number is a matter of the requests alone.  `drawn` counts it in a history of
requests, without looking at any cursor: a draw counts once, skipped values count too, a
new cursor starts from nothing, and a cursor that is moved takes its count along.
`Follows` says that a rota is where its history has left it.

Histories have the latest request first.

## Main results

* `Follows.answer`: what a rota answers, and that it goes on following its history.
* `Follows.answers`: the same for any number of requests.
* `cursors_cyclic_and_independent`: all cursors of a rota, at all times.
-/

namespace ContentBatch.RoundRobin

variable {α : Type}

/-! ## Histories of requests -/

/-- Whether a cursor is private or shared. -/
inductive Kind where
  | own
  | shared
  deriving DecidableEq, Repr

/-- A cursor by its number among those of its kind. -/
structure Handle where
  kind : Kind
  number : Nat
  deriving DecidableEq, Repr

namespace Request

/-- The cursor that a request is about. -/
def handle? : Request → Option Handle
  | next number => some ⟨.own, number⟩
  | position number => some ⟨.own, number⟩
  | bounds number => some ⟨.own, number⟩
  | take number _ => some ⟨.own, number⟩
  | nth number _ => some ⟨.own, number⟩
  | shareFrom number => some ⟨.own, number⟩
  | advance number => some ⟨.shared, number⟩
  | _ => none

/-- The kind of cursor that a request makes. -/
def makes? : Request → Option Kind
  | newCursor => some .own
  | newShared => some .shared
  | shareFrom _ => some .shared
  | _ => none

/-- How many values a request takes from its cursor, those that are skipped included. -/
def draws : Request → Nat
  | next _ => 1
  | take _ count => count
  | nth _ count => count + 1
  | advance _ => 1
  | _ => 0

end Request

/-- How many cursors of a kind were made. -/
def made (past : List Request) (kind : Kind) : Nat :=
  past.countP fun request => request.makes? == some kind

/-- How often a cursor was drawn from.  The count of a private cursor that is moved goes
over to the shared cursor that takes its place. -/
def drawn : List Request → Handle → Nat
  | [], _ => 0
  | .newCursor :: past, handle =>
    if handle = ⟨.own, made past .own⟩ then 0 else drawn past handle
  | .newShared :: past, handle =>
    if handle = ⟨.shared, made past .shared⟩ then 0 else drawn past handle
  | .shareFrom number :: past, handle =>
    if handle = ⟨.shared, made past .shared⟩ then drawn past ⟨.own, number⟩
    else if handle = ⟨.own, number⟩ then 0
    else drawn past handle
  | request :: past, handle =>
    drawn past handle + if request.handle? = some handle then request.draws else 0

/-- What is to be answered after a history. -/
def told (rotation : RoundRobin α) (past : List Request) : Request → Answer α
  | .size => .number rotation.size
  | .values => .values rotation.values
  | .newCursor => .number (made past .own)
  | .next number => .value (rotation.turn (drawn past ⟨.own, number⟩))
  | .position number => .number (drawn past ⟨.own, number⟩ % rotation.size)
  | .bounds _ => .endless
  | .take number count =>
    .values ((List.range count).map fun k =>
      rotation.turn (drawn past ⟨.own, number⟩ + k))
  | .nth number count => .value (rotation.turn (drawn past ⟨.own, number⟩ + count))
  | .newShared => .number (made past .shared)
  | .shareFrom _ => .number (made past .shared)
  | .advance number => .value (rotation.turn (drawn past ⟨.shared, number⟩))

/-- If a request is about a cursor, then about one that was made. -/
def Addressed (past : List Request) (request : Request) : Prop :=
  ∀ handle ∈ request.handle?, handle.number < made past handle.kind

instance (past : List Request) (request : Request) :
    Decidable (Addressed past request) :=
  inferInstanceAs
    (Decidable (∀ handle ∈ request.handle?, handle.number < made past handle.kind))

/-- Requests one after another are about cursors that were made by then. -/
def AllAddressed : List Request → List Request → Prop
  | _, [] => True
  | past, request :: requests =>
    Addressed past request ∧ AllAddressed (request :: past) requests

/-- What is to be answered to requests one after another. -/
def allTold (rotation : RoundRobin α) : List Request → List Request → List (Answer α)
  | _, [] => []
  | past, request :: requests =>
    told rotation past request :: allTold rotation (request :: past) requests

/-! ## The cursors of a rota -/

variable {rotation : RoundRobin α} {past requests : List Request} {rota : Rota rotation}
  {request : Request} {kind : Kind} {handle : Handle} {cursor moved : Cursor rotation}
  {count number : Nat}

namespace Rota

/-- The cursors of a kind. -/
def list (rota : Rota rotation) : Kind → List (Cursor rotation)
  | .own => rota.cursors
  | .shared => rota.shared

/-- The rota with other cursors of a kind. -/
def withList (rota : Rota rotation) (kind : Kind)
    (cursors : List (Cursor rotation)) : Rota rotation :=
  match kind with
  | .own => { rota with cursors }
  | .shared => { rota with shared := cursors }

/-- The cursor with a handle. -/
def cursor? (rota : Rota rotation) (handle : Handle) : Option (Cursor rotation) :=
  (rota.list handle.kind)[handle.number]?

/-- The rota with another cursor in the place of one that it has. -/
def setCursor (rota : Rota rotation) (handle : Handle)
    (cursor : Cursor rotation) : Rota rotation :=
  rota.withList handle.kind ((rota.list handle.kind).set handle.number cursor)

/-- The rota with one more cursor. -/
def add (rota : Rota rotation) (kind : Kind)
    (cursor : Cursor rotation) : Rota rotation :=
  rota.withList kind (rota.list kind ++ [cursor])

theorem list_withList (cursors : List (Cursor rotation)) (other : Kind) :
    (rota.withList kind cursors).list other = if kind =
      other then cursors else rota.list other := by
  cases kind <;> cases other <;> rfl

theorem length_setCursor (other : Kind) :
    ((rota.setCursor handle moved).list other).length = (rota.list other).length := by
  rw [setCursor, list_withList]
  by_cases hother : handle.kind = other
  · rw [if_pos hother, List.length_set, hother]
  · rw [if_neg hother]

theorem length_add (other : Kind) :
    ((rota.add kind cursor).list other).length =
      (rota.list other).length + if kind = other then 1 else 0 := by
  rw [add, list_withList]
  by_cases hother : kind = other
  · rw [if_pos hother, if_pos hother, List.length_append, List.length_singleton, hother]
  · rw [if_neg hother, if_neg hother, Nat.add_zero]

theorem cursor?_setCursor (hcursor : rota.cursor? handle = some cursor)
    (other : Handle) :
    (rota.setCursor handle moved).cursor? other =
      if handle = other then some moved else rota.cursor? other := by
  obtain ⟨hlt, -⟩ := List.getElem?_eq_some_iff.1 hcursor
  obtain ⟨kind, number⟩ := handle
  obtain ⟨kind', number'⟩ := other
  rw [cursor?, setCursor, list_withList]
  by_cases hkind : kind = kind'
  · subst hkind
    rw [if_pos rfl, List.getElem?_set, if_pos hlt]
    simp only [Handle.mk.injEq, true_and]
    rfl
  · rw [if_neg hkind, if_neg (fun heq => hkind (congrArg Handle.kind heq))]
    rfl

theorem cursor?_add (other : Handle) :
    (rota.add kind cursor).cursor? other =
      if other = ⟨kind, (rota.list kind).length⟩ then
        some cursor else rota.cursor? other := by
  obtain ⟨kind', number⟩ := other
  rw [cursor?, add, list_withList]
  by_cases hkind : kind = kind'
  · subst hkind
    simp only [Handle.mk.injEq, true_and, cursor?]
    grind
  · rw [if_neg hkind, if_neg (fun heq => hkind (congrArg Handle.kind heq).symm)]
    rfl

/-- One more cursor leaves the others as they are. -/
theorem cursor?_add_of_some (hcursor : rota.cursor? handle = some moved) :
    (rota.add kind cursor).cursor? handle = some moved := by
  rw [cursor?_add, if_neg ?_]
  · exact hcursor
  · rintro rfl
    exact Nat.lt_irrefl _ (List.getElem?_eq_some_iff.1 hcursor).1

theorem withCursor_eq (hcursor : rota.cursor? ⟨.own, number⟩ = some cursor)
    (move : Cursor rotation → Answer α × Cursor rotation) :
    rota.withCursor number move =
      some ((move cursor).1, rota.setCursor ⟨.own, number⟩ (move cursor).2) := by
  have hnumber : rota.cursors[number]? = some cursor := hcursor
  rw [withCursor, hnumber]
  rfl

/-- A request that is answered is about a cursor that there is. -/
theorem exists_cursor_of_answer {result : Answer α × Rota rotation}
    (hanswer : rota.answer request = some result)
    (hhandle : request.handle? = some handle) :
    ∃ cursor, rota.cursor? handle = some cursor := by
  cases request with
  | size => cases hhandle
  | values => cases hhandle
  | newCursor => cases hhandle
  | newShared => cases hhandle
  | _ =>
      cases hhandle
      obtain ⟨cursor, hcursor, -⟩ := Option.map_eq_some_iff.1 hanswer
      exact ⟨cursor, hcursor⟩

end Rota

/-! ## A rota and its history -/

/-- The rota that a history of requests has led to. -/
inductive Reached (rotation : RoundRobin α) : List Request → Rota rotation → Prop where
  | start : Reached rotation [] {}
  | step {past : List Request} {request : Request} {rota next : Rota rotation}
      {answer : Answer α} :
      Reached rotation past rota → rota.answer request = some (answer, next) →
      Reached rotation (request :: past) next

/-- A rota is where its history has left it. -/
structure Follows (rota : Rota rotation) (past : List Request) : Prop where
  count : ∀ kind, (rota.list kind).length = made past kind
  position : ∀ handle cursor, rota.cursor? handle = some cursor →
    cursor.position = drawn past handle % rotation.size

/-- A request leaves the cursors that it is not about as they are. -/
def KeepsOthers (request : Request) (before after : Rota rotation) : Prop :=
  ∀ handle cursor, before.cursor? handle = some cursor → request.handle? ≠ some handle →
    after.cursor? handle = some cursor

theorem made_cons (request : Request) (past : List Request) (kind : Kind) :
    made (request :: past) kind = made past kind + if request.makes? =
      some kind then 1 else 0 := by
  rw [made, List.countP_cons]
  simp only [beq_iff_eq]
  rfl

theorem turn_mod_add (rotation : RoundRobin α) (count more : Nat) :
    rotation.turn (count % rotation.size + more) = rotation.turn (count + more) := by
  rw [← rotation.turn_mod (count % rotation.size + more), Nat.mod_add_mod,
    rotation.turn_mod]

theorem follows_start : Follows ({} : Rota rotation) [] where
  count := by rintro (_ | _) <;> rfl
  position := by rintro ⟨_ | _, number⟩ cursor ⟨⟩

namespace Follows

theorem exists_cursor_iff (h : Follows rota past) (handle : Handle) :
    (∃ cursor, rota.cursor? handle = some cursor) ↔
    handle.number < made past handle.kind := by
  rw [← h.count]
  exact ⟨fun ⟨_, hcursor⟩ => (List.getElem?_eq_some_iff.1 hcursor).1,
    fun hlt => ⟨_, List.getElem?_eq_getElem hlt⟩⟩

/-- The value of the next draw, and of those after it. -/
theorem turn_position (h : Follows rota past)
    (hcursor : rota.cursor? handle = some cursor) (more : Nat) :
    rotation.turn (cursor.position + more) =
      rotation.turn (drawn past handle + more) := by
  rw [h.position handle cursor hcursor, turn_mod_add]

/-- A cursor that is drawn from moves on by as many places, and the others stay where
they are. -/
theorem move (h : Follows rota past) (hcursor : rota.cursor? handle = some cursor)
    (hmoved : moved.position = (cursor.position + count) % rotation.size)
    (hhandle : request.handle? = some handle) (hmakes : request.makes? = none)
    (hdrawn : ∀ other, drawn (request :: past) other =
      drawn past other + if some handle = some other then count else 0) :
    Follows (rota.setCursor handle moved) (request :: past) ∧
      KeepsOthers request rota (rota.setCursor handle moved) := by
  refine ⟨⟨?count, ?position⟩, ?others⟩
  case count =>
    intro kind
    rw [Rota.length_setCursor, made_cons, hmakes, if_neg nofun]
    exact h.count kind
  case position =>
    intro other found hfound
    rw [Rota.cursor?_setCursor hcursor] at hfound
    rw [hdrawn]
    by_cases hother : handle = other
    · subst hother
      rw [if_pos rfl] at hfound ⊢
      cases hfound
      rw [hmoved, h.position handle cursor hcursor, Nat.mod_add_mod]
    · rw [if_neg hother] at hfound
      rw [if_neg (fun heq => hother (Option.some.inj heq)), Nat.add_zero]
      exact h.position other found hfound
  case others =>
    intro other found hfound hother
    rw [Rota.cursor?_setCursor hcursor, if_neg ?_]
    · exact hfound
    · rintro rfl
      exact hother hhandle

/-- A new cursor starts at the first value. -/
theorem add (h : Follows rota past) (hmakes : request.makes? = some kind)
    (hdrawn : ∀ other, drawn (request :: past) other = if other =
      ⟨kind, made past kind⟩ then 0 else drawn past other) :
    Follows (rota.add kind (.start rotation)) (request :: past) ∧
      KeepsOthers request rota (rota.add kind (.start rotation)) := by
  refine ⟨⟨?count, ?position⟩, fun _ _ hcursor _ => Rota.cursor?_add_of_some hcursor⟩
  case count =>
    intro other
    rw [Rota.length_add, made_cons, hmakes, h.count]
    simp only [Option.some.injEq]
  case position =>
    intro other found hfound
    rw [Rota.cursor?_add, h.count] at hfound
    rw [hdrawn]
    by_cases hnew : other = ⟨kind, made past kind⟩
    · rw [if_pos hnew] at hfound ⊢
      cases hfound
      exact (Nat.zero_mod _).symm
    · rw [if_neg hnew] at hfound ⊢
      exact h.position other found hfound

/-- A private cursor hands its place over to a new shared one and starts again. -/
theorem shareFrom (h : Follows rota past)
    (hcursor : rota.cursor? ⟨.own, number⟩ = some cursor) :
    let next := (rota.setCursor ⟨.own, number⟩ (.start rotation)).add .shared cursor
    Follows next (.shareFrom number :: past) ∧
    KeepsOthers (.shareFrom number) rota next := by
  intro next
  have hplace (other : Handle) : next.cursor? other =
      if other = ⟨.shared, made past .shared⟩ then some cursor
      else if ⟨.own, number⟩ = other then some (.start rotation)
      else rota.cursor? other := by
    rw [Rota.cursor?_add, Rota.cursor?_setCursor hcursor,
      Rota.length_setCursor, h.count]
  refine ⟨⟨?count, ?position⟩, ?others⟩
  case count =>
    intro kind
    rw [Rota.length_add, Rota.length_setCursor, made_cons, h.count]
    simp only [Request.makes?, Option.some.injEq]
  case position =>
    intro other found hfound
    rw [hplace] at hfound
    rw [drawn]
    by_cases hnew : other = ⟨.shared, made past .shared⟩
    · rw [if_pos hnew] at hfound ⊢
      cases hfound
      exact h.position _ cursor hcursor
    rw [if_neg hnew] at hfound ⊢
    by_cases hleft : ⟨.own, number⟩ = other
    · rw [if_pos hleft] at hfound
      rw [if_pos hleft.symm]
      cases hfound
      exact (Nat.zero_mod _).symm
    · rw [if_neg hleft] at hfound
      rw [if_neg (Ne.symm hleft)]
      exact h.position other found hfound
  case others =>
    intro other found hfound hother
    refine Rota.cursor?_add_of_some ?_
    rw [Rota.cursor?_setCursor hcursor, if_neg (fun heq => hother (congrArg some heq))]
    exact hfound

/-- A rota answers every request about a cursor that it has, as the history tells, and
follows the history that the request has joined.  Only the cursor that the request is
about may change. -/
theorem answer (h : Follows rota past) (haddressed : Addressed past request) :
    ∃ next, rota.answer request = some (told rotation past request, next) ∧
      Follows next (request :: past) ∧ KeepsOthers request rota next := by
  have hexists {handle : Handle} (hhandle : request.handle? = some handle) :
      ∃ cursor, rota.cursor? handle = some cursor :=
    (h.exists_cursor_iff handle).2 (haddressed handle hhandle)
  have hstays (cursor : Cursor rotation) :
      cursor.position = (cursor.position + 0) % rotation.size :=
    (Nat.mod_eq_of_lt cursor.position_lt).symm
  have hskip (cursor : Cursor rotation) (count : Nat) :
      (cursor.skip count).position = (cursor.position + count) % rotation.size := rfl
  cases request with
  | size => exact ⟨rota, rfl, ⟨h.count, h.position⟩, fun _ _ hcursor _ => hcursor⟩
  | values => exact ⟨rota, rfl, ⟨h.count, h.position⟩, fun _ _ hcursor _ => hcursor⟩
  | newCursor =>
      refine ⟨rota.add .own (.start rotation), ?_, h.add rfl fun _ => rfl⟩
      rw [told, ← h.count]
      rfl
  | next number =>
      obtain ⟨cursor, hcursor⟩ := hexists rfl
      refine ⟨rota.setCursor ⟨.own, number⟩ (cursor.skip 1), ?_,
        h.move hcursor (hskip cursor 1) rfl rfl fun _ => rfl⟩
      rw [Rota.answer, Rota.withCursor_eq hcursor, told, ← Nat.add_zero (drawn past _),
        ← h.turn_position hcursor]
      rfl
  | position number =>
      obtain ⟨cursor, hcursor⟩ := hexists rfl
      refine ⟨rota.setCursor ⟨.own, number⟩ cursor, ?_,
        h.move hcursor (hstays cursor) rfl rfl fun _ => rfl⟩
      rw [Rota.answer, Rota.withCursor_eq hcursor, told, ← h.position _ cursor hcursor]
  | bounds number =>
      obtain ⟨cursor, hcursor⟩ := hexists rfl
      refine ⟨rota.setCursor ⟨.own, number⟩ cursor, ?_,
        h.move hcursor (hstays cursor) rfl rfl fun _ => rfl⟩
      rw [Rota.answer, Rota.withCursor_eq hcursor, told]
  | take number count =>
      obtain ⟨cursor, hcursor⟩ := hexists rfl
      refine ⟨rota.setCursor ⟨.own, number⟩ (cursor.draws count).2, ?_,
        h.move hcursor (Cursor.draws_position count cursor) rfl rfl fun _ => rfl⟩
      rw [Rota.answer, Rota.withCursor_eq hcursor, told]
      simp only [Cursor.draws_fst, h.turn_position hcursor]
  | nth number count =>
      obtain ⟨cursor, hcursor⟩ := hexists rfl
      have hposition : ((cursor.skip count).skip 1).position =
          (cursor.position + (count + 1)) % rotation.size := Nat.mod_add_mod _ _ _
      refine ⟨rota.setCursor ⟨.own, number⟩ ((cursor.skip count).skip 1), ?_,
        h.move hcursor hposition rfl rfl fun _ => rfl⟩
      rw [Rota.answer, Rota.withCursor_eq hcursor, told, ← h.turn_position hcursor,
        ← rotation.turn_mod (cursor.position + count)]
      rfl
  | newShared =>
      refine ⟨rota.add .shared (.start rotation), ?_, h.add rfl fun _ => rfl⟩
      rw [told, ← h.count]
      rfl
  | shareFrom number =>
      obtain ⟨cursor, hcursor⟩ := hexists rfl
      have hnumber : rota.cursors[number]? = some cursor := hcursor
      refine ⟨_, ?_, h.shareFrom hcursor⟩
      rw [Rota.answer, hnumber, told, ← h.count]
      rfl
  | advance number =>
      obtain ⟨cursor, hcursor⟩ := hexists rfl
      have hnumber : rota.shared[number]? = some cursor := hcursor
      refine ⟨rota.setCursor ⟨.shared, number⟩ (cursor.skip 1), ?_,
        h.move hcursor (hskip cursor 1) rfl rfl fun _ => rfl⟩
      rw [Rota.answer, hnumber,
        told, ← Nat.add_zero (drawn past _), ← h.turn_position hcursor]
      rfl

/-- Requests one after another are answered as the history tells. -/
theorem answers (h : Follows rota past) (haddressed : AllAddressed past requests) :
    rota.answers requests = some (allTold rotation past requests) := by
  induction requests generalizing rota past with
  | nil => rfl
  | cons request requests ih =>
      obtain ⟨next, hanswer, hnext, -⟩ := h.answer haddressed.1
      rw [Rota.answers, hanswer]
      show (next.answers requests >>= _) = _
      rw [ih hnext haddressed.2]
      rfl

end Follows

/-- Every rota that requests lead to follows its history. -/
theorem Reached.follows (h : Reached rotation past rota) : Follows rota past := by
  induction h with
  | start => exact follows_start
  | step _ hanswer ih =>
      obtain ⟨next, hnext, hfollows, -⟩ := ih.answer fun handle hhandle =>
        (ih.exists_cursor_iff handle).1 (Rota.exists_cursor_of_answer hanswer hhandle)
      rw [hanswer] at hnext
      cases hnext
      exact hfollows

/-! ## All cursors at all times -/

theorem getElem?_turn (rotation : RoundRobin α) (count : Nat) :
    rotation.values[count % rotation.size]? = some (rotation.turn count) :=
  List.getElem?_eq_getElem (Nat.mod_lt count rotation.size_pos)

/-- Requests about cursors that were made by then are all answered, and the answers are
those that the counts of draws tell.  Whatever requests were made, there are exactly the
cursors that were asked for.  Each stands at the number of its draws modulo the length
of the list, so it stands at a value, and the number of the place after it is within
every bound that the length is within.  The next request is answered again, and changes
no cursor but the one that it is about. -/
theorem cursors_cyclic_and_independent (rotation : RoundRobin α) :
    (∀ requests, AllAddressed [] requests →
      ({} : Rota rotation).answers requests = some (allTold rotation [] requests)) ∧
    ∀ past (rota : Rota rotation), Reached rotation past rota →
      (∀ handle, (∃ cursor, rota.cursor? handle = some cursor) ↔
        handle.number < made past handle.kind) ∧
      (∀ handle cursor, rota.cursor? handle = some cursor →
        cursor.position = drawn past handle % rotation.size ∧
          rotation.values[cursor.position]? = some (rotation.turn (drawn past handle)) ∧
          ∀ largest, rotation.size ≤ largest → cursor.position + 1 ≤ largest) ∧
      ∀ request, Addressed past request →
        ∃ next, rota.answer request = some (told rotation past request, next) ∧
          Reached rotation (request :: past) next ∧ KeepsOthers request rota next := by
  refine ⟨fun requests => follows_start.answers, ?_⟩
  intro past rota hreached
  have hfollows := hreached.follows
  refine ⟨hfollows.exists_cursor_iff, ?_, ?_⟩
  · intro handle cursor hcursor
    have hposition := hfollows.position handle cursor hcursor
    refine ⟨hposition, ?_, ?_⟩
    · rw [hposition]
      exact getElem?_turn rotation _
    · intro largest hsize
      exact Nat.le_trans cursor.position_lt hsize
  · intro request haddressed
    obtain ⟨next, hanswer, -, hothers⟩ := hfollows.answer haddressed
    exact ⟨next, hanswer, .step hreached hanswer, hothers⟩

/-- Three letters in turn. -/
def letters : RoundRobin Char := ⟨['A', 'B', 'C'], List.cons_ne_nil _ _⟩

/-- Five values are skipped or drawn before a cursor is moved, and the shared cursor
goes on from there. -/
theorem moved_cursor_goes_on :
    let requests : List Request :=
      [.newCursor, .nth 0 4, .shareFrom 0, .advance 0, .next 0, .advance 0]
    let past : List Request := [.nth 0 4, .newCursor]
    AllAddressed [] requests ∧
      ({} : Rota letters).answers requests =
        some [.number 0, .value 'B', .number 0, .value 'C', .value 'A', .value 'A'] ∧
      ∃ rota : Rota letters, Reached letters past rota ∧ Addressed past (.shareFrom 0) ∧
        ∃ next, rota.answer (.shareFrom 0) = some (.number 0, next) ∧
          ∃ cursor, next.cursor? ⟨.shared, 0⟩ = some cursor ∧ cursor.position = 2 := by
  intro requests past
  have hrequests : AllAddressed [] requests :=
    ⟨by decide, by decide, by decide, by decide, by decide, by decide, trivial⟩
  obtain ⟨hanswers, hreached⟩ := cursors_cyclic_and_independent letters
  obtain ⟨-, -, hstep⟩ := hreached [] {} .start
  obtain ⟨first, -, hfirst, -⟩ := hstep .newCursor (by decide)
  obtain ⟨-, -, hstep⟩ := hreached _ first hfirst
  obtain ⟨rota, -, hrota, -⟩ := hstep (.nth 0 4) (by decide)
  obtain ⟨-, -, hstep⟩ := hreached _ rota hrota
  obtain ⟨next, hanswer, hnext, -⟩ := hstep (.shareFrom 0) (by decide)
  obtain ⟨hexists, hcursors, -⟩ := hreached _ next hnext
  obtain ⟨cursor, hcursor⟩ := (hexists ⟨.shared, 0⟩).2 (by decide)
  have hposition : cursor.position = 2 :=
    (hcursors _ cursor hcursor).1.trans (by decide)
  exact ⟨hrequests, hanswers requests hrequests, rota, hrota, by decide, next, hanswer,
    cursor, hcursor, hposition⟩

end ContentBatch.RoundRobin
