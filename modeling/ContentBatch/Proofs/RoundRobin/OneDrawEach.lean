import ContentBatch.RoundRobin.Basic
import Mathlib.Data.Int.CardIntervalMod

/-!
# One draw for each item

When a rotation serves items in turn, each item should get one value, the next item the
next value, and every value about as many items as any other.  An item that is attempted
several times takes several turns.  This module settles when the values come out as if
there had been one draw for each item.

Items are given by the turns of their attempts.  Nothing is known of them but that all
turns together are `0, 1, 2, …` in order, with none left out.

## Main results

* `oneDrawEach_iff`: one draw for each item is exactly what happens if the rotation has
  a single value or every item takes a single turn.
-/

namespace ContentBatch.RoundRobin

/-- A rotation of `size` values serves items with one value each.  All attempts for an
item use one value, the attempts for the next item use the next one, and of all items
every value serves an equal share, the first values one item more if the shares leave a
rest. -/
structure OneDrawEach (size : Nat) (items : List (List Nat)) : Prop where
  same : ∀ turns ∈ items, ∀ turn ∈ turns, ∀ other ∈ turns, turn % size = other % size
  consecutive : ∀ before turns following after,
      items = before ++ turns :: following :: after →
    ∀ turn ∈ turns, ∀ other ∈ following, other % size = (turn + 1) % size
  share : ∀ position < size,
    items.countP (fun turns => turns.any fun turn => turn % size == position) =
      items.length / size + if position < items.length % size then 1 else 0

variable {size total : Nat} {items : List (List Nat)}

/-- Two turns of an item that follow each other are consecutive numbers. -/
theorem next_turn {before after : List (List Nat)} {turn other : Nat} {turns : List Nat}
    (hflatten : items.flatten = List.range total)
    (hitems : items = before ++ (turn :: other :: turns) :: after) : other = turn + 1 :=
  by
  have hsplit : List.range total =
      before.flatten ++ turn :: other :: (turns ++ after.flatten) := by
    rw [← hflatten, hitems, List.flatten_append, List.flatten_cons]
    rfl
  have hturn : (List.range total)[before.flatten.length]? = some turn := by
    rw [hsplit, List.getElem?_append_right (Nat.le_refl _), Nat.sub_self]
    rfl
  have hother : (List.range total)[before.flatten.length + 1]? = some other := by
    rw [hsplit, List.getElem?_append_right (Nat.le_add_right _ 1),
      Nat.add_sub_cancel_left]
    rfl
  rw [List.getElem?_eq_some_iff] at hturn hother
  obtain ⟨hlt, hturn⟩ := hturn
  obtain ⟨hlt', hother⟩ := hother
  rw [List.getElem_range] at hturn hother
  omega

/-- With several values, one draw for each item leaves no item a second turn. -/
theorem OneDrawEach.length_eq_one (heach : OneDrawEach size items) (hsize : 1 < size)
    (hflatten : items.flatten = List.range total)
    (hnonempty : ∀ turns ∈ items, turns ≠ []) :
    ∀ turns ∈ items, turns.length = 1 := by
  intro turns hturns
  match turns, hturns with
  | [], hturns => exact absurd rfl (hnonempty [] hturns)
  | [turn], _ => rfl
  | turn :: other :: turns, hturns =>
      obtain ⟨before, after, hitems⟩ := List.append_of_mem hturns
      have hnext := next_turn hflatten hitems
      have hsame : turn % size = other % size :=
        heach.same _ hturns turn List.mem_cons_self other
          (List.mem_cons_of_mem _ List.mem_cons_self)
      rw [hnext] at hsame
      have hone : 1 % size = 1 := Nat.mod_eq_of_lt hsize
      have hzero : 0 ≡ 1 [MOD size] := Nat.ModEq.add_left_cancel' turn hsame
      rw [Nat.ModEq, Nat.zero_mod, hone] at hzero
      omega

/-- A single value is the same for everybody. -/
theorem oneDrawEach_one
    (hnonempty : ∀ turns ∈ items, turns ≠ []) : OneDrawEach 1 items := by
  constructor
  case same =>
    intro turns _ turn _ other _
    rw [Nat.mod_one, Nat.mod_one]
  case consecutive =>
    intro before turns following after _ turn _ other _
    rw [Nat.mod_one, Nat.mod_one]
  case share =>
    intro position hposition
    obtain rfl : position = 0 := by omega
    have hall : ∀ turns ∈ items, (turns.any fun turn => turn % 1 == 0) = true := by
      intro turns hturns
      obtain ⟨turn, hturn⟩ := List.exists_mem_of_ne_nil turns (hnonempty turns hturns)
      exact List.any_eq_true.2 ⟨turn, hturn, by rw [Nat.mod_one]; rfl⟩
    rw [List.countP_eq_length.2 hall, Nat.div_one, Nat.mod_one]
    rfl

/-- Items with one turn each take the turns one after another. -/
theorem eq_map_range (hflatten : items.flatten = List.range total)
    (hlength : ∀ turns ∈ items, turns.length = 1) :
    items = (List.range items.length).map fun turn => [turn] := by
  have hsingle : items = items.flatten.map fun turn => [turn] := by
    clear hflatten
    induction items with
    | nil => rfl
    | cons turns items ih =>
        rw [List.forall_mem_cons] at hlength
        obtain ⟨turn, rfl⟩ := List.length_eq_one_iff.1 hlength.1
        rw [List.flatten_cons, List.singleton_append, List.map_cons, ← ih hlength.2]
  rw [hflatten] at hsingle
  have htotal : items.length = total := by
    rw [hsingle, List.length_map, List.length_range]
  rw [htotal]
  exact hsingle

theorem turns_of_index {index : Nat} {turns : List Nat}
    (hitems : items = (List.range items.length).map fun turn => [turn])
    (hturns : items[index]? = some turns) : turns = [index] := by
  rw [hitems, List.getElem?_map, Option.map_eq_some_iff] at hturns
  obtain ⟨turn, hturn, rfl⟩ := hturns
  obtain ⟨_, hturn⟩ := List.getElem?_eq_some_iff.1 hturn
  rw [List.getElem_range] at hturn
  rw [hturn]

/-- How many of the first numbers have a remainder. -/
theorem countP_range_mod (hsize : 0 < size) {position : Nat}
    (hposition : position < size) (count : Nat) :
    (List.range count).countP (fun turn => turn % size == position) =
      count / size + if position < count % size then 1 else 0 := by
  have hcard := Nat.count_modEq_card count hsize position
  rw [Nat.mod_eq_of_lt hposition] at hcard
  rw [← hcard]
  refine List.countP_congr ?_
  intro turn _
  rw [beq_iff_eq, decide_eq_true_eq]
  show turn % size = position ↔ turn % size = position % size
  rw [Nat.mod_eq_of_lt hposition]

/-- One turn for each item is one draw for each item. -/
theorem oneDrawEach_of_length (hsize : 0 < size)
    (hflatten : items.flatten = List.range total)
    (hlength : ∀ turns ∈ items, turns.length = 1) : OneDrawEach size items := by
  have hitems := eq_map_range hflatten hlength
  constructor
  case same =>
    intro turns hturns turn hturn other hother
    obtain ⟨only, rfl⟩ := List.length_eq_one_iff.1 (hlength turns hturns)
    rw [List.mem_singleton.1 hturn, List.mem_singleton.1 hother]
  case consecutive =>
    intro before turns following after heq turn hturn other hother
    have hfirst : items[before.length]? = some turns := by
      rw [heq, List.getElem?_append_right (Nat.le_refl _), Nat.sub_self]
      rfl
    have hsecond : items[before.length + 1]? = some following := by
      rw [heq, List.getElem?_append_right (Nat.le_add_right _ 1),
        Nat.add_sub_cancel_left]
      rfl
    obtain rfl := turns_of_index hitems hfirst
    obtain rfl := turns_of_index hitems hsecond
    rw [List.mem_singleton.1 hturn, List.mem_singleton.1 hother]
  case share =>
    intro position hposition
    rw [hitems, List.countP_map, List.length_map, List.length_range,
      ← countP_range_mod hsize hposition]
    refine List.countP_congr ?_
    intro turn _
    simp

/-- One draw for each item is exactly what happens if there is one value or one turn for
each item. -/
theorem oneDrawEach_iff (hsize : 0 < size) (hflatten : items.flatten = List.range total)
    (hnonempty : ∀ turns ∈ items, turns ≠ []) :
    OneDrawEach size items ↔ size = 1 ∨ ∀ turns ∈ items, turns.length = 1 := by
  constructor
  · intro heach
    by_cases hone : size = 1
    · exact .inl hone
    · exact .inr (heach.length_eq_one (by omega) hflatten hnonempty)
  · rintro (rfl | hlength)
    · exact oneDrawEach_one hnonempty
    · exact oneDrawEach_of_length hsize hflatten hlength

end ContentBatch.RoundRobin
