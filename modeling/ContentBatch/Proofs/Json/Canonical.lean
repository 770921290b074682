import Mathlib.Data.String.Basic
import ContentBatch.Proofs.Json.Written

/-!
# Canonical JSON

The canonical form of a value has the members of every object in the order of their
names, and no name twice. It is its own canonical form, and it is not nested deeper than
the value.

A list of members in canonical form is determined by its entries: putting them in one by
one, in whatever order, gives the same list again.

## Main results

* `canonicalMembers?_of_perm`: canonical members, in any order, come to the same list.
* `canonical?_fixed`: the canonical form of a canonical form is that form.
* `depth_canonical?_le`: the canonical form is not nested deeper.
-/

namespace ContentBatch.Json

/-- Members in the order of their names, none twice. -/
def Ordered (members : List (String × Json)) : Prop :=
  members.Pairwise fun first second => first.1 < second.1

/-- Members whose values are their own canonical forms. -/
def Fixed (members : List (String × Json)) : Prop :=
  ∀ member ∈ members, canonical? member.2 = some member.2

variable {name : String} {value : Json} {members sorted result : List (String × Json)}

/-! ## Putting a member in its place -/

theorem mem_insertMember {member : String × Json}
    (h : member ∈ insertMember name value sorted) :
    member = (name, value) ∨ member ∈ sorted := by
  induction sorted with
  | nil => exact .inl (List.mem_singleton.1 h)
  | cons entry rest ih =>
      obtain ⟨key, old⟩ := entry
      rw [insertMember] at h
      split at h
      · exact List.mem_cons.1 h
      · split at h
        · rcases List.mem_cons.1 h with hNew | hRest
          · exact .inl hNew
          · exact .inr (List.mem_cons_of_mem _ hRest)
        · rcases List.mem_cons.1 h with hFirst | hRest
          · exact .inr (hFirst ▸ List.mem_cons_self)
          · rcases ih hRest with hNew | hOld
            · exact .inl hNew
            · exact .inr (List.mem_cons_of_mem _ hOld)

theorem Ordered.insertMember (h : Ordered sorted) :
    Ordered (insertMember name value sorted) := by
  induction sorted with
  | nil => exact List.pairwise_singleton _ _
  | cons entry rest ih =>
      obtain ⟨key, old⟩ := entry
      obtain ⟨hFirst, hRest⟩ := List.pairwise_cons.1 h
      rw [Json.insertMember]
      split
      · rename_i hBefore
        refine List.pairwise_cons.2 ⟨?_, h⟩
        intro member hMember
        rcases List.mem_cons.1 hMember with rfl | hMember
        · exact hBefore
        · exact lt_trans hBefore (hFirst member hMember)
      · rename_i hNotBefore
        split
        · rename_i hSame
          subst hSame
          exact List.pairwise_cons.2 ⟨hFirst, hRest⟩
        · rename_i hOther
          refine List.pairwise_cons.2 ⟨?_, ih hRest⟩
          intro member hMember
          rcases mem_insertMember hMember with rfl | hMember
          · exact lt_of_le_of_ne (not_lt.1 hNotBefore) (Ne.symm hOther)
          · exact hFirst member hMember

/-- A new name adds a member and leaves the others. -/
theorem insertMember_perm (h : ∀ member ∈ sorted, member.1 ≠ name) :
    (insertMember name value sorted).Perm ((name, value) :: sorted) := by
  induction sorted with
  | nil => exact .refl _
  | cons entry rest ih =>
      obtain ⟨key, old⟩ := entry
      rw [insertMember]
      split
      · exact .refl _
      · rw [if_neg (Ne.symm (h (key, old) List.mem_cons_self))]
        have hRest := ih fun member hMember => h member (List.mem_cons_of_mem _ hMember)
        exact (hRest.cons _).trans (.swap _ _ _)

/-! ## All members -/

theorem canonicalMembers?_cons {rest : List (String × Json)} :
    canonicalMembers? ((name, value) :: rest) sorted =
      (canonical? value).bind fun value =>
        canonicalMembers? rest (insertMember name value sorted) := rfl

theorem Ordered.canonicalMembers? (h : Ordered sorted)
    (hResult : canonicalMembers? members sorted = some result) : Ordered result := by
  induction members generalizing sorted with
  | nil =>
      cases hResult
      exact h
  | cons member rest ih =>
      obtain ⟨value, -, hRest⟩ := Option.bind_eq_some_iff.1 hResult
      exact ih h.insertMember hRest

/-- What holds of the canonical forms of all members holds of the result. -/
theorem forall_canonicalMembers? {P : Json → Prop}
    (hSorted : ∀ member ∈ sorted, P member.2)
    (hMembers : ∀ member ∈ members, ∀ value, canonical? member.2 = some value → P value)
    (hResult : canonicalMembers? members sorted = some result) :
    ∀ member ∈ result, P member.2 := by
  induction members generalizing sorted with
  | nil =>
      cases hResult
      exact hSorted
  | cons member rest ih =>
      obtain ⟨value, hValue, hRest⟩ := Option.bind_eq_some_iff.1 hResult
      refine ih ?_ (fun member hMember =>
        hMembers member (List.mem_cons_of_mem _ hMember)) hRest
      intro entry hEntry
      rcases mem_insertMember hEntry with rfl | hOld
      · exact hMembers member List.mem_cons_self value hValue
      · exact hSorted entry hOld

/-- Members in canonical form, with names that are all new, are all there in the end. -/
theorem Fixed.canonicalMembers? (hFixed : Fixed members)
    (hNames : (members.map Prod.fst).Nodup)
    (hNew : ∀ member ∈ sorted, member.1 ∉ members.map Prod.fst) :
    ∃ result, Json.canonicalMembers? members sorted = some result ∧
      result.Perm (members ++ sorted) := by
  induction members generalizing sorted with
  | nil => exact ⟨sorted, rfl, .refl _⟩
  | cons member rest ih =>
      obtain ⟨name, value⟩ := member
      obtain ⟨hName, hNames⟩ := List.nodup_cons.1 hNames
      have hValue : canonical? value = some value := hFixed _ List.mem_cons_self
      have hInsert : (insertMember name value sorted).Perm ((name, value) :: sorted) :=
        insertMember_perm fun member hMember hSame =>
          hNew member hMember (hSame ▸ List.mem_cons_self)
      obtain ⟨result, hResult, hPerm⟩ := @ih (insertMember name value sorted)
        (fun member hMember => hFixed member (List.mem_cons_of_mem _ hMember)) hNames
          (by
            intro member hMember
            rcases mem_insertMember hMember with rfl | hOld
            · exact hName
            · exact fun hRest => hNew member hOld (List.mem_cons_of_mem _ hRest))
      refine ⟨result, ?_, ?_⟩
      · rw [canonicalMembers?_cons, hValue]
        exact hResult
      · exact (hPerm.trans (hInsert.append_left rest)).trans List.perm_middle

theorem Ordered.nodup_names (h : Ordered members) : (members.map Prod.fst).Nodup :=
  (List.pairwise_map.2 h).imp fun hBefore => ne_of_lt hBefore

/-- Canonical members, put in one by one in any order, come to the same list. -/
theorem canonicalMembers?_of_perm (hFixed : Fixed sorted) (hOrdered : Ordered sorted)
    (hPerm : members.Perm sorted) : canonicalMembers? members [] = some sorted := by
  have hNames : (members.map Prod.fst).Nodup :=
    (hPerm.map Prod.fst).nodup_iff.2 hOrdered.nodup_names
  have hMembers : Fixed members :=
    fun member hMember => hFixed member (hPerm.subset hMember)
  have hStart : ∀ member ∈ ([] : List (String × Json)),
      member.1 ∉ members.map Prod.fst := by simp
  obtain ⟨result, hResult, hAll⟩ := hMembers.canonicalMembers? hNames hStart
  have hResultOrdered : Ordered result := Ordered.canonicalMembers? .nil hResult
  rw [List.append_nil] at hAll
  rw [hResult, (hAll.trans hPerm).eq_of_pairwise ?_ hResultOrdered hOrdered]
  intro first second _ _ hBefore hAfter
  exact absurd hAfter (lt_asymm hBefore)

/-! ## Values in canonical form -/

mutual

/-- The canonical form of a canonical form is that form. -/
theorem canonical?_fixed :
    (value : Json) → ∀ {form : Json}, canonical? value = some form →
    canonical? form = some form
  | .null, _, h => by cases h; rfl
  | .bool _, _, h => by cases h; rfl
  | .integer _, _, h => by cases h; rfl
  | .decimal _, _, h => by cases h; rfl
  | .string _, _, h => by cases h; rfl
  | .array items, _, h => by
      obtain ⟨forms, hForms, rfl⟩ := Option.map_eq_some_iff.1 h
      rw [canonical?, canonicalItems?_fixed items hForms]
      rfl
  | .object members, _, h => by
      obtain ⟨forms, hForms, rfl⟩ := Option.map_eq_some_iff.1 h
      have hFixed : Fixed forms :=
        forall_canonicalMembers? (by simp) (fixed_of_mem members) hForms
      have hOrdered : Ordered forms := Ordered.canonicalMembers? .nil hForms
      rw [canonical?, canonicalMembers?_of_perm hFixed hOrdered (.refl _)]
      rfl
  | .unusable, _, h => by cases h

/-- The canonical forms of items are their own canonical forms. -/
theorem canonicalItems?_fixed : (items : List Json) → ∀ {forms : List Json},
    canonicalItems? items = some forms → canonicalItems? forms = some forms
  | [], _, h => by cases h; rfl
  | item :: rest, _, h => by
      obtain ⟨form, hForm, h⟩ := Option.bind_eq_some_iff.1 h
      obtain ⟨forms, hForms, h⟩ := Option.bind_eq_some_iff.1 h
      cases h
      rw [canonicalItems?, canonical?_fixed item hForm,
        canonicalItems?_fixed rest hForms]
      rfl

/-- The canonical forms of the values of members are their own canonical forms. -/
theorem fixed_of_mem : (members : List (String × Json)) → ∀ member ∈ members, ∀ form,
    canonical? member.2 = some form → canonical? form = some form
  | [], _, hMember, _, _ => absurd hMember List.not_mem_nil
  | (_, value) :: rest, member, hMember, form, h => by
      rcases List.mem_cons.1 hMember with rfl | hMember
      · exact canonical?_fixed value h
      · exact fixed_of_mem rest member hMember form h

end

/-! ## Depth -/

theorem depthMembers_le_iff {limit : Nat} :
    depthMembers members ≤ limit ↔ ∀ member ∈ members, depth member.2 ≤ limit := by
  induction members with
  | nil => simp [depthMembers]
  | cons member rest ih => simp [depthMembers, ih]

/-- The order of members does not matter for the depth. -/
theorem depthMembers_perm (h : members.Perm sorted) :
    depthMembers members = depthMembers sorted := by
  apply le_antisymm
  · exact depthMembers_le_iff.2 fun member hMember =>
      depthMembers_le_iff.1 le_rfl member (h.subset hMember)
  · exact depthMembers_le_iff.2 fun member hMember =>
      depthMembers_le_iff.1 le_rfl member (h.symm.subset hMember)

mutual

/-- The canonical form is not nested deeper than the value. -/
theorem depth_canonical?_le :
    (value : Json) → ∀ {form : Json}, canonical? value = some form →
    depth form ≤ depth value
  | .null, _, h => by cases h; exact le_rfl
  | .bool _, _, h => by cases h; exact le_rfl
  | .integer _, _, h => by cases h; exact le_rfl
  | .decimal _, _, h => by cases h; exact le_rfl
  | .string _, _, h => by cases h; exact le_rfl
  | .array items, _, h => by
      obtain ⟨forms, hForms, rfl⟩ := Option.map_eq_some_iff.1 h
      exact Nat.succ_le_succ (depth_canonicalItems?_le items hForms)
  | .object members, _, h => by
      obtain ⟨forms, hForms, rfl⟩ := Option.map_eq_some_iff.1 h
      exact Nat.succ_le_succ (depthMembers_le_iff.2
        (forall_canonicalMembers? (by simp) (depth_le_of_mem members) hForms))
  | .unusable, _, h => by cases h

/-- The canonical forms of items are not nested deeper than the items. -/
theorem depth_canonicalItems?_le : (items : List Json) → ∀ {forms : List Json},
    canonicalItems? items = some forms → depthItems forms ≤ depthItems items
  | [], _, h => by cases h; exact le_rfl
  | item :: rest, _, h => by
      obtain ⟨form, hForm, h⟩ := Option.bind_eq_some_iff.1 h
      obtain ⟨forms, hForms, h⟩ := Option.bind_eq_some_iff.1 h
      cases h
      exact max_le_max (depth_canonical?_le item hForm)
        (depth_canonicalItems?_le rest hForms)

/-- The canonical forms of the values of members are not nested deeper than the deepest
of them. -/
theorem depth_le_of_mem : (members : List (String × Json)) → ∀ member ∈ members, ∀ form,
    canonical? member.2 = some form → depth form ≤ depthMembers members
  | [], _, hMember, _, _ => absurd hMember List.not_mem_nil
  | (_, value) :: rest, member, hMember, form, h => by
      rcases List.mem_cons.1 hMember with rfl | hMember
      · exact (depth_canonical?_le value h).trans (le_max_left _ _)
      · exact (depth_le_of_mem rest member hMember form h).trans (le_max_right _ _)

end

/-! ## Plain members -/

theorem haveOnlyPlain_iff :
    haveOnlyPlain members = true ↔ ∀ member ∈ members, member.2.isPlain = true := by
  induction members with
  | nil => simp [haveOnlyPlain]
  | cons member rest ih => simp [haveOnlyPlain, ih]

theorem arePlain_iff {items : List Json} :
    arePlain items = true ↔ ∀ item ∈ items, item.isPlain = true := by
  induction items with
  | nil => simp [arePlain]
  | cons item rest ih => simp [arePlain, ih]

end ContentBatch.Json
