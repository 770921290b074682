/-!
# Entries by key

A table is a list of entries in which no key is repeated. `put` sets the value of a key
and leaves those of all other keys as they are (`lookup_put`).
-/

namespace ContentBatch.Keyed

variable {α : Type}

/-- Puts a value under a key, in place of what was there. -/
def put (key : String) (value : α) : List (String × α) → List (String × α)
  | [] => [(key, value)]
  | (other, old) :: rest =>
    if other = key then (key, value) :: rest else (other, old) :: put key value rest

theorem lookup_put (key other : String) (value : α) (entries : List (String × α)) :
    (put key value entries).lookup other =
      if other = key then some value else entries.lookup other := by
  induction entries with
  | nil =>
    by_cases hKey : other = key
    · simp [put, hKey]
    · rw [put, List.lookup_cons, beq_eq_false_iff_ne.2 hKey, if_neg hKey]
  | cons entry rest ih =>
    obtain ⟨name, old⟩ := entry
    by_cases hOther : other = name
    · subst hOther
      by_cases hKey : other = key
      · rw [put, if_pos hKey, if_pos hKey, hKey, List.lookup_cons_self]
      · rw [put, if_neg hKey, if_neg hKey, List.lookup_cons_self, List.lookup_cons_self]
    · have hBeq : (other == name) = false := beq_eq_false_iff_ne.2 hOther
      rw [List.lookup_cons, hBeq]
      by_cases hKey : name = key
      · subst hKey
        rw [put, if_pos rfl, List.lookup_cons, hBeq, if_neg hOther]
      · rw [put, if_neg hKey, List.lookup_cons, hBeq]
        exact ih

end ContentBatch.Keyed
