/-!
# Parts of a text

A text cut at every occurrence of a mark has one part more than the mark occurs. Put
together again with the mark between them the parts are the text (`join_parts`), and
none of them holds the mark (`not_mem_of_mem_parts`).
-/

namespace ContentBatch.Text

/-- The parts of a text between the occurrences of a mark. -/
def parts (mark : Char) : List Char → List (List Char)
  | [] => [[]]
  | c :: rest =>
    if c = mark then [] :: parts mark rest
    else
      match parts mark rest with
      | part :: others => (c :: part) :: others
      | [] => [[c]]

/-- Parts put together with a mark between them. -/
def join (mark : Char) : List (List Char) → List Char
  | [] => []
  | [part] => part
  | part :: others => part ++ mark :: join mark others

theorem parts_ne_nil (mark : Char) (text : List Char) : parts mark text ≠ [] := by
  cases text with
  | nil => simp [parts]
  | cons c rest =>
    unfold parts
    split
    · simp
    · split <;> simp

theorem join_nil_cons (mark : Char) {others : List (List Char)} (h : others ≠ []) :
    join mark ([] :: others) = mark :: join mark others := by
  cases others with
  | nil => exact absurd rfl h
  | cons other others => simp [join]

theorem join_cons_cons (mark c : Char) (part : List Char) (others : List (List Char)) :
    join mark ((c :: part) :: others) = c :: join mark (part :: others) := by
  cases others <;> simp [join]

theorem join_parts (mark : Char) (text : List Char) :
    join mark (parts mark text) = text := by
  induction text with
  | nil => rfl
  | cons c rest ih =>
    by_cases h : c = mark
    · rw [parts, if_pos h, join_nil_cons mark (parts_ne_nil mark rest), ih, h]
    · rw [parts, if_neg h]
      cases hParts : parts mark rest with
      | nil => exact absurd hParts (parts_ne_nil mark rest)
      | cons part others => rw [join_cons_cons, ← hParts, ih]

theorem not_mem_of_mem_parts {mark : Char} {text part : List Char}
    (h : part ∈ parts mark text) :
    mark ∉ part := by
  induction text generalizing part with
  | nil =>
    simp only [parts, List.mem_singleton] at h
    simp [h]
  | cons c rest ih =>
    by_cases hMark : c = mark
    · rw [parts, if_pos hMark] at h
      cases List.mem_cons.1 h with
      | inl hPart => simp [hPart]
      | inr hPart => exact ih hPart
    · rw [parts, if_neg hMark] at h
      cases hParts : parts mark rest with
      | nil => exact absurd hParts (parts_ne_nil mark rest)
      | cons first others =>
        rw [hParts] at h ih
        cases List.mem_cons.1 h with
        | inl hPart =>
          subst hPart
          intro hMem
          cases List.mem_cons.1 hMem with
          | inl hHead => exact hMark hHead.symm
          | inr hTail => exact ih (List.mem_cons_self ..) hTail
        | inr hPart => exact ih (List.mem_cons_of_mem _ hPart)

end ContentBatch.Text
