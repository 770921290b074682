import ContentBatch.Json.Reader
import ContentBatch.Json.Writer
import ContentBatch.Proofs.Number.Written

/-!
# Written JSON is read back

What the writer makes of a value, the reader takes for that value, whatever text follows
that could not be part of it.  This holds of *plain* values, which consist of `null`,
truth values, integers of sixty-four bits, strings, arrays and objects.

The reader's functions take the text from the first character of a phrase on, so each of
them has a lemma that says what it makes of the written phrase and that it leaves the
rest.  The fuel that they need is at most the length of the phrase.

## Main result

* `ofText?_toText`: the text of a plain value holds that value and nothing else.
-/

namespace ContentBatch.Json

/-! ## Plain values -/

mutual

/-- Whether a value has no decimals, no unusable parts, and only integers of sixty-four
bits. -/
def isPlain : Json → Bool
  | .integer value =>
    -(Number.maxSigned64 : Int) - 1 ≤ value && value ≤ (Number.maxUnsigned64 : Int)
  | .decimal _ => false
  | .array items => arePlain items
  | .object members => haveOnlyPlain members
  | .unusable => false
  | _ => true

/-- Whether all items are plain. -/
def arePlain : List Json → Bool
  | [] => true
  | item :: rest => isPlain item && arePlain rest

/-- Whether all members have plain values. -/
def haveOnlyPlain : List (String × Json) → Bool
  | [] => true
  | (_, value) :: rest => isPlain value && haveOnlyPlain rest

end

/-- What may follow a value: nothing, or a mark of the array or object that the value
stands in. -/
def Ended (rest : List Char) : Prop :=
  ∀ c ∈ rest.head?, c = ',' ∨ c = ']' ∨ c = '\x7d'

theorem ended_nil : Ended [] := by
  intro c h
  cases h

theorem ended_cons {c : Char} (rest : List Char) (h : c = ',' ∨ c = ']' ∨ c = '\x7d') :
    Ended (c :: rest) := by
  intro head hHead
  obtain rfl := Option.some.inj hHead
  exact h

/-! ## Strings -/

theorem shortEscape?_escapeLetter? {c letter : Char}
    (h : escapeLetter? c = some letter) :
    shortEscape? letter = some c ∧ letter ≠ 'u' := by
  unfold escapeLetter? at h
  split at h <;> cases h <;> decide

theorem escapeLetter?_eq_none {c : Char} (h : escapeLetter? c = none) :
    c ≠ '"' ∧ c ≠ '\\' := by
  constructor
  · rintro rfl
    cases h
  · rintro rfl
    cases h

/-- A code unit of a control character is that character. -/
theorem pushUnit_control {c : Char} (before : List Char) (h : c.toNat < 0x20) :
    StringSoFar.pushUnit ⟨some before, none⟩ c.toNat = ⟨some (c :: before), none⟩ := by
  have hLeading : isLeading c.toNat = false := by
    simp only [isLeading, Bool.and_eq_false_iff, decide_eq_false_iff_not]
    omega
  have hTrailing : isTrailing c.toNat = false := by
    simp only [isTrailing, Bool.and_eq_false_iff, decide_eq_false_iff_not]
    omega
  simp [StringSoFar.pushUnit, StringSoFar.push, hLeading, hTrailing]

theorem readString_writeChar (c : Char) (before rest : List Char) :
    readString (writeChar c ++ rest) ⟨some before, none⟩ =
      readString rest ⟨some (c :: before), none⟩ := by
  unfold writeChar
  cases hLetter : escapeLetter? c with
  | some letter =>
      obtain ⟨hEscape, hUnit⟩ := shortEscape?_escapeLetter? hLetter
      simp [readString, hEscape, hUnit, StringSoFar.push]
  | none =>
      obtain ⟨hQuote, hBackslash⟩ := escapeLetter?_eq_none hLetter
      by_cases hControl : c.toNat < 0x20
      · have hDigits : ['0', '0', Nat.digitChar (c.toNat / 16),
            Nat.digitChar (c.toNat % 16)].all (Number.isDigitOf 16) = true := by
          simp [Number.isDigitOf_digitChar (show c.toNat / 16 < 16 by omega),
            Number.isDigitOf_digitChar (show c.toNat % 16 < 16 by omega),
            show Number.isDigitOf 16 '0' = true from rfl]
        have hValue : Number.valueOf 16 ['0', '0', Nat.digitChar (c.toNat / 16),
            Nat.digitChar (c.toNat % 16)] = c.toNat := by
          simp only [Number.valueOf, List.foldl_cons, List.foldl_nil,
            Number.digitValue_digitChar (show c.toNat / 16 < 16 by omega),
            Number.digitValue_digitChar (show c.toNat % 16 < 16 by omega),
            show Number.digitValue '0' = 0 from rfl]
          omega
        rw [if_pos hControl]
        show (if _ then readString rest (StringSoFar.pushUnit _ _) else none) = _
        rw [if_pos hDigits, hValue, pushUnit_control before hControl]
      · simp [readString, hControl, hBackslash, StringSoFar.push]

theorem readString_writeChars (chars before rest : List Char) :
    readString (chars.flatMap writeChar ++ '"' :: rest) ⟨some before, none⟩ =
      some (some (String.ofList (before.reverse ++ chars)), rest) := by
  induction chars generalizing before with
  | nil => simp [readString, StringSoFar.finish]
  | cons c chars ih =>
      rw [List.flatMap_cons, List.append_assoc, readString_writeChar, ih]
      simp

theorem readString_writeString (text : String) (rest : List Char) :
    readString (text.toList.flatMap writeChar ++ '"' :: rest) .empty =
      some (some text, rest) := by
  rw [StringSoFar.empty, readString_writeChars, List.reverse_nil, List.nil_append,
    String.ofList_toList]

/-! ## Integers -/

theorem Ended.not_digit {rest : List Char} (h : Ended rest) :
    ∀ c ∈ rest.head?, c.isDigit = false := by
  intro c hHead
  rcases h c hHead with rfl | rfl | rfl <;> rfl

theorem Ended.fractionDigits? {rest : List Char} (h : Ended rest) :
    fractionDigits? rest = some ([], rest) := by
  cases rest with
  | nil => rfl
  | cons c rest => rcases h c rfl with rfl | rfl | rfl <;> rfl

theorem Ended.exponentPart? {rest : List Char} (h : Ended rest) :
    exponentPart? rest = some (none, rest) := by
  cases rest with
  | nil => rfl
  | cons c rest => rcases h c rfl with rfl | rfl | rfl <;> rfl

theorem wholeDigits?_toDigits (number : Nat) {rest : List Char} (h : Ended rest) :
    wholeDigits? (Nat.toDigits 10 number ++ rest) =
      some (Nat.toDigits 10 number, rest) := by
  have hSplit : Number.splitDigits (Nat.toDigits 10 number ++ rest) =
      (Nat.toDigits 10 number, rest) :=
    Number.splitDigits_of_digits
      (fun c hc => Number.isDigit_of_mem_toDigits hc) h.not_digit
  rw [wholeDigits?, hSplit]
  split
  · rename_i hDigits
    exact absurd (congrArg Prod.fst hDigits) Nat.toDigits_ne_nil
  · rename_i zero digit digits _ hDigits
    have hZero : Nat.toDigits 10 number = '0' :: digit :: digits :=
      congrArg Prod.fst hDigits
    cases number with
    | zero => cases hZero
    | succ number =>
        have hHead := Number.head?_toDigits (Nat.succ_pos number)
        rw [hZero] at hHead
        exact absurd rfl hHead
  · rfl

/-- The digits of a number, once its sign is read. -/
theorem read_toDigits (negative : Bool) (number : Nat) {rest : List Char}
    (h : Ended rest) :
    (do
      let (whole, rest) ← wholeDigits? (Nat.toDigits 10 number ++ rest)
      let (fraction, rest) ← fractionDigits? rest
      let (exponent, rest) ← exponentPart? rest
      return (numberOf negative whole fraction exponent, rest)) =
        some (numberOf negative (Nat.toDigits 10 number) [] none, rest) := by
  simp [wholeDigits?_toDigits number h, h.fractionDigits?, h.exponentPart?]

theorem readNumber_minus (number : Nat) {rest : List Char} (h : Ended rest) :
    readNumber ('-' :: (Nat.toDigits 10 number ++ rest)) =
      some (numberOf true (Nat.toDigits 10 number) [] none, rest) :=
  read_toDigits true number h

theorem exists_toDigits_eq_cons (number : Nat) :
    ∃ digit digits, Nat.toDigits 10 number = digit :: digits ∧ digit.isDigit = true :=
  Number.exists_cons_of_digits
    (fun _ hc => Number.isDigit_of_mem_toDigits hc) Nat.toDigits_ne_nil

theorem readNumber_toDigits (number : Nat) {rest : List Char} (h : Ended rest) :
    readNumber (Nat.toDigits 10 number ++ rest) =
      some (numberOf false (Nat.toDigits 10 number) [] none, rest) := by
  have hRead := read_toDigits false number h
  obtain ⟨digit, digits, hNumber, hDigit⟩ := exists_toDigits_eq_cons number
  rw [hNumber] at hRead ⊢
  unfold readNumber
  split
  rename_i hSign
  split at hSign
  · rename_i hText
    obtain rfl := (List.cons.inj hText).1
    cases hDigit
  · cases hSign
    exact hRead

theorem readNumber_writeInteger {value : Int} {rest : List Char}
    (hPlain : (integer value).isPlain = true) (h : Ended rest) :
    readNumber (writeInteger value ++ rest) = some (.integer value, rest) := by
  obtain ⟨hLow, hHigh⟩ := Bool.and_eq_true_iff.1 hPlain
  replace hLow := of_decide_eq_true hLow
  replace hHigh := of_decide_eq_true hHigh
  cases value with
  | ofNat number =>
      have hRange : number ≤ Number.maxUnsigned64 := Int.ofNat_le.1 hHigh
      rw [writeInteger, readNumber_toDigits number h, numberOf, Number.valueOf_toDigits]
      simp [hRange]
  | negSucc number =>
      have hRange : number + 1 ≤ Number.maxSigned64 + 1 := by omega
      rw [writeInteger, List.cons_append, readNumber_minus (number + 1) h, numberOf,
        Number.valueOf_toDigits]
      simp [hRange, Int.negSucc_eq]

/-! ## Values -/

/-- What a written value may start with: neither a blank nor a closing bracket. -/
def Opens (c : Char) : Prop :=
  (c == ' ' || c == '\n' || c == '\t' || c == '\r') = false ∧ c ≠ ']'

theorem skipBlanks_of_opens {c : Char} (rest : List Char) (h : Opens c) :
    skipBlanks (c :: rest) = c :: rest := by
  rw [skipBlanks, h.1, if_neg Bool.false_ne_true]

theorem opens_of_isDigit {c : Char} (h : c.isDigit = true) : Opens c := by
  have hNe : ∀ other : Char, other.isDigit = false → c ≠ other := by
    rintro other hOther rfl
    rw [h] at hOther
    cases hOther
  exact ⟨by simp [hNe ' ' rfl, hNe '\n' rfl, hNe '\t' rfl, hNe '\r' rfl], hNe ']' rfl⟩

theorem exists_write_eq_cons {value : Json} (h : value.isPlain = true) :
    ∃ c rest, write value = c :: rest ∧ Opens c := by
  cases value with
  | null => exact ⟨'n', _, rfl, by decide, by decide⟩
  | bool value =>
      cases value with
      | true => exact ⟨'t', _, rfl, by decide, by decide⟩
      | false => exact ⟨'f', _, rfl, by decide, by decide⟩
  | integer value =>
      cases value with
      | ofNat number =>
          obtain ⟨digit, digits, hNumber, hDigit⟩ := exists_toDigits_eq_cons number
          exact ⟨digit, digits, hNumber, opens_of_isDigit hDigit⟩
      | negSucc number => exact ⟨'-', _, rfl, by decide, by decide⟩
  | decimal number => cases h
  | string text => exact ⟨'"', _, rfl, by decide, by decide⟩
  | array items => exact ⟨'[', _, rfl, by decide, by decide⟩
  | object members => exact ⟨'\x7b', _, rfl, by decide, by decide⟩
  | unusable => cases h

/-- What starts with a digit or a minus is read as a number. -/
theorem readValue_number (fuel : Nat) {c : Char} (rest : List Char)
    (h : c.isDigit = true ∨ c = '-') :
    readValue (fuel + 1) (c :: rest) = readNumber (c :: rest) := by
  have hOpens : Opens c := by
    rcases h with hDigit | rfl
    · exact opens_of_isDigit hDigit
    · exact ⟨by decide, by decide⟩
  have hNe : ∀ other : Char, other.isDigit = false → other ≠ '-' → c ≠ other := by
    rintro other hOther hMinus rfl
    rcases h with hDigit | hSign
    · rw [hDigit] at hOther
      cases hOther
    · exact hMinus hSign
  rw [readValue, skipBlanks_of_opens rest hOpens]
  split
  · rename_i hText
    exact absurd (List.cons.inj hText).1 (hNe 'n' rfl (by decide))
  · rename_i hText
    exact absurd (List.cons.inj hText).1 (hNe 't' rfl (by decide))
  · rename_i hText
    exact absurd (List.cons.inj hText).1 (hNe 'f' rfl (by decide))
  · rename_i hText
    exact absurd (List.cons.inj hText).1 (hNe '"' rfl (by decide))
  · rename_i hText
    exact absurd (List.cons.inj hText).1 (hNe '[' rfl (by decide))
  · rename_i hText
    exact absurd (List.cons.inj hText).1 (hNe '\x7b' rfl (by decide))
  · rfl

theorem readValue_writeInteger {value : Int} {rest : List Char} (fuel : Nat)
    (hPlain : (integer value).isPlain = true) (h : Ended rest) :
    readValue (fuel + 1) (writeInteger value ++ rest) =
      some (.integer value, rest) := by
  have hRead := readNumber_writeInteger hPlain h
  cases value with
  | ofNat number =>
      obtain ⟨digit, digits, hNumber, hDigit⟩ := exists_toDigits_eq_cons number
      rw [writeInteger, hNumber] at hRead ⊢
      exact (readValue_number fuel _ (.inl hDigit)).trans hRead
  | negSucc number => exact (readValue_number fuel _ (.inr rfl)).trans hRead

theorem readValue_writeString (text : String) (fuel : Nat) (rest : List Char) :
    readValue (fuel + 1) (writeString text ++ rest) = some (.string text, rest) := by
  have hText : writeString text ++ rest =
      '"' :: (text.toList.flatMap writeChar ++ '"' :: rest) := by
    simp [writeString]
  rw [hText, readValue, skipBlanks_of_opens _ ⟨by decide, by decide⟩]
  simp [readString_writeString]

/-- An array whose first item is written after its bracket. -/
theorem readValue_array {fuel : Nat} {text rest : List Char} {items : List Json}
    {c : Char} (hOpens : Opens c)
    (hRead : readItems fuel (c :: text) = some (items, rest)) :
    readValue (fuel + 1) ('[' :: c :: text) = some (.array items, rest) := by
  rw [readValue, skipBlanks_of_opens _ ⟨by decide, by decide⟩]
  simp only [skipBlanks_of_opens _ hOpens]
  split
  · rename_i hText
    exact absurd (List.cons.inj hText).1 hOpens.2
  · exact Option.bind_eq_some_iff.2 ⟨_, hRead, rfl⟩

/-- An object whose first name is written after its brace. -/
theorem readValue_object {fuel : Nat} {text rest : List Char}
    {members : List (String × Json)}
    (hRead : readMembers fuel ('"' :: text) = some (some members, rest)) :
    readValue (fuel + 1) ('\x7b' :: '"' :: text) = some (.object members, rest) :=
  Option.bind_eq_some_iff.2 ⟨_, hRead, rfl⟩

theorem writeItems_cons_cons (item next : Json) (items : List Json) :
    writeItems (item :: next :: items) =
      write item ++ ',' :: writeItems (next :: items) := rfl

/-- The items of an array start as its first one does. -/
theorem exists_writeItems_eq_cons {item : Json} (items : List Json)
    (h : item.isPlain = true) :
    ∃ c rest, writeItems (item :: items) = c :: rest ∧ Opens c := by
  obtain ⟨c, rest, hWrite, hOpens⟩ := exists_write_eq_cons h
  cases items with
  | nil =>
    exact ⟨c, rest ++ [']'], by rw [writeItems, hWrite, List.cons_append], hOpens⟩
  | cons next items =>
      exact ⟨c, _, by rw [writeItems_cons_cons, hWrite, List.cons_append], hOpens⟩

theorem writeMembers_single (name : String) (value : Json) :
    writeMembers [(name, value)] =
      writeString name ++ ':' :: (write value ++ ['\x7d']) := by
  rw [writeMembers, List.append_assoc, List.cons_append]

theorem writeMembers_cons_cons (name : String) (value : Json) (next : String × Json)
    (members : List (String × Json)) :
    writeMembers ((name, value) :: next :: members) =
      writeString name ++ ':' ::
        (write value ++ ',' :: writeMembers (next :: members)) := by
  rw [writeMembers, List.append_assoc, List.cons_append]
  intro h
  cases h

/-- The members of an object start with the quote of the first name. -/
theorem exists_writeMembers_eq_cons (member : String × Json)
    (members : List (String × Json)) :
    ∃ rest, writeMembers (member :: members) = '"' :: rest := by
  obtain ⟨name, value⟩ := member
  cases members with
  | nil => exact ⟨_, writeMembers_single name value⟩
  | cons next members => exact ⟨_, writeMembers_cons_cons name value next members⟩

/-- The last item of an array. -/
theorem readItems_last {fuel : Nat} {text rest : List Char} {item : Json}
    (hRead : readValue fuel text = some (item, ']' :: rest)) :
    readItems (fuel + 1) text = some ([item], rest) := by
  rw [readItems, hRead]
  rfl

/-- An item of an array with others after it. -/
theorem readItems_next {fuel : Nat} {text between rest : List Char} {item : Json}
    {items : List Json} (hRead : readValue fuel text = some (item, ',' :: between))
    (hRest : readItems fuel between = some (items, rest)) :
    readItems (fuel + 1) text = some (item :: items, rest) := by
  rw [readItems]
  refine Option.bind_eq_some_iff.2 ⟨_, hRead, ?_⟩
  exact Option.bind_eq_some_iff.2 ⟨_, hRest, rfl⟩

/-- The name of a member, and then its value and the rest of the object. -/
theorem readMembers_name (fuel : Nat) (name : String) (text : List Char) :
    readMembers (fuel + 1) (writeString name ++ ':' :: text) =
      (readValue fuel text).bind fun (value, rest) =>
        match skipBlanks rest with
        | '\x7d' :: rest => some (some [(name, value)], rest)
        | ',' :: rest =>
            (readMembers fuel rest).bind fun (members, rest) =>
              some (addMember (some name) value members, rest)
        | _ => none := by
  have hText : writeString name ++ ':' :: text =
      '"' :: (name.toList.flatMap writeChar ++ '"' :: ':' :: text) := by
    simp [writeString]
  rw [hText, readMembers, skipBlanks_of_opens _ ⟨by decide, by decide⟩]
  show (readString _ .empty).bind _ = _
  rw [readString_writeString]
  rfl

mutual

/-- A written value is read back, and the rest is left. -/
theorem readValue_write : (value : Json) → value.isPlain = true → ∀ fuel rest,
    (write value).length ≤ fuel → Ended rest →
    readValue fuel (write value ++ rest) = some (value, rest)
  | value, hPlain, 0, rest, hFuel, _ => by
      obtain ⟨c, text, hWrite, -⟩ := exists_write_eq_cons hPlain
      rw [hWrite] at hFuel
      exact absurd hFuel (Nat.not_succ_le_zero _)
  | .null, _, fuel + 1, rest, _, _ => rfl
  | .bool true, _, fuel + 1, rest, _, _ => rfl
  | .bool false, _, fuel + 1, rest, _, _ => rfl
  | .integer value, hPlain, fuel + 1, rest, _, hEnded =>
    readValue_writeInteger fuel hPlain hEnded
  | .string text, _, fuel + 1, rest, _, _ => readValue_writeString text fuel rest
  | .array [], _, fuel + 1, rest, _, _ => rfl
  | .array (item :: items), hPlain, fuel + 1, rest, hFuel, _ => by
      have hRead :=
        readItems_writeItems item items hPlain fuel rest (Nat.le_of_succ_le_succ hFuel)
      obtain ⟨c, text, hItems, hOpens⟩ :=
        exists_writeItems_eq_cons items (Bool.and_eq_true_iff.1 hPlain).1
      rw [hItems] at hRead
      rw [write, hItems]
      exact readValue_array hOpens hRead
  | .object [], _, fuel + 1, rest, _, _ => rfl
  | .object ((name, value) :: members), hPlain, fuel + 1, rest, hFuel, _ => by
      have hRead :=
        readMembers_writeMembers name value members hPlain fuel rest
          (Nat.le_of_succ_le_succ hFuel)
      obtain ⟨text, hMembers⟩ := exists_writeMembers_eq_cons (name, value) members
      rw [hMembers] at hRead
      rw [write, hMembers]
      exact readValue_object hRead

/-- The written items of an array are read back. -/
theorem readItems_writeItems : (item : Json) → (items : List Json) →
    arePlain (item :: items) = true →
    ∀ fuel rest, (writeItems (item :: items)).length ≤ fuel →
    readItems fuel (writeItems (item :: items) ++ rest) = some (item :: items, rest)
  | item, items, hPlain, 0, rest, hFuel => by
      obtain ⟨c, text, hItems, -⟩ :=
        exists_writeItems_eq_cons items (Bool.and_eq_true_iff.1 hPlain).1
      rw [hItems] at hFuel
      exact absurd hFuel (Nat.not_succ_le_zero _)
  | item, [], hPlain, fuel + 1, rest, hFuel => by
      rw [writeItems, List.length_append] at hFuel
      rw [writeItems, List.append_assoc]
      exact readItems_last
        (readValue_write item (Bool.and_eq_true_iff.1 hPlain).1 fuel (']' :: rest)
          (Nat.le_of_succ_le_succ hFuel) (ended_cons rest (.inr (.inl rfl))))
  | item, next :: items, hPlain, fuel + 1, rest, hFuel => by
      obtain ⟨hItem, hItems⟩ := Bool.and_eq_true_iff.1 hPlain
      rw [writeItems_cons_cons, List.length_append, List.length_cons] at hFuel
      rw [writeItems_cons_cons, List.append_assoc, List.cons_append]
      exact readItems_next
        (readValue_write item hItem fuel _ (by omega) (ended_cons _ (.inl rfl)))
        (readItems_writeItems next items hItems fuel rest (by omega))

/-- The written members of an object are read back. -/
theorem readMembers_writeMembers : (name : String) → (value : Json) →
    (members : List (String × Json)) → haveOnlyPlain ((name, value) :: members) = true →
    ∀ fuel rest, (writeMembers ((name, value) :: members)).length ≤ fuel →
    readMembers fuel (writeMembers ((name, value) :: members) ++ rest) =
      some (some ((name, value) :: members), rest)
  | name, value, members, hPlain, 0, rest, hFuel => by
      obtain ⟨text, hMembers⟩ := exists_writeMembers_eq_cons (name, value) members
      rw [hMembers] at hFuel
      exact absurd hFuel (Nat.not_succ_le_zero _)
  | name, value, [], hPlain, fuel + 1, rest, hFuel => by
      have hValue : value.isPlain = true := (Bool.and_eq_true_iff.1 hPlain).1
      rw [writeMembers_single, List.length_append, List.length_cons,
        List.length_append] at hFuel
      have hRead := readValue_write value hValue fuel ('\x7d' :: rest) (by omega)
        (ended_cons rest (.inr (.inr rfl)))
      rw [writeMembers_single, List.append_assoc, List.cons_append, List.append_assoc,
        readMembers_name]
      show (readValue fuel (write value ++ '\x7d' :: rest)).bind _ = _
      rw [hRead]
      rfl
  | name, value, (next, other) :: members, hPlain, fuel + 1, rest, hFuel => by
      obtain ⟨hValue, hMembers⟩ := Bool.and_eq_true_iff.1 hPlain
      rw [writeMembers_cons_cons, List.length_append, List.length_cons,
        List.length_append, List.length_cons] at hFuel
      have hRead := readValue_write value hValue fuel
        (',' :: (writeMembers ((next, other) :: members) ++ rest)) (by omega)
        (ended_cons _ (.inl rfl))
      have hRest :=
        readMembers_writeMembers next other members hMembers fuel rest (by omega)
      rw [writeMembers_cons_cons, List.append_assoc, List.cons_append,
        List.append_assoc, List.cons_append, readMembers_name, hRead]
      show (readMembers fuel (writeMembers ((next, other) :: members) ++ rest)).bind _ =
          _
      rw [hRest]
      rfl

end

/-- The text of a plain value holds that value and nothing else. -/
theorem ofText?_toText {value : Json} (h : value.isPlain = true) :
    ofText? value.toText = some value := by
  have hRead :=
    readValue_write value h (2 * (write value).length + 2) [] (by omega) ended_nil
  rw [List.append_nil] at hRead
  rw [ofText?, toText, String.toList_ofList]
  simp only [hRead]
  rfl

end ContentBatch.Json
