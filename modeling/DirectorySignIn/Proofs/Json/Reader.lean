import DirectorySignIn.Proofs.Json.Spelling

/-!
# Reading what was written

The text of a value is read as a document that spells the value, and nothing of it is left.

Main results:

- `spells_written`: a string is read up to its closing quote, as a spelling of it.
- `readNumeral_toDigits`: a number is read up to what is no part of a number.
- `readValue_write`: a value is read up to what follows it.
- `read_text`: the text of a value is read as a spelling of it.
- `Decoder.Answers.of_spelled`: a decoder that cannot tell spellings apart decodes the text as one.
-/

namespace DirectorySignIn.Json

/-! ## Strings -/

/-- A character of a written string as it is read. -/
def writtenUnit (c : Char) : StringUnit :=
  if c.toNat < 0x20 ∧ c ∉ ['\n', '\r', '\t', '\x08', '\x0c'] then .code c.toNat else .char c

/-- A written character stands for itself. -/
theorem chars_writtenUnit (fault : Option Fault) (c : Char) (units : List StringUnit) :
    Literal.chars fault (writtenUnit c :: units) =
      (Literal.chars fault units).map (c :: ·) := by
  unfold writtenUnit
  split
  · rename_i control
    have low : c.toNat < 0x20 := control.1
    have no_trail : Literal.isTrail c.toNat = false := by
      rw [Literal.isTrail, Bool.and_eq_false_iff, decide_eq_false_iff_not]
      exact .inl (by omega)
    have no_lead : Literal.isLead c.toNat = false := by
      rw [Literal.isLead, Bool.and_eq_false_iff, decide_eq_false_iff_not]
      exact .inl (by omega)
    rw [Literal.chars.eq_def]
    simp [no_trail, no_lead]
  · rfl

/-- The digit of a value is read as the value. -/
theorem hexValue?_digitChar : ∀ d < 16, Text.hexValue? (Nat.digitChar d) = some d := by
  decide

/-- A written character is read as one unit, and the reading goes on behind it. -/
theorem readString_writeChar (c : Char) (rest : List Char) :
    readString (writeChar c ++ rest) =
      ({ (readString rest).1 with units := writtenUnit c :: (readString rest).1.units },
        (readString rest).2) := by
  unfold writeChar
  split
  -- The escapes with a letter are read back by computation.
  iterate 7 rfl
  rename_i quote backslash n r t b f
  split
  · rename_i low
    have unit : writtenUnit c = .code c.toNat := by
      refine if_pos ⟨low, ?_⟩
      simp only [List.mem_cons, List.not_mem_nil, or_false, not_or]
      exact ⟨n, r, t, b, f⟩
    have high := hexValue?_digitChar (c.toNat / 16) (by omega)
    have last := hexValue?_digitChar (c.toNat % 16) (by omega)
    have number : Text.hexNumber? ['0', '0', Nat.digitChar (c.toNat / 16),
        Nat.digitChar (c.toNat % 16)] = some c.toNat := by
      have zero : Text.hexValue? '0' = some 0 := rfl
      simp only [Text.hexNumber?, Text.hexNumberFrom?, zero, high, last]
      congr 1
      omega
    simp [readString, number, unit]
  · rename_i visible
    have unit : writtenUnit c = .char c := if_neg fun control => visible control.1
    rw [List.singleton_append, readString, if_neg visible, unit]
    · exact quote
    · exact fun _ _ _ _ _ h _ => backslash h
    · exact fun _ h _ => backslash h
    · exact fun _ _ h _ => backslash h
    · exact fun h _ => backslash h

/-- A written text is read up to its closing quote. -/
theorem readString_flatMap (cs rest : List Char) :
    readString (cs.flatMap writeChar ++ '"' :: rest) = (⟨cs.map writtenUnit, none⟩, rest) := by
  induction cs with
  | nil => rfl
  | cons c cs ih =>
    rw [List.flatMap_cons, List.append_assoc, readString_writeChar, ih, List.map_cons]

/-- The units that a text is written as spell the text. -/
theorem spells_written (text : String) :
    Literal.Spells text ⟨text.toList.map writtenUnit, none⟩ := by
  have chars (cs : List Char) : Literal.chars none (cs.map writtenUnit) = .ok cs := by
    induction cs with
    | nil => rfl
    | cons c cs ih =>
      rw [List.map_cons, chars_writtenUnit, ih]
      rfl
  refine ⟨rfl, ?_⟩
  simp [Literal.text, chars, Except.map]

/-! ## Numbers -/

/-- What follows a number and is no part of it. -/
def EndsNumber (cs : List Char) : Prop :=
  ∀ c ∈ cs.head?, c.isDigit = false ∧ c ≠ '.' ∧ c ≠ 'e' ∧ c ≠ 'E'

/-- There is no fraction where a number ends. -/
theorem readFraction_of_ends {rest : List Char} (ends : EndsNumber rest) :
    readFraction rest = (none, rest) := by
  unfold readFraction
  split
  · exact absurd rfl (ends '.' rfl).2.1
  · rfl

/-- There is no exponent where a number ends. -/
theorem readExponent_of_ends {rest : List Char} (ends : EndsNumber rest) :
    readExponent rest = (none, rest) := by
  unfold readExponent
  split
  · exact absurd rfl (ends 'e' rfl).2.2.1
  · exact absurd rfl (ends 'E' rfl).2.2.2
  · rfl

/-- The digits of a number start with a digit. -/
theorem exists_toDigits_eq_cons (n : Nat) :
    ∃ c rest, Nat.toDigits 10 n = c :: rest ∧ c.isDigit = true := by
  have ne_nil : Nat.toDigits 10 n ≠ [] := Nat.toDigits_ne_nil
  obtain ⟨c, rest, hd⟩ := List.exists_cons_of_ne_nil ne_nil
  have mem : c ∈ Nat.toDigits 10 n := hd ▸ List.mem_cons_self ..
  exact ⟨c, rest, hd, Nat.isDigit_of_mem_toDigits (by decide) (by decide) mem⟩

/-- A written number is read up to what is no part of it. -/
theorem readNumeral_toDigits (n : Nat) {rest : List Char} (ends : EndsNumber rest) :
    readNumeral (Nat.toDigits 10 n ++ rest) =
      ({ Numeral.ofNat n with isLast := rest.isEmpty }, rest) := by
  have digits : ∀ c ∈ Nat.toDigits 10 n, c.isDigit = true := fun _ hc =>
    Nat.isDigit_of_mem_toDigits (by decide) (by decide) hc
  have none_left : rest.takeWhile Char.isDigit = [] ∧ rest.dropWhile Char.isDigit = rest := by
    cases rest with
    | nil => exact ⟨rfl, rfl⟩
    | cons c rest => simp [(ends c rfl).1]
  have whole : (Nat.toDigits 10 n ++ rest).takeWhile Char.isDigit = Nat.toDigits 10 n := by
    rw [List.takeWhile_append_of_pos digits, none_left.1, List.append_nil]
  have after : (Nat.toDigits 10 n ++ rest).dropWhile Char.isDigit = rest := by
    rw [List.dropWhile_append_of_pos digits, none_left.2]
  have ne_nil : (Nat.toDigits 10 n).isEmpty = false :=
    List.isEmpty_eq_false_iff.mpr Nat.toDigits_ne_nil
  have positive : ((Nat.toDigits 10 n ++ rest).head? == some '-') = false := by
    obtain ⟨c, tail, hd, digit⟩ := exists_toDigits_eq_cons n
    have : c ≠ '-' := by
      rintro rfl
      cases digit
    simpa [hd] using this
  simp only [readNumeral, positive, Bool.false_eq_true, if_false, whole, after, ne_nil,
    readFraction_of_ends ends, reduceCtorEq, beq_iff_eq, Bool.false_or, readExponent_of_ends ends,
    Numeral.ofNat]

/-! ## Values -/

theorem skipSpace_cons {c : Char} (h : isSpace c = false) (rest : List Char) :
    skipSpace (c :: rest) = c :: rest := by
  simp [skipSpace, h]

/-- A word is read to its last letter. -/
theorem readWord_append (value : Document) (letters rest : List Char) :
    readWord value letters (letters ++ rest) = (value, rest) := by
  induction letters with
  | nil => cases rest <;> rfl
  | cons l letters ih => simp [readWord, ih]

/-- A digit is no white space. -/
theorem isSpace_of_isDigit {c : Char} (h : c.isDigit = true) : isSpace c = false := by
  refine Bool.eq_false_iff.mpr fun space => ?_
  simp only [isSpace, Bool.or_eq_true, beq_iff_eq] at space
  rcases space with ((rfl | rfl) | rfl) | rfl <;> cases h

/-- A value that starts with a digit is a number. -/
theorem readValue_digit {c : Char} (h : c.isDigit = true) (steps : Nat) (rest : List Char) :
    readValue (steps + 1) (c :: rest) =
      (.number (readNumeral (c :: rest)).1, (readNumeral (c :: rest)).2) := by
  rw [readValue, skipSpace_cons (isSpace_of_isDigit h)]
  split
  · contradiction
  all_goals rename_i heq; obtain ⟨rfl, rfl⟩ := List.cons.inj heq
  iterate 6 exact absurd h (by decide)
  simp [h]

/-- A written text is read as a string of its units. -/
theorem readValue_writeString (text : String) (steps : Nat) (rest : List Char) :
    readValue (steps + 1) (writeString text ++ rest) =
      (.string ⟨text.toList.map writtenUnit, none⟩, rest) := by
  have starts : writeString text ++ rest =
      '"' :: (text.toList.flatMap writeChar ++ '"' :: rest) := by
    simp [writeString]
  rw [starts, readValue, skipSpace_cons (by decide)]
  simp only [readString_flatMap]

/-- The first character of a value's text is no space and closes nothing. -/
theorem exists_write_eq_cons (value : Json) :
    ∃ c rest, value.write = c :: rest ∧ isSpace c = false ∧ c ≠ ']' := by
  cases value with
  | null => exact ⟨_, _, rfl, rfl, by decide⟩
  | bool b => cases b <;> exact ⟨_, _, rfl, rfl, by decide⟩
  | number n =>
    obtain ⟨c, rest, hd, digit⟩ := exists_toDigits_eq_cons n
    refine ⟨c, rest, hd, isSpace_of_isDigit digit, ?_⟩
    rintro rfl
    cases digit
  | string text => exact ⟨_, _, rfl, rfl, by decide⟩
  | array items => exact ⟨_, _, rfl, rfl, by decide⟩
  | object members => exact ⟨_, _, rfl, rfl, by decide⟩

/-- An array that does not end at once has an item. -/
theorem readItems_cons {c : Char} (space : isSpace c = false) (opens : c ≠ ']') (steps : Nat)
    (rest : List Char) : readItems (steps + 1) (c :: rest) = readItem steps (c :: rest) := by
  rw [readItems, skipSpace_cons space]
  split
  · contradiction
  · rename_i heq
    exact absurd (List.cons.inj heq).1 opens
  · rfl

/-- An object that starts with a quotation mark has a member. -/
theorem readMembers_quote (steps : Nat) (rest : List Char) :
    readMembers (steps + 1) ('"' :: rest) = readMember steps ('"' :: rest) := by
  rw [readMembers, skipSpace_cons (by decide)]
  simp

/-- Every value is written as something. -/
theorem length_write_pos (value : Json) : 0 < value.write.length := by
  obtain ⟨c, rest, h, -⟩ := exists_write_eq_cons value
  simp [h]

theorem separate_item (item : Json) : separate (writeItems [item]) = item.write :=
  rfl

theorem separate_items (item next : Json) (items : List Json) :
    separate (writeItems (item :: next :: items)) =
      item.write ++ ',' :: separate (writeItems (next :: items)) :=
  rfl

theorem separate_member (name : String) (value : Json) :
    separate (writeMembers [(name, value)]) = writeString name ++ ':' :: value.write :=
  rfl

theorem separate_members (name : String) (value : Json) (next : String × Json)
    (members : List (String × Json)) :
    separate (writeMembers ((name, value) :: next :: members)) =
      writeString name ++ ':' ::
        (value.write ++ ',' :: separate (writeMembers (next :: members))) := by
  rw [← List.cons_append, ← List.append_assoc]
  rfl

/-- Written items start with neither white space nor the end of the array. -/
theorem exists_separate_eq_cons (item : Json) (items : List Json) :
    ∃ c rest, separate (writeItems (item :: items)) = c :: rest ∧ isSpace c = false ∧ c ≠ ']' := by
  obtain ⟨c, rest, h, plain⟩ := exists_write_eq_cons item
  cases items with
  | nil => exact ⟨c, rest, h, plain⟩
  | cons next items => exact ⟨c, _, by rw [separate_items, h]; rfl, plain⟩

/-- Written members start with a quotation mark. -/
theorem exists_separate_eq_quote (member : String × Json) (members : List (String × Json)) :
    ∃ rest, separate (writeMembers (member :: members)) = '"' :: rest := by
  cases members with
  | nil => exact ⟨_, rfl⟩
  | cons next members => exact ⟨_, rfl⟩

/-- A comma or a closing bracket ends a number. -/
theorem endsNumber_cons {c : Char} (h : c ∈ [',', ']', '\x7d']) (rest : List Char) :
    EndsNumber (c :: rest) := by
  rintro _ ⟨⟩
  simp only [List.mem_cons, List.not_mem_nil, or_false] at h
  rcases h with rfl | rfl | rfl <;> decide

mutual

/-- A value is read up to what follows it. -/
theorem readValue_write : (value : Json) → {steps : Nat} → {rest : List Char} →
    3 * value.write.length ≤ steps → EndsNumber rest →
    ∃ doc, readValue steps (value.write ++ rest) = (doc, rest) ∧ Spells value doc
  | .null, steps + 1, rest, _, _ => ⟨.null, readWord_append .null ['u', 'l', 'l'] rest, .null⟩
  | .bool true, steps + 1, rest, _, _ =>
    ⟨.bool true, readWord_append (.bool true) ['r', 'u', 'e'] rest, .bool true⟩
  | .bool false, steps + 1, rest, _, _ =>
    ⟨.bool false, readWord_append (.bool false) ['a', 'l', 's', 'e'] rest, .bool false⟩
  | .number n, 0, _, enough, _ => by
    have := length_write_pos (.number n)
    omega
  | .number n, steps + 1, rest, _, ends => by
    obtain ⟨c, digits, hd, digit⟩ := exists_toDigits_eq_cons n
    have numeral := readNumeral_toDigits n ends
    refine ⟨_, ?_, .number ⟨rest.isEmpty, rfl⟩⟩
    rw [write, hd, List.cons_append, readValue_digit digit, ← List.cons_append, ← hd, numeral]
  | .string text, steps + 1, rest, _, _ =>
    ⟨_, readValue_writeString text steps rest, .string (spells_written text)⟩
  | .array [], steps + 2, rest, _, _ => ⟨.array [] none, rfl, .array .nil⟩
  | .array (item :: items), steps + 2, rest, enough, _ => by
    have enough' : 3 * (separate (writeItems (item :: items))).length + 1 ≤ steps := by
      simp [write] at enough
      omega
    obtain ⟨docs, read, spells⟩ := @readItem_write (item :: items) steps rest (by simp) enough'
    obtain ⟨c, tail, starts, space, opens⟩ := exists_separate_eq_cons item items
    refine ⟨.array docs none, ?_, .array spells⟩
    rw [starts, List.cons_append] at read
    simp [write, starts, readValue, skipSpace_cons, readItems_cons space opens, read, isSpace]
  | .object [], steps + 2, rest, enough, _ => ⟨.object [] none, rfl, .object .nil⟩
  | .object (member :: members), steps + 2, rest, enough, _ => by
    have enough' : 3 * (separate (writeMembers (member :: members))).length + 1 ≤ steps := by
      simp [write] at enough
      omega
    obtain ⟨docs, read, spells⟩ :=
      @readMember_write (member :: members) steps rest (by simp) enough'
    obtain ⟨tail, starts⟩ := exists_separate_eq_quote member members
    refine ⟨.object docs none, ?_, .object spells⟩
    rw [starts, List.cons_append] at read
    simp [write, starts, readValue, skipSpace_cons, readMembers_quote, read, isSpace]

/-- Written items are read as documents that spell them. -/
theorem readItem_write : (items : List Json) → {steps : Nat} → {rest : List Char} → items ≠ [] →
    3 * (separate (writeItems items)).length + 1 ≤ steps →
    ∃ docs, readItem steps (separate (writeItems items) ++ ']' :: rest) = (docs, none, rest) ∧
      SpellsItems items docs
  | [], _, _, ne_nil, _ => absurd rfl ne_nil
  | [item], steps + 1, rest, _, enough => by
    have enough' : 3 * item.write.length ≤ steps := by
      rw [separate_item] at enough
      omega
    obtain ⟨doc, read, spells⟩ :=
      @readValue_write item steps (']' :: rest) enough' (endsNumber_cons (by simp) rest)
    refine ⟨[doc], ?_, .cons spells .nil⟩
    rw [readItem, separate_item, read]
    simp [skipSpace_cons, isSpace]
  | item :: next :: items, steps + 1, rest, _, enough => by
    have both : 3 * item.write.length ≤ steps ∧
        3 * (separate (writeItems (next :: items))).length + 1 ≤ steps := by
      rw [separate_items, List.length_append, List.length_cons] at enough
      omega
    obtain ⟨docs, read_rest, spells_rest⟩ :=
      @readItem_write (next :: items) steps rest (by simp) both.2
    obtain ⟨doc, read, spells⟩ :=
      @readValue_write item steps
        (',' :: (separate (writeItems (next :: items)) ++ ']' :: rest)) both.1
        (endsNumber_cons (by simp) _)
    refine ⟨doc :: docs, ?_, .cons spells spells_rest⟩
    rw [readItem, separate_items, List.append_assoc, List.cons_append, read]
    simp [skipSpace_cons, isSpace, read_rest]

/-- Written members are read as documents that spell them. -/
theorem readMember_write : (members : List (String × Json)) → {steps : Nat} →
    {rest : List Char} → members ≠ [] →
    3 * (separate (writeMembers members)).length + 1 ≤ steps →
    ∃ docs, readMember steps (separate (writeMembers members) ++ '\x7d' :: rest) =
        (docs, none, rest) ∧ SpellsMembers members docs
  | [], _, _, ne_nil, _ => absurd rfl ne_nil
  | [(name, value)], steps + 2, rest, _, enough => by
    have enough' : 3 * value.write.length ≤ steps + 1 := by
      rw [separate_member, List.length_append, List.length_cons] at enough
      omega
    obtain ⟨doc, read, spells⟩ :=
      @readValue_write value (steps + 1) ('\x7d' :: rest) enough' (endsNumber_cons (by simp) rest)
    refine ⟨[(.string ⟨name.toList.map writtenUnit, none⟩, doc)], ?_,
      .cons (spells_written name) spells .nil⟩
    rw [readMember, separate_member, List.append_assoc, List.cons_append, readValue_writeString]
    simp [isCompleteName, skipSpace_cons, isSpace, read]
  | (name, value) :: next :: members, steps + 2, rest, _, enough => by
    have both : 3 * value.write.length ≤ steps + 1 ∧
        3 * (separate (writeMembers (next :: members))).length + 1 ≤ steps + 1 := by
      rw [separate_members, List.length_append, List.length_cons, List.length_append,
        List.length_cons] at enough
      omega
    obtain ⟨docs, read_rest, spells_rest⟩ :=
      @readMember_write (next :: members) (steps + 1) rest (by simp) both.2
    obtain ⟨doc, read, spells⟩ :=
      @readValue_write value (steps + 1)
        (',' :: (separate (writeMembers (next :: members)) ++ '\x7d' :: rest)) both.1
        (endsNumber_cons (by simp) _)
    refine ⟨(.string ⟨name.toList.map writtenUnit, none⟩, doc) :: docs, ?_,
      .cons (spells_written name) spells spells_rest⟩
    rw [readMember, separate_members, List.append_assoc, List.cons_append, readValue_writeString,
      List.append_assoc, List.cons_append]
    simp [isCompleteName, skipSpace_cons, isSpace, read, read_rest]

end

/-- The text of a value is read as a spelling of it, and nothing is left. -/
theorem read_text (value : Json) :
    ∃ doc, Document.read value.text = (doc, []) ∧ Spells value doc := by
  obtain ⟨doc, read, spells⟩ :=
    @readValue_write value (3 * value.write.length + 3) [] (by omega) (by simp [EndsNumber])
  refine ⟨doc, ?_, spells⟩
  rw [List.append_nil] at read
  simpa [Document.read, text] using read

namespace Decoder

variable {α : Type} {decoder : Decoder α} {value : Json}

/-- However a value is spelled in a document, a decoder answers the same, and so it does for the text
that the value is written as. -/
structure Answers (decoder : Decoder α) (value : Json) (answer : Except DecodeError α) :
    Prop where
  spelled : ∀ origin doc, Spells value doc → decoder origin doc = answer
  written : decodeText decoder value.text = answer

/-- A decoder that answers the same for all spellings of a value answers so for the text that the
value is written as. -/
theorem Answers.of_spelled {answer : Except DecodeError α}
    (spelled : ∀ origin doc, Spells value doc → decoder origin doc = answer) :
    decoder.Answers value answer := by
  obtain ⟨doc, read, spells⟩ := read_text value
  refine ⟨spelled, ?_⟩
  cases answer <;> simp [Json.decodeText, read, spelled (.text 0) doc spells, bind, Except.bind]

/-- The text of a value is decoded as what its spellings are taken for. -/
theorem Takes.decodeText {a : α} (h : decoder.Takes value a) :
    decodeText decoder value.text = .ok a :=
  (Answers.of_spelled h).written

end Decoder

end DirectorySignIn.Json
