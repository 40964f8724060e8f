import DirectorySignIn.Json.Decoder
import Mathlib.Data.List.TakeWhile

/-!
# Spellings of a value

A document spells a value if its strings and numbers stand for those of the value and nothing is
wrong with it.  Every value has many spellings; a decoder cannot tell them apart.

Main results:

- `spells_document`: a value as a document is a spelling of it.
- `Numeral.Spells.read`: the digits of a number of 64 bits are read as the number.
- `Spells.skip`: nothing is wrong with a spelling.
- `Decoder.Takes` and its lemmas: what decoders take every spelling of a value for.
-/

namespace DirectorySignIn.Json

/-! ## Spellings -/

/-- A numeral is the digits of a natural number. -/
def Numeral.Spells (n : Nat) (numeral : Numeral) : Prop :=
  ∃ isLast, numeral = { Numeral.ofNat n with isLast }

/-- A literal stands for a text. -/
structure Literal.Spells (text : String) (literal : Literal) : Prop where
  fault : literal.fault = none
  text_eq : literal.text = .ok text

mutual

/-- A document spells a value. -/
inductive Spells : Json → Document → Prop
  | null : Spells .null .null
  | bool (b : Bool) : Spells (.bool b) (.bool b)
  | number {n : Nat} {numeral : Numeral} (h : numeral.Spells n) :
      Spells (.number n) (.number numeral)
  | string {text : String} {literal : Literal} (h : literal.Spells text) :
      Spells (.string text) (.string literal)
  | array {items : List Json} {docs : List Document} (h : SpellsItems items docs) :
      Spells (.array items) (.array docs none)
  | object {members : List (String × Json)} {docs : List (Document × Document)}
      (h : SpellsMembers members docs) : Spells (.object members) (.object docs none)

/-- Documents spell values one for one. -/
inductive SpellsItems : List Json → List Document → Prop
  | nil : SpellsItems [] []
  | cons {item : Json} {doc : Document} {items : List Json} {docs : List Document}
      (first : Spells item doc) (rest : SpellsItems items docs) :
      SpellsItems (item :: items) (doc :: docs)

/-- Members spell named values one for one. -/
inductive SpellsMembers : List (String × Json) → List (Document × Document) → Prop
  | nil : SpellsMembers [] []
  | cons {name : String} {value : Json} {literal : Literal} {doc : Document}
      {members : List (String × Json)} {docs : List (Document × Document)}
      (name_spelled : literal.Spells name) (first : Spells value doc)
      (rest : SpellsMembers members docs) :
      SpellsMembers ((name, value) :: members) ((.string literal, doc) :: docs)

end

/-! ## A value as a document -/

/-- The literal of a text spells it. -/
theorem Literal.Spells.ofText (text : String) : (Literal.ofText text).Spells text :=
  ⟨rfl, Literal.text_ofText text⟩

mutual

/-- A value as a document is a spelling of it. -/
theorem spells_document : (value : Json) → Spells value value.document
  | .null => .null
  | .bool b => .bool b
  | .number _ => .number ⟨false, rfl⟩
  | .string text => .string (.ofText text)
  | .array items => .array (spellsItems_itemDocuments items)
  | .object members => .object (spellsMembers_memberDocuments members)

/-- The documents of values spell them. -/
theorem spellsItems_itemDocuments : (items : List Json) → SpellsItems items (itemDocuments items)
  | [] => .nil
  | item :: items => .cons (spells_document item) (spellsItems_itemDocuments items)

/-- The documents of named values spell them. -/
theorem spellsMembers_memberDocuments :
    (members : List (String × Json)) → SpellsMembers members (memberDocuments members)
  | [] => .nil
  | (name, value) :: members =>
    .cons (.ofText name) (spells_document value) (spellsMembers_memberDocuments members)

end

/-! ## Numbers -/

namespace Numeral

/-- Only zero is written with a zero first. -/
theorem eq_nil_of_toDigits {n : Nat} {rest : List Char} (h : Nat.toDigits 10 n = '0' :: rest) :
    n = 0 ∧ rest = [] := by
  induction n using Nat.strongRecOn generalizing rest with
  | ind n ih =>
    rw [Nat.toDigits_eq_if (by decide)] at h
    split at h
    · rename_i small
      obtain ⟨zero, rfl⟩ := List.cons.inj h
      have only_zero : ∀ m < 10, Nat.digitChar m = '0' → m = 0 := by decide
      exact ⟨only_zero n small zero, rfl⟩
    · rename_i large
      have ne_nil : Nat.toDigits 10 (n / 10) ≠ [] := Nat.toDigits_ne_nil
      obtain ⟨c, front, hd⟩ := List.exists_cons_of_ne_nil ne_nil
      rw [hd] at h
      obtain ⟨rfl, -⟩ := List.cons.inj h
      have := (ih (n / 10) (by omega) hd).1
      omega

/-- There is nothing wrong with the digits of a natural number. -/
theorem fault?_ofNat (n : Nat) (isLast : Bool) : { ofNat n with isLast }.fault? = none := by
  simp only [fault?, ofNat]
  split
  · rename_i empty
    exact absurd empty Nat.toDigits_ne_nil
  · rename_i zero
    cases (eq_nil_of_toDigits zero).2
  · contradiction
  · contradiction
  · rfl

/-- Digits behind a number do not make it smaller. -/
theorem le_ofDigitChars (init : Nat) (cs : List Char) : init ≤ Nat.ofDigitChars 10 cs init := by
  rw [Nat.ofDigitChars_eq_ofDigitChars_zero]
  have : 1 * init ≤ 10 ^ cs.length * init :=
    Nat.mul_le_mul_right init (Nat.one_le_pow _ _ (by decide))
  omega

/-- Digits that spell a number of 64 bits are all gathered. -/
theorem gather_eq {significand : Nat} {digits : List Char}
    (h : Nat.ofDigitChars 10 digits significand ≤ maxNatural) :
    gather significand digits = (Nat.ofDigitChars 10 digits significand, []) := by
  induction digits generalizing significand with
  | nil => rfl
  | cons d rest ih =>
    rw [Nat.ofDigitChars_cons] at h ⊢
    have fits := (le_ofDigitChars _ rest).trans h
    rw [gather]
    simp only [if_pos fits]
    exact ih h

/-- Rounding adds at most one unit of the last binary digit that is kept. -/
theorem roundToDouble_le (n : Nat) : roundToDouble n ≤ n + Nat.pow 2 (n.log2 + 1 - 53) := by
  have below := Nat.div_mul_le_self n (Nat.pow 2 (n.log2 + 1 - 53))
  simp only [roundToDouble]
  split
  · exact Nat.le_add_right ..
  · split
    · rw [Nat.succ_mul]
      exact Nat.add_le_add_right below _
    · exact below.trans (Nat.le_add_right ..)

/-- The numbers of 64 bits, with room for rounding, are within the range of doubles. -/
theorem lt_infinityBound : maxNatural + Nat.pow 2 64 < infinityBound := by
  -- The exponent is hidden, for the number itself is too large to be computed with.
  obtain ⟨k, hk, bound⟩ : ∃ k, 65 ≤ k ∧ infinityBound = (Nat.pow 2 54 - 1) * Nat.pow 2 k :=
    ⟨970, by decide, by unfold infinityBound; with_reducible rfl⟩
  calc maxNatural + Nat.pow 2 64 < Nat.pow 2 65 := by decide
    _ ≤ Nat.pow 2 k := Nat.pow_le_pow_right (by decide) hk
    _ = 1 * Nat.pow 2 k := (Nat.one_mul _).symm
    _ ≤ (Nat.pow 2 54 - 1) * Nat.pow 2 k := Nat.mul_le_mul_right _ (by decide)
    _ = infinityBound := bound.symm

/-- A number of 64 bits is far from the greatest double. -/
theorem roundToDouble_lt {n : Nat} (h : n ≤ maxNatural) : roundToDouble n < infinityBound := by
  have bits : n.log2 < 64 := by
    rcases Nat.eq_zero_or_pos n with rfl | pos
    · decide
    · exact (Nat.log2_lt (Nat.ne_of_gt pos)).mpr (h.trans_lt (by decide))
  calc roundToDouble n ≤ n + Nat.pow 2 (n.log2 + 1 - 53) := roundToDouble_le n
    _ ≤ maxNatural + Nat.pow 2 64 := Nat.add_le_add h (Nat.pow_le_pow_right (by decide) (by omega))
    _ < infinityBound := lt_infinityBound

/-- No number of 64 bits is beyond the range of doubles. -/
theorem isOverflow_ofNat {n : Nat} (h : n ≤ maxNatural) (isLast : Bool) :
    { ofNat n with isLast }.isOverflow = false := by
  have whole : gather 0 (Nat.toDigits 10 n) = (n, []) := by
    have value : Nat.ofDigitChars 10 (Nat.toDigits 10 n) 0 = n := Nat.ofDigitChars_ten_toDigits
    rw [gather_eq (by rwa [value]), value]
  have one : roundToDouble 1 = 1 := by decide
  simp [isOverflow, ofNat, whole, gather, one, roundToDouble_lt h]

/-- The digits of a number of 64 bits spell it. -/
theorem natural?_ofNat {n : Nat} (h : n ≤ maxNatural) (isLast : Bool) :
    { ofNat n with isLast }.natural? = some n := by
  simp [natural?, ofNat, Nat.ofDigitChars_ten_toDigits, h]

/-- A spelling of a number of 64 bits is read as it. -/
theorem Spells.natural {n : Nat} {numeral : Numeral} (spells : numeral.Spells n)
    (h : n ≤ maxNatural) : numeral.natural? = some n := by
  obtain ⟨isLast, rfl⟩ := spells
  exact natural?_ofNat h isLast

/-- The digits of a number of 64 bits are read as the number. -/
theorem Spells.read {n : Nat} {numeral : Numeral} (spells : numeral.Spells n)
    (h : n ≤ maxNatural) : numeral.read = .ok (some n) := by
  obtain ⟨isLast, rfl⟩ := spells
  rw [Numeral.read, fault?_ofNat]
  simp [isOverflow_ofNat h, natural?_ofNat h]

end Numeral

/-! ## Passing over a spelling -/

mutual

/-- Nothing is wrong with a spelling. -/
theorem Spells.skip {value : Json} {doc : Document} : Spells value doc → doc.skip = .ok ()
  | .null | .bool _ => rfl
  | .number ⟨isLast, h⟩ => by
    subst h
    simp [Document.skip, Numeral.fault?_ofNat]
  | .string h => by simp [Document.skip, Document.skipLiteral, h.fault, Document.closing]
  | .array h => by simp [Document.skip, h.skip, Document.closing]
  | .object h => by simp [Document.skip, h.skip, Document.closing]

/-- Spellings of items are skipped without a fault. -/
theorem SpellsItems.skip {items : List Json} {docs : List Document} :
    SpellsItems items docs → Document.skipItems docs = .ok ()
  | .nil => rfl
  | .cons first rest => by simp [Document.skipItems, first.skip, rest.skip]

/-- Spellings of members are skipped without a fault. -/
theorem SpellsMembers.skip {members : List (String × Json)} {docs : List (Document × Document)} :
    SpellsMembers members docs → Document.skipMembers docs = .ok ()
  | .nil => rfl
  | .cons name first rest => by
    simp [Document.skipMembers, Document.skipName, Document.skipLiteral, Document.closing,
      name.fault, first.skip, rest.skip]

end

/-! ## Decoding a spelling -/

namespace Decoder

/-- A decoder takes every spelling of a value for the same. -/
def Takes {α : Type} (decoder : Decoder α) (value : Json) (a : α) : Prop :=
  ∀ origin doc, Spells value doc → decoder origin doc = .ok a

theorem takes_text (s : String) : text.Takes (.string s) s := by
  intro origin doc spells
  cases spells with
  | string h => simp [text, h.text_eq, ofRead]

theorem takes_bool (b : Bool) : bool.Takes (.bool b) b := by
  intro origin doc spells
  cases spells
  rfl

theorem takes_natural {n : Nat} (le_max : n ≤ Numeral.maxNatural) :
    natural.Takes (.number n) n := by
  intro origin doc spells
  cases spells with
  | number h => simp [natural, h.read le_max, ofRead, bind, Except.bind]

/-- A decoder that is refined by a rule takes a value for what the rule makes of it. -/
theorem Takes.refine {α β : Type} {decoder : Decoder α} {value : Json} {a : α}
    {rule : α → Except Error β} {b : β} (h : decoder.Takes value a) (allowed : rule a = .ok b) :
    (decoder.refine rule).Takes value b := by
  intro origin doc spells
  simp [Decoder.refine, h origin doc spells, allowed, bind, Except.bind]

/-- A complete value is decoded as what its spellings are taken for. -/
theorem Takes.decodeValue {α : Type} {decoder : Decoder α} {value : Json} {a : α}
    (h : decoder.Takes value a) : decodeValue decoder value.document = .ok a :=
  h .value value.document (spells_document value)

end Decoder

end DirectorySignIn.Json
