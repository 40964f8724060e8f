import DirectorySignIn.Proofs.Provider.Encoding
import Mathlib.Data.List.Induction

/-!
# Spellings of a port

A port is written as decimal digits, with leading zeros or a plus sign if one likes and with white
space around them.  No other text is a port, however close it comes, and a number in a document is
taken for exactly the port that its decimal text is taken for.

Main results:

- `isDecimal_iff`: reading digits one after another computes their decimal value.
- `ofDigits?_eq_some_iff`: what is read without white space around it are the spellings.
- `parse_eq_ok_iff`, `parse_eq_error_iff`: the texts of ports, and what is said of all others.
- `decode_number`, `decode_text`: a natural number and its decimal text in a document.
- `spellings`: all of this together with the text that a port is written as.
-/

namespace DirectorySignIn

namespace Port

/-! ## Decimal digits -/

/-- The value of a decimal digit. -/
def digitValue (c : Char) : Nat :=
  c.toNat - '0'.toNat

/-- One or more ASCII digits have a decimal value. -/
inductive IsDecimal : List Char → Nat → Prop
  | digit {c : Char} (h : c.isDigit = true) : IsDecimal [c] (digitValue c)
  | snoc {front : List Char} {n : Nat} {c : Char} (before : IsDecimal front n)
      (h : c.isDigit = true) : IsDecimal (front ++ [c]) (10 * n + digitValue c)

/-- One more digit makes ten times the number and the digit. -/
theorem ofDigitChars_snoc (front : List Char) (c : Char) :
    Nat.ofDigitChars 10 (front ++ [c]) 0 = 10 * Nat.ofDigitChars 10 front 0 + digitValue c := by
  rw [Nat.ofDigitChars_append, Nat.ofDigitChars_cons, Nat.ofDigitChars_nil, digitValue]

/-- Digits stand for the number that is computed from them. -/
theorem isDecimal_of_all {cs : List Char} (ne_nil : cs ≠ []) (digits : cs.all Char.isDigit = true) :
    IsDecimal cs (Nat.ofDigitChars 10 cs 0) := by
  induction cs using List.reverseRecOn with
  | nil => contradiction
  | append_singleton front c ih =>
    obtain ⟨front_digits, digit⟩ : front.all Char.isDigit = true ∧ c.isDigit = true := by
      simpa using digits
    rw [ofDigitChars_snoc]
    by_cases first : front = []
    · subst first
      simpa using IsDecimal.digit digit
    · exact .snoc (ih first front_digits) digit

/-- Reading digits one after another computes their decimal value. -/
theorem isDecimal_iff (cs : List Char) (n : Nat) :
    IsDecimal cs n ↔
      (cs ≠ [] ∧ cs.all Char.isDigit = true) ∧ Nat.ofDigitChars 10 cs 0 = n := by
  constructor
  · intro decimal
    induction decimal with
    | @digit c h =>
      have value := ofDigitChars_snoc [] c
      rw [Nat.ofDigitChars_nil, Nat.mul_zero, Nat.zero_add] at value
      simp [h, ← value]
    | snoc before h ih =>
      obtain ⟨⟨-, digits⟩, value⟩ := ih
      rw [ofDigitChars_snoc, value]
      simp [digits, h]
  · rintro ⟨⟨ne_nil, digits⟩, rfl⟩
    exact isDecimal_of_all ne_nil digits

/-- No sign is a digit. -/
theorem IsDecimal.no_sign {rest : List Char} {n : Nat} : ¬ IsDecimal ('+' :: rest) n := by
  intro decimal
  have digits := ((isDecimal_iff _ n).mp decimal).1.2
  have sign : Char.isDigit '+' = true := List.all_eq_true.mp digits '+' (List.mem_cons_self ..)
  exact absurd sign (by decide)

/-- The digits that a number is written with stand for it. -/
theorem isDecimal_toDigits (n : Nat) : IsDecimal (Nat.toDigits 10 n) n :=
  (isDecimal_iff _ n).mpr ⟨⟨Nat.toDigits_ne_nil, List.all_eq_true.mpr fun _ mem =>
    Nat.isDigit_of_mem_toDigits (by decide) (by decide) mem⟩, Nat.ofDigitChars_ten_toDigits⟩

/-! ## The grammar -/

/-- The spellings of a number: decimal digits, with or without a plus sign before them. -/
inductive Spelling : List Char → Nat → Prop
  | plain {cs : List Char} {n : Nat} (h : IsDecimal cs n) : Spelling cs n
  | signed {cs : List Char} {n : Nat} (h : IsDecimal cs n) : Spelling ('+' :: cs) n

/-- A plus sign changes nothing. -/
theorem spelling_iff (cs : List Char) (n : Nat) : Spelling cs n ↔ IsDecimal (unsigned cs) n := by
  unfold unsigned
  split
  · rename_i rest
    constructor
    · intro spelling
      cases spelling with
      | plain h => exact absurd h IsDecimal.no_sign
      | signed h => exact h
    · exact .signed
  · rename_i no_sign
    constructor
    · intro spelling
      cases spelling with
      | plain h => exact h
      | signed h => exact absurd rfl (no_sign _)
    · exact .plain

/-- A spelling is read as the port of its number. -/
theorem Spelling.ofDigits?_eq {cs : List Char} {n : Nat} (spelling : Spelling cs n) :
    ofDigits? cs = ofNat? n := by
  obtain ⟨decimal, value⟩ := (isDecimal_iff _ n).mp ((spelling_iff cs n).mp spelling)
  simp only [ofDigits?]
  rw [if_pos decimal, value]

/-- What is read without white space around it are the spellings of the port's number. -/
theorem ofDigits?_eq_some_iff (cs : List Char) (port : Port) :
    ofDigits? cs = some port ↔ Spelling cs port.number := by
  constructor
  · intro read
    simp only [ofDigits?] at read
    split at read
    · rename_i decimal
      exact (spelling_iff cs _).mpr
        ((isDecimal_iff _ _).mpr ⟨decimal, (ofNat?_eq_some_iff _ port).mp read⟩)
    · cases read
  · intro spelling
    rw [spelling.ofDigits?_eq, ofNat?_eq_some_iff]

/-- A text spells a number, with white space around it or not. -/
def SpelledBy (text : String) (n : Nat) : Prop :=
  Spelling (Text.trim text).toList n

/-- A text that spells a number is read as the port of that number. -/
theorem SpelledBy.parse_eq {text : String} {n : Nat} (spelled : SpelledBy text n) :
    parse text =
      match ofNat? n with
      | some port => .ok port
      | none => .error (.validation ("invalid port: " ++ text)) := by
  have read := Spelling.ofDigits?_eq spelled
  rw [Text.toList_trim] at read
  cases known : ofNat? n with
  | some port => simp only [parse, read, known]
  | none => simp only [parse, read, known]

/-- A port is read from the texts that spell its number. -/
theorem parse_eq_ok_iff (text : String) (port : Port) :
    parse text = .ok port ↔ SpelledBy text port.number := by
  rw [SpelledBy, ← ofDigits?_eq_some_iff, Text.toList_trim, parse]
  split
  · rename_i found
    simp [found]
  · rename_i found
    simp [found]

/-- The numbers of ports that a text spells are those of the ports that are read from it. -/
theorem exists_parse_iff (text : String) (n : Nat) :
    (∃ port, parse text = .ok port ∧ port.number = n) ↔
      SpelledBy text n ∧ 1 ≤ n ∧ n ≤ 65535 := by
  constructor
  · rintro ⟨port, read, rfl⟩
    exact ⟨(parse_eq_ok_iff text port).mp read, port.pos, port.le_max⟩
  · rintro ⟨spelled, pos, le_max⟩
    exact ⟨⟨n, pos, le_max⟩, (parse_eq_ok_iff text ⟨n, pos, le_max⟩).mpr spelled, rfl⟩

/-- Every other text is refused, and is quoted as it was given. -/
theorem parse_eq_error_iff (text : String) (e : Error) :
    parse text = .error e ↔
      (¬ ∃ n, SpelledBy text n ∧ 1 ≤ n ∧ n ≤ 65535) ∧
        e = .validation ("invalid port: " ++ text) := by
  have refused : (∃ n, SpelledBy text n ∧ 1 ≤ n ∧ n ≤ 65535) ↔ ∃ port, parse text = .ok port := by
    simp only [← exists_parse_iff]
    exact ⟨fun ⟨_, port, read, _⟩ => ⟨port, read⟩, fun ⟨port, read⟩ => ⟨_, port, read, rfl⟩⟩
  rw [refused, parse]
  split
  · simp
  · simp [eq_comm]

/-! ## Documents -/

/-- The text of a number spells it. -/
theorem spelledBy_toString (n : Nat) : SpelledBy (toString n) n := by
  have digits : (toString n).toList = Nat.toDigits 10 n := by
    rw [Nat.toString_eq_ofList_toDigits, String.toList_ofList]
  have plain {c : Char} (mem : c ∈ Nat.toDigits 10 n) : Text.isBlank c = false :=
    Text.isBlank_of_isDigit (Nat.isDigit_of_mem_toDigits (by decide) (by decide) mem)
  have trimmed : Text.trimBlanks (Nat.toDigits 10 n) = Nat.toDigits 10 n :=
    Text.trimBlanks_blankless (fun _ first => plain (List.mem_of_head? first))
      (fun _ last => plain (List.mem_of_getLast? last))
  rw [SpelledBy, Text.toList_trim, digits, trimmed]
  exact .plain (isDecimal_toDigits n)

/-- A number in a document is taken for the port of that number. -/
theorem decode_number {n : Nat} {doc : Json.Document} (spells : Json.Spells (.number n) doc)
    (le_max : n ≤ Json.Numeral.maxNatural) (origin : Json.Origin) :
    decode origin doc =
      match ofNat? n with
      | some port => .ok port
      | none => .error (.content (.invalidPort n)) := by
  cases spells with
  | number h =>
    cases known : ofNat? n <;>
      simp only [decode, Json.Document.validate, h.read le_max, h.natural le_max, Json.ofRead, bind,
        Except.bind, pure, Except.pure, known]

/-- A text in a document is taken for the port that is read from it. -/
theorem decode_text {text : String} {doc : Json.Document} (spells : Json.Spells (.string text) doc)
    (origin : Json.Origin) :
    decode origin doc =
      match parse text with
      | .ok port => .ok port
      | .error e => .error (.content (.refused e)) := by
  cases spells with
  | string h =>
    simp only [decode, Json.Document.validate, Json.Decoder.refine, Json.Decoder.text, h.text_eq,
      Json.ofRead, bind, Except.bind]
    cases parse text <;> rfl

/-- What is decoded from a number of 64 bits and from its decimal text: the same port, or no port
from either. -/
theorem decode_toString {m : UInt64} {number text : Json.Document}
    (number_spells : Json.Spells (.number m.toNat) number)
    (text_spells : Json.Spells (.string (toString m.toNat)) text) (origin : Json.Origin) :
    (∃ port : Port, port.number = m.toNat ∧ decode origin number = .ok port ∧
      decode origin text = .ok port) ∨
    (m.toNat = 0 ∨ 65535 < m.toNat) ∧
      decode origin number = .error (.content (.invalidPort m.toNat)) ∧
      decode origin text = .error (.content
        (.refused (.validation ("invalid port: " ++ toString m.toNat)))) := by
  have le_max : m.toNat ≤ Json.Numeral.maxNatural := Nat.le_pred_of_lt m.toNat_lt
  rw [decode_number number_spells le_max, decode_text text_spells,
    (spelledBy_toString m.toNat).parse_eq]
  rcases known : ofNat? m.toNat with _ | port
  · refine .inr ⟨?_, rfl, rfl⟩
    by_contra inside
    have := (ofNat?_eq_some_iff m.toNat ⟨m.toNat, by omega, by omega⟩).mpr rfl
    rw [known] at this
    cases this
  · exact .inl ⟨port, ((ofNat?_eq_some_iff _ port).mp known).symm, rfl, rfl⟩

/-- A number of 64 bits and its decimal text are taken for the same ports. -/
theorem decode_agree {m : UInt64} {number text : Json.Document}
    (number_spells : Json.Spells (.number m.toNat) number)
    (text_spells : Json.Spells (.string (toString m.toNat)) text) (origin : Json.Origin)
    (port : Port) : decode origin number = .ok port ↔ decode origin text = .ok port := by
  rcases decode_toString number_spells text_spells origin with
    ⟨taken, -, from_number, from_text⟩ | ⟨-, from_number, from_text⟩
  · rw [from_number, from_text]
  · simp [from_number, from_text]

/-- A text is read as a port exactly if without the white space around it it is one or more digits,
with or without a plus sign before them, whose decimal value is in the range of ports; all other
texts are refused and quoted with their white space.  A number of 64 bits in a document and its
decimal text are taken for the same port, or neither is taken for one.  A port is read and decoded
from the text that it is written as. -/
theorem spellings :
    (∀ text n, (∃ port, parse text = .ok port ∧ port.number = n) ↔
      Spelling (Text.trim text).toList n ∧ 1 ≤ n ∧ n ≤ 65535) ∧
    (∀ text e, parse text = .error e ↔
      (¬ ∃ n, Spelling (Text.trim text).toList n ∧ 1 ≤ n ∧ n ≤ 65535) ∧
        e = .validation ("invalid port: " ++ text)) ∧
    (∀ (m : UInt64) (origin : Json.Origin) (number text : Json.Document),
      Json.Spells (.number m.toNat) number → Json.Spells (.string (toString m.toNat)) text →
      (∀ port, decode origin number = .ok port ↔ decode origin text = .ok port) ∧
      ((∃ port : Port, port.number = m.toNat ∧ decode origin number = .ok port ∧
          decode origin text = .ok port) ∨
        (m.toNat = 0 ∨ 65535 < m.toNat) ∧
          decode origin number = .error (.content (.invalidPort m.toNat)) ∧
          decode origin text = .error (.content
            (.refused (.validation ("invalid port: " ++ toString m.toNat)))))) ∧
    ∀ port : Port, port.json = .string port.text ∧ parse port.text = .ok port ∧
      decode.Takes port.json port :=
  ⟨exists_parse_iff, parse_eq_error_iff,
    fun _ origin _ _ number_spells text_spells =>
      ⟨decode_agree number_spells text_spells origin,
        decode_toString number_spells text_spells origin⟩,
    fun port => ⟨rfl, port.parse_text, port.takes_text⟩⟩

/-- White space, a plus sign and leading zeros do not matter, but a space after the sign does; and a
document may have the number or its text. -/
theorem spellings_of_padded :
    let number := (Json.number 389).document
    let text := (Json.string "389").document
    (∃ port, parse "\u00A0 +00389\t" = .ok port ∧ port.number = 389) ∧
      (¬ ∃ n, Spelling (Text.trim "+ 389").toList n ∧ 1 ≤ n ∧ n ≤ 65535) ∧
      Json.Spells (.number 389) number ∧ Json.Spells (.string "389") text ∧
      (∃ port, port.number = 389 ∧ decode .value number = .ok port) ∧
      ∀ port, decode .value number = .ok port ↔ decode .value text = .ok port := by
  intro number text
  obtain ⟨reads, refuses, decodes, -⟩ := spellings
  have digits : IsDecimal ['0', '0', '3', '8', '9'] 389 :=
    (isDecimal_iff _ _).mpr (by decide)
  have trimmed : (Text.trim "\u00A0 +00389\t").toList = ['+', '0', '0', '3', '8', '9'] := by
    decide +kernel
  have signed : Spelling (Text.trim "\u00A0 +00389\t").toList 389 := by
    rw [trimmed]
    exact .signed digits
  have number_spells : Json.Spells (.number 389) number := Json.spells_document _
  have text_spells : Json.Spells (.string "389") text := Json.spells_document _
  have refused := (refuses "+ 389" (.validation "invalid port: + 389")).mp (by decide +kernel)
  obtain ⟨agree, ⟨port, is_number, decoded, -⟩ | ⟨outside, -⟩⟩ :=
    decodes 389 .value number text number_spells text_spells
  · exact ⟨(reads _ 389).mpr ⟨signed, by decide, by decide⟩, refused.1, number_spells, text_spells,
      ⟨port, is_number, decoded⟩, agree⟩
  · exact absurd outside (by decide)

end Port

end DirectorySignIn
