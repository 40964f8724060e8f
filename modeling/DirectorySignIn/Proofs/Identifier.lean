import DirectorySignIn.Identifier
import DirectorySignIn.Proofs.Json.Reader
import DirectorySignIn.Proofs.Text.Hex
import Mathlib.Logic.Equiv.Defs

/-!
# Spellings of an identifier

An identifier is spelled by its 32 hexadecimal digits, in small letters or capitals: alone, or in
five groups with hyphens between them, which may stand in braces or after `urn:uuid:`.  No other
text is an identifier.  Of all spellings of an identifier one is canonical, the one in groups and in
small letters; it is what the identifier is written as, and it can be told from any of the others
without computing the number.

Main results:

- `dehyphenate?_eq_some_iff`, `inGroups_iff`: groups of digits are taken apart and put together.
- `ofChars?_eq_some_iff`: what is read are the spellings.
- `isCanonical_iff`: an identifier has one canonical text.
- `Spelling.canonicalText_eq`: the canonical text is made of the digits of any spelling.
- `decode_eq`: a text in a document is taken for the identifier that is read from it.
- `lawfulTexts_tenantId_userId`: all of this for the identifiers of tenants and of users.
-/

namespace DirectorySignIn

namespace Uuid

/-! ## Groups of digits -/

/-- Characters in groups of the given lengths, with a hyphen between one group and the next. -/
inductive InGroups : (lengths : List Nat) → (cs digits : List Char) → Prop
  | last {n : Nat} {group : List Char} (length : group.length = n) : InGroups [n] group group
  | next {n : Nat} {lengths : List Nat} {group cs digits : List Char}
      (length : group.length = n) (rest : InGroups lengths cs digits) :
      InGroups (n :: lengths) (group ++ '-' :: cs) (group ++ digits)

variable {lengths : List Nat} {cs digits : List Char}

/-- Groups have as many digits as their lengths say together. -/
theorem InGroups.length_digits (groups : InGroups lengths cs digits) :
    digits.length = lengths.foldr (· + ·) 0 := by
  induction groups with
  | last length => simp [length]
  | next length rest ih => simp [length, ih]

/-- Groups have one hyphen less than there are groups. -/
theorem InGroups.length_chars (groups : InGroups lengths cs digits) :
    cs.length + 1 = digits.length + lengths.length := by
  induction groups with
  | last length => simp
  | next length rest ih =>
    simp only [List.length_append, List.length_cons]
    omega

/-- Beside the digits there are only hyphens. -/
theorem InGroups.mem_chars_iff (groups : InGroups lengths cs digits) {c : Char} (h : c ≠ '-') :
    c ∈ cs ↔ c ∈ digits := by
  induction groups with
  | last length => rfl
  | next length rest ih => simp [h, ih]

/-- Taking groups apart gives their digits. -/
theorem dehyphenate?_eq_some_iff :
    dehyphenate? lengths cs = some digits ↔ InGroups lengths cs digits := by
  constructor
  · intro apart
    fun_induction dehyphenate? lengths cs generalizing digits with
    | case1 => contradiction
    | case2 cs =>
      obtain rfl : cs = digits := Option.some.inj apart
      exact .last rfl
    | case3 => contradiction
    | case4 n lengths cs _ rest behind ih =>
      obtain ⟨others, further, rfl⟩ := Option.map_eq_some_iff.mp apart
      have first : (cs.take n).length = n := by
        have := congrArg List.length behind
        simp only [List.length_drop, List.length_cons] at this
        rw [List.length_take]
        omega
      have groups := InGroups.next first (ih further)
      rwa [← behind, List.take_append_drop] at groups
    | case5 => contradiction
  · intro groups
    induction groups with
    | last length => simp [dehyphenate?, length]
    | @next n lengths group cs digits length rest ih =>
      subst length
      cases rest with
      | last => simpa [dehyphenate?] using ih
      | next => simp [dehyphenate?, ih]

/-- Digits are put into groups in one way. -/
theorem inGroups_iff (some_group : lengths ≠ [])
    (enough : digits.length = lengths.foldr (· + ·) 0) :
    InGroups lengths cs digits ↔ cs = hyphenate lengths digits := by
  constructor
  · intro groups
    clear some_group enough
    induction groups with
    | last length => simp [hyphenate, ← length]
    | @next n lengths group cs digits length rest ih =>
      subst length
      cases rest with
      | last => simpa [hyphenate] using ih
      | next => simp [hyphenate, ih]
  · rintro rfl
    fun_induction hyphenate lengths digits with
    | case1 => contradiction
    | case2 n digits =>
      have length : digits.length = n := by simpa using enough
      rw [← length, List.take_length]
      exact .last rfl
    | case3 n lengths digits more ih =>
      rw [List.foldr_cons] at enough
      have groups := ih (by simpa using more) (by rw [List.length_drop]; omega)
      have first : (digits.take n).length = n := by
        rw [List.length_take]
        omega
      have whole := InGroups.next first groups
      rwa [List.take_append_drop] at whole

/-! ## Spellings -/

/-- A text has the 32 digits of a number in five groups. -/
def Grouped (cs : List Char) (n : Nat) : Prop :=
  ∃ digits, InGroups [8, 4, 4, 4, 12] cs digits ∧ Text.IsHex digits n

/-- The spellings of a number of 128 bits. -/
inductive Spelling : List Char → Nat → Prop
  | plain {cs : List Char} {n : Nat} (length : cs.length = 32) (digits : Text.IsHex cs n) :
      Spelling cs n
  | grouped {cs : List Char} {n : Nat} (groups : Grouped cs n) : Spelling cs n
  | braced {cs : List Char} {n : Nat} (groups : Grouped cs n) :
      Spelling ('\x7b' :: cs ++ ['\x7d']) n
  | named {name cs : List Char} {n : Nat} (isUrn : name.map Char.toLower = urn)
      (groups : Grouped cs n) : Spelling (name ++ cs) n

variable {n : Nat} {id : Uuid}

/-- The 32 digits and four hyphens are 36 characters. -/
theorem Grouped.length_eq (groups : Grouped cs n) : cs.length = 36 := by
  obtain ⟨digits, inGroups, -⟩ := groups
  have digits_length : digits.length = 32 := inGroups.length_digits
  have chars_length : cs.length + 1 = digits.length + 5 := inGroups.length_chars
  omega

/-- The hexadecimal digits among characters. -/
def hexDigitsIn (cs : List Char) : List Char :=
  cs.filter fun c => (Text.hexValue? c).isSome

/-- Hyphens are no hexadecimal digits. -/
theorem InGroups.hexDigitsIn_eq (groups : InGroups lengths cs digits) :
    hexDigitsIn cs = hexDigitsIn digits := by
  have hyphen : (Text.hexValue? '-').isSome = false := rfl
  induction groups with
  | last length => rfl
  | next length rest ih => simpa [hexDigitsIn, hyphen] using ih

/-- Whatever stands around the groups, the last 32 digits are those of the number. -/
theorem Spelling.exists_digits (spelling : Spelling cs n) :
    ∃ front digits, hexDigitsIn cs = front ++ digits ∧ digits.length = 32 ∧
      Text.IsHex digits n := by
  have brace {c : Char} (h : c = '\x7b' ∨ c = '\x7d') : (Text.hexValue? c).isSome = false := by
    rcases h with rfl | rfl <;> rfl
  have plain {digits : List Char} (hex : Text.IsHex digits n) : hexDigitsIn digits = digits :=
    List.filter_eq_self.mpr hex.isSome_hexValue?
  have grouped {cs : List Char} (groups : Grouped cs n) :
      ∃ digits, hexDigitsIn cs = digits ∧ digits.length = 32 ∧ Text.IsHex digits n := by
    obtain ⟨digits, inGroups, hex⟩ := groups
    exact ⟨digits, inGroups.hexDigitsIn_eq.trans (plain hex), inGroups.length_digits, hex⟩
  cases spelling with
  | plain length hex => exact ⟨[], cs, plain hex, length, hex⟩
  | grouped groups =>
    obtain ⟨digits, eq, length, hex⟩ := grouped groups
    exact ⟨[], digits, eq, length, hex⟩
  | braced groups =>
    obtain ⟨digits, eq, length, hex⟩ := grouped groups
    refine ⟨[], digits, ?_, length, hex⟩
    simpa [hexDigitsIn, brace] using eq
  | @named name cs _ _ groups =>
    obtain ⟨digits, eq, length, hex⟩ := grouped groups
    refine ⟨hexDigitsIn name, digits, ?_, length, hex⟩
    rw [← eq, hexDigitsIn, List.filter_append]
    rfl

/-- Whatever is spelled is a number of 128 bits. -/
theorem Spelling.exists_id (spelling : Spelling cs n) : ∃ id : Uuid, id.bits.toNat = n := by
  obtain ⟨front, digits, -, length, hex⟩ := spelling.exists_digits
  have small : n < Nat.pow 16 32 := length ▸ hex.lt
  exact ⟨⟨BitVec.ofNat 128 n⟩, Nat.mod_eq_of_lt small⟩

/-! ## Reading -/

/-- An identifier is read from exactly the rows of 32 digits that stand for its number. -/
theorem ofDigits?_eq_some_iff :
    ofDigits? cs = some id ↔ cs.length = 32 ∧ Text.IsHex cs id.bits.toNat := by
  unfold ofDigits?
  constructor
  · intro read
    split at read
    · rename_i length
      obtain ⟨n, number, rfl⟩ := Option.map_eq_some_iff.mp read
      have hex := Text.isHex_iff.mpr number
      have small : n < Nat.pow 16 32 := length ▸ hex.lt
      have value : (BitVec.ofNat 128 n).toNat = n := Nat.mod_eq_of_lt small
      exact ⟨length, value.symm ▸ hex⟩
    · contradiction
  · rintro ⟨length, hex⟩
    rw [if_pos length, Text.isHex_iff.mp hex, Option.map_some, BitVec.ofNat_toNat,
      BitVec.setWidth_eq]

/-- An identifier is read from exactly the groups of digits that stand for its number. -/
theorem ofGroups?_eq_some_iff : ofGroups? cs = some id ↔ Grouped cs id.bits.toNat := by
  unfold ofGroups? Grouped
  simp only [Option.bind_eq_some_iff, dehyphenate?_eq_some_iff, ofDigits?_eq_some_iff]
  refine exists_congr fun digits => and_congr_right fun groups => ?_
  exact and_iff_right groups.length_digits

/-- A text with these two ends is what is left between them with the ends put back. -/
theorem eq_braced {opening closing : Char} (first : cs.head? = some opening)
    (last : cs.getLast? = some closing) (long : 2 ≤ cs.length) :
    cs = opening :: (cs.drop 1).dropLast ++ [closing] := by
  obtain ⟨rest, rfl⟩ := List.head?_eq_some_iff.mp first
  obtain ⟨front, split⟩ := List.getLast?_eq_some_iff.mp last
  cases front with
  | nil =>
    rw [split] at long
    simp at long
  | cons c inside =>
    obtain ⟨rfl, rfl⟩ := List.cons.inj split
    simp

/-- What is read are the spellings. -/
theorem ofChars?_eq_some_iff : ofChars? cs = some id ↔ Spelling cs id.bits.toNat := by
  constructor
  · intro read
    unfold ofChars? at read
    split at read
    · exact .plain (ofDigits?_eq_some_iff.mp read).1 (ofDigits?_eq_some_iff.mp read).2
    · exact .grouped (ofGroups?_eq_some_iff.mp read)
    · rename_i length
      split at read
      · rename_i ends
        have braced := Spelling.braced (ofGroups?_eq_some_iff.mp read)
        rwa [← eq_braced ends.1 ends.2 (by omega)] at braced
      · contradiction
    · split at read
      · rename_i isUrn
        have named := Spelling.named isUrn (ofGroups?_eq_some_iff.mp read)
        rwa [List.take_append_drop] at named
      · contradiction
    · contradiction
  · intro spelling
    cases spelling with
    | plain length digits =>
      simp only [ofChars?, length, ofDigits?_eq_some_iff.mpr ⟨length, digits⟩]
    | grouped groups => simp only [ofChars?, groups.length_eq, ofGroups?_eq_some_iff.mpr groups]
    | @braced cs _ groups =>
      have length : ('\x7b' :: cs ++ ['\x7d']).length = 38 := by simp [groups.length_eq]
      have inside : (('\x7b' :: cs ++ ['\x7d']).drop 1).dropLast = cs := by simp
      have ends : ('\x7b' :: cs ++ ['\x7d']).head? = some '\x7b' ∧
          ('\x7b' :: cs ++ ['\x7d']).getLast? = some '\x7d' := ⟨rfl, List.getLast?_concat⟩
      simp only [ofChars?, length, if_pos ends, inside, ofGroups?_eq_some_iff.mpr groups]
    | @named name cs _ isUrn groups =>
      have name_length : name.length = 9 := by
        rw [← List.length_map Char.toLower, isUrn]
        rfl
      have length : (name ++ cs).length = 45 := by simp [groups.length_eq, name_length]
      have front : (name ++ cs).take 9 = name := by simp [← name_length]
      have back : (name ++ cs).drop 9 = cs := by simp [← name_length]
      simp only [ofChars?, length, front, back, if_pos isUrn, ofGroups?_eq_some_iff.mpr groups]

/-- An identifier is read from exactly its spellings. -/
theorem parse_eq_ok_iff {text : String} :
    parse text = .ok id ↔ Spelling text.toList id.bits.toNat := by
  rw [← ofChars?_eq_some_iff, parse]
  split
  · rename_i read
    simp [read]
  · rename_i unread
    simp [unread]

/-- All other texts are refused, and are quoted as they were given. -/
theorem parse_eq_error_iff {text : String} {e : Error} :
    parse text = .error e ↔
      (¬ ∃ n, Spelling text.toList n) ∧ e = .validation ("invalid identifier: " ++ text) := by
  have readable : (∃ n, Spelling text.toList n) ↔ ∃ id, ofChars? text.toList = some id := by
    constructor
    · rintro ⟨n, spelling⟩
      obtain ⟨id, rfl⟩ := spelling.exists_id
      exact ⟨id, ofChars?_eq_some_iff.mpr spelling⟩
    · rintro ⟨id, read⟩
      exact ⟨_, ofChars?_eq_some_iff.mp read⟩
  rw [readable, parse]
  split
  · rename_i read
    simp [read]
  · rename_i unread
    simp [unread, eq_comm]

/-! ## The canonical text -/

/-- Five groups of hexadecimal digits in small letters. -/
def IsCanonical (cs : List Char) : Prop :=
  ∃ digits, InGroups [8, 4, 4, 4, 12] cs digits ∧ ∀ c ∈ digits, ∃ d < 16, c = Nat.digitChar d

/-- The last 32 hexadecimal digits of a text, in small letters and in groups. -/
def canonicalText (text : String) : String :=
  let digits := hexDigitsIn text.toList
  .ofList (hyphenate groupLengths ((digits.drop (digits.length - 32)).map Char.toLower))

theorem toList_text (id : Uuid) :
    id.text.toList = hyphenate groupLengths (Text.hexDigits 32 id.bits.toNat) :=
  String.toList_ofList

/-- An identifier is written as its digits in five groups. -/
theorem inGroups_text (id : Uuid) :
    InGroups [8, 4, 4, 4, 12] id.text.toList (Text.hexDigits 32 id.bits.toNat) :=
  (inGroups_iff (by decide) (Text.length_hexDigits ..)).mpr id.toList_text

/-- An identifier is written as one of its spellings. -/
theorem spelling_text (id : Uuid) : Spelling id.text.toList id.bits.toNat :=
  .grouped ⟨_, id.inGroups_text, Text.isHex_hexDigits id.bits.isLt⟩

/-- An identifier is written in canonical form. -/
theorem isCanonical_text (id : Uuid) : IsCanonical id.text.toList :=
  ⟨_, id.inGroups_text, Text.forall_mem_hexDigits (fun d small => ⟨d, small, rfl⟩) 32 _⟩

/-- An identifier has one canonical text. -/
theorem isCanonical_iff :
    Spelling cs id.bits.toNat ∧ IsCanonical cs ↔ cs = id.text.toList := by
  constructor
  · rintro ⟨spelling, digits, groups, small⟩
    have digits_length : digits.length = 32 := groups.length_digits
    have chars_length : cs.length + 1 = digits.length + 5 := groups.length_chars
    -- Only the second spelling is as long as that.
    have hex : Text.IsHex digits id.bits.toNat := by
      have read := ofChars?_eq_some_iff.mpr spelling
      have length : cs.length = 36 := by omega
      simp only [ofChars?, length] at read
      obtain ⟨others, others_groups, hex⟩ := ofGroups?_eq_some_iff.mp read
      have same := (dehyphenate?_eq_some_iff.mpr others_groups).symm.trans
        (dehyphenate?_eq_some_iff.mpr groups)
      exact Option.some.inj same ▸ hex
    have lower : digits.map Char.toLower = digits := by
      refine (List.map_congr_left fun c mem => ?_).trans (List.map_id digits)
      obtain ⟨d, lt, rfl⟩ := small c mem
      exact Text.toLower_digitChar d lt
    rw [hex.map_toLower_eq, digits_length] at lower
    rw [toList_text, lower]
    exact (inGroups_iff (by decide) groups.length_digits).mp groups
  · intro canonical
    rw [canonical]
    exact ⟨id.spelling_text, id.isCanonical_text⟩

/-- The canonical text is made of the digits of any spelling. -/
theorem Spelling.canonicalText_eq {text : String}
    (spelling : Spelling text.toList id.bits.toNat) : canonicalText text = id.text := by
  obtain ⟨front, digits, eq, length, hex⟩ := spelling.exists_digits
  have last : (front ++ digits).drop ((front ++ digits).length - 32) = digits := by
    rw [List.length_append, length, Nat.add_sub_cancel, List.drop_left]
  rw [canonicalText, eq]
  simp only [last]
  rw [hex.map_toLower_eq, length, Uuid.text]

/-- An identifier is read from the text that it is written as. -/
theorem parse_text (id : Uuid) : parse id.text = .ok id :=
  parse_eq_ok_iff.mpr id.spelling_text

/-- Different identifiers are written differently. -/
theorem text_injective : Function.Injective text := by
  intro a b same
  have read := a.parse_text
  rw [same, parse_text] at read
  exact (Except.ok.inj read).symm

/-! ## Documents -/

/-- A text in a document is taken for the identifier that is read from it. -/
theorem decode_eq {text : String} {doc : Json.Document} (spells : Json.Spells (.string text) doc)
    (origin : Json.Origin) :
    decode origin doc =
      match parse text with
      | .ok id => .ok id
      | .error _ => Json.mismatched := by
  simp only [decode, parse, Json.Decoder.takes_text text origin doc spells, bind, Except.bind]
  cases ofChars? text.toList <;> rfl

/-- Nothing in the text of an identifier is escaped. -/
theorem text_document (id : Uuid) : (Json.string id.text).text = "\"" ++ id.text ++ "\"" := by
  have plain : ∀ c ∈ id.text.toList, Json.writeChar c = [c] := by
    intro c mem
    by_cases hyphen : c = '-'
    · rw [hyphen]
      rfl
    · exact Text.forall_mem_hexDigits (P := fun c => Json.writeChar c = [c]) (by decide) 32 _ c
        ((id.inGroups_text.mem_chars_iff hyphen).mp mem)
  have whole : id.text.toList.flatMap Json.writeChar = id.text.toList := by
    rw [List.flatMap_def, List.map_congr_left plain, ← List.flatMap_def, List.flatMap_singleton']
  rw [Json.text, Json.write, Json.writeString, whole, ← String.toList_inj]
  simp

/-! ## Identifiers of tenants and of users -/

/-- How identifiers of a kind are written and read: as the numbers that they stand for. -/
structure LawfulTexts {α : Type} [OfText α] (uuid : α ≃ Uuid) (text : α → String)
    (json : α → Json) (parse : String → Except Error α) (decode : Json.Decoder α) : Prop where
  /-- An identifier is read from its text and decoded from its document. -/
  roundTrip (id : α) : parse (text id) = .ok id ∧ decode.Answers (json id) (.ok id)
  /-- The document of an identifier is its text between quotes. -/
  quoted (id : α) : (json id).text = "\"" ++ text id ++ "\""
  /-- What is read are the spellings. -/
  reads_iff (input : String) (id : α) :
    parse input = .ok id ↔ Spelling input.toList (uuid id).bits.toNat
  /-- All other texts are refused, and are quoted as they were given. -/
  refuses_iff (input : String) (e : Error) :
    parse input = .error e ↔ (¬ ∃ n, Spelling input.toList n) ∧
      e = .validation ("invalid identifier: " ++ input)
  /-- All ways of reading agree. -/
  agree (input : String) :
    (∃ id, parse input = .ok id ∧ OfText.ofText input = .ok id ∧
      decode.Answers (.string input) (.ok id)) ∨
    ∃ e, parse input = .error e ∧ (OfText.ofText input : Except Error α) = .error e ∧
      decode.Answers (.string input) Json.mismatched
  /-- An identifier has one canonical text, which is the text that it is written as. -/
  canonical_iff (input : String) (id : α) :
    parse input = .ok id ∧ IsCanonical input.toList ↔ input = text id
  /-- It is made of the digits of whatever the identifier was read from. -/
  text_eq (input : String) (id : α) : parse input = .ok id → text id = canonicalText input
  /-- What is read from two texts is the same exactly if they agree in these digits. -/
  eq_iff (input other : String) (id id' : α) : parse input = .ok id → parse other = .ok id' →
    (id = id' ↔ canonicalText input = canonicalText other)

/-- Identifiers that are written and read as the numbers that they stand for have lawful texts. -/
theorem lawfulTexts_of_equiv {α : Type} [OfText α] (uuid : α ≃ Uuid)
    (ofText : ∀ input, OfText.ofText input = (parse input).map uuid.symm) :
    LawfulTexts uuid (fun id => (uuid id).text) (fun id => .string (uuid id).text)
      (fun input => (parse input).map uuid.symm)
      (fun origin doc => (decode origin doc).map uuid.symm) := by
  have reads {input : String} {id : α} :
      (parse input).map uuid.symm = .ok id ↔ parse input = .ok (uuid id) := by
    cases parse input <;> simp [Except.map, Equiv.symm_apply_eq]
  have refuses {input : String} {e : Error} :
      (parse input).map uuid.symm = .error e ↔ parse input = .error e := by
    cases parse input <;> simp [Except.map]
  let decodes : Json.Decoder α := fun origin doc => (decode origin doc).map uuid.symm
  have accepted {input : String} {id : α} (read : parse input = .ok (uuid id)) :
      decodes.Answers (.string input) (.ok id) := by
    refine .of_spelled fun origin doc spells => ?_
    simp [decodes, decode_eq spells, read, Except.map]
  have refused {input : String} {e : Error} (unread : parse input = .error e) :
      decodes.Answers (.string input) Json.mismatched := by
    refine .of_spelled fun origin doc spells => ?_
    simp [decodes, decode_eq spells, unread, Except.map, Json.mismatched]
  have canonical {input : String} {id : α} (read : parse input = .ok (uuid id)) :
      (uuid id).text = canonicalText input :=
    (parse_eq_ok_iff.mp read).canonicalText_eq.symm
  constructor
  case roundTrip =>
    intro id
    have read := (uuid id).parse_text
    exact ⟨reads.mpr read, accepted read⟩
  case quoted => exact fun id => (uuid id).text_document
  case reads_iff =>
    intro input id
    rw [reads, parse_eq_ok_iff]
  case refuses_iff =>
    intro input e
    rw [refuses, parse_eq_error_iff]
  case agree =>
    intro input
    rw [ofText]
    cases read : parse input with
    | ok number =>
      have read_id : parse input = .ok (uuid (uuid.symm number)) := by
        rw [read, uuid.apply_symm_apply]
      exact .inl ⟨uuid.symm number, rfl, rfl, accepted read_id⟩
    | error e => exact .inr ⟨e, rfl, rfl, refused read⟩
  case canonical_iff =>
    intro input id
    rw [reads, parse_eq_ok_iff, isCanonical_iff, String.toList_inj]
  case text_eq =>
    intro input id read
    exact canonical (reads.mp read)
  case eq_iff =>
    intro input other id id' read read'
    rw [← canonical (reads.mp read), ← canonical (reads.mp read'), text_injective.eq_iff,
      uuid.apply_eq_iff_eq]

end Uuid

/-- The identifiers of tenants are the numbers of 128 bits. -/
def TenantId.equivUuid : TenantId ≃ Uuid where
  toFun := uuid
  invFun := mk
  left_inv _ := rfl
  right_inv _ := rfl

/-- The identifiers of users are the numbers of 128 bits. -/
def UserId.equivUuid : UserId ≃ Uuid where
  toFun := uuid
  invFun := mk
  left_inv _ := rfl
  right_inv _ := rfl

/-- For tenants and for users alike, every identifier is read from the text that it is written as and
decoded from its document.  Read are the four spellings, and everything else is refused and quoted.
Reading a text, reading it by its type and decoding it agree.  An identifier has one canonical text,
which is what it is written as, and which is made of the digits of every text that it is read from;
two texts are read as the same identifier exactly if their canonical texts are equal. -/
theorem Uuid.lawfulTexts_tenantId_userId :
    LawfulTexts TenantId.equivUuid TenantId.text TenantId.json TenantId.parse TenantId.decode ∧
      LawfulTexts UserId.equivUuid UserId.text UserId.json UserId.parse UserId.decode :=
  ⟨lawfulTexts_of_equiv TenantId.equivUuid fun _ => rfl,
    lawfulTexts_of_equiv UserId.equivUuid fun _ => rfl⟩

/-- A tenant's identifier in capitals after the name of its scheme and in mixed letters between
braces, a user's without hyphens, and the same between braces, which is none. -/
theorem Uuid.lawfulTexts_tenantId_userId_mixed :
    let named := "URN:uuid:550E8400-E29B-41D4-A716-446655440000"
    let braced := "\x7b550e8400-E29B-41d4-a716-446655440000\x7d"
    let bare := "550e8400E29b41d4a716446655440000"
    let bareBraced := "\x7b550e8400E29b41d4a716446655440000\x7d"
    let id : Uuid := ⟨0x550e8400e29b41d4a716446655440000⟩
    TenantId.parse named = .ok ⟨id⟩ ∧ TenantId.parse braced = .ok ⟨id⟩ ∧
      canonicalText named = canonicalText braced ∧
      TenantId.text ⟨id⟩ = "550e8400-e29b-41d4-a716-446655440000" ∧
      UserId.parse bare = .ok ⟨id⟩ ∧ Spelling bare.toList id.bits.toNat ∧
      UserId.parse bareBraced = .error (.validation ("invalid identifier: " ++ bareBraced)) ∧
      ¬ ∃ n, Spelling bareBraced.toList n := by
  intro named braced bare bareBraced id
  obtain ⟨tenants, users⟩ := lawfulTexts_tenantId_userId
  have read_named : TenantId.parse named = .ok ⟨id⟩ := by decide +kernel
  have read_braced : TenantId.parse braced = .ok ⟨id⟩ := by decide +kernel
  have read_bare : UserId.parse bare = .ok ⟨id⟩ := by decide +kernel
  have refused : UserId.parse bareBraced =
      .error (.validation ("invalid identifier: " ++ bareBraced)) := by decide +kernel
  have same := (tenants.eq_iff named braced ⟨id⟩ ⟨id⟩ read_named read_braced).mp rfl
  have canonical : canonicalText named = "550e8400-e29b-41d4-a716-446655440000" := by
    decide +kernel
  have written := (tenants.text_eq named ⟨id⟩ read_named).trans canonical
  exact ⟨read_named, read_braced, same, written, read_bare, (users.reads_iff bare ⟨id⟩).mp read_bare,
    refused, ((users.refuses_iff bareBraced _).mp refused).1⟩

end DirectorySignIn
