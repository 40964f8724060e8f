import DirectorySignIn.Directory.Filter
import DirectorySignIn.Text.Hex
import Mathlib.Data.List.Forall2

/-!
# The grammar of search filters

The string form of search filters of RFC 4515, with its attribute descriptions, as a relation
between a text and the tree that it stands for.

Main results:

- `isAttribute_chars`: an attribute description holds letters, digits, hyphens, dots and
  semicolons only.
- `IsValue.plain`: the value of an assertion holds no parenthesis and no asterisk.
- `IsItem.unbracketed` and `IsItem.first`: an item holds no parenthesis and starts with a name or
  with a colon.
- `IsFilter.wrapped` and `IsComponent.not_wrapped`: a filter stands in parentheses, what stands
  in them does not.
-/

namespace DirectorySignIn.Filter

/-! ## Attribute descriptions -/

/-- A character that may stand in the name of an attribute or in an option of it. -/
def isKeyChar (c : Char) : Bool :=
  c.isAlphanum || c == '-'

/-- A name: a letter, then letters, digits and hyphens. -/
def isDescriptor : List Char → Bool
  | [] => false
  | c :: rest => c.isAlpha && rest.all isKeyChar

/-- A decimal number without leading zeros. -/
def isNumber : List Char → Bool
  | [] => false
  | [c] => c.isDigit
  | c :: rest => c.isDigit && c != '0' && rest.all Char.isDigit

/-- At least two numbers with dots between them. -/
def isNumericOid (cs : List Char) : Bool :=
  2 ≤ (cs.splitOn '.').length && (cs.splitOn '.').all isNumber

/-- An object identifier, by name or by number. -/
def isOid (cs : List Char) : Bool :=
  isDescriptor cs || isNumericOid cs

/-- An option of an attribute description. -/
def isOption (cs : List Char) : Bool :=
  !cs.isEmpty && cs.all isKeyChar

/-- An object identifier and options, each of which has a semicolon before it. -/
def isAttribute (cs : List Char) : Bool :=
  match cs.splitOn ';' with
  | oid :: options => isOid oid && options.all isOption
  | [] => false

/-- A character of an attribute description or a matching rule. -/
def isNameChar (c : Char) : Bool :=
  isKeyChar c || c == '.' || c == ';'

/-- A character of a key may stand in an attribute description. -/
theorem isNameChar_of_isKeyChar {c : Char} (h : isKeyChar c = true) : isNameChar c = true := by
  simp [isNameChar, h]

/-- A name holds no character of the syntax around it. -/
theorem ne_of_isNameChar {c x : Char} (hc : isNameChar c = true) (hx : isNameChar x = false) :
    c ≠ x := by
  rintro rfl
  rw [hc] at hx
  contradiction

/-- Each character of a joined text is the separator or stands in a part. -/
theorem mem_intercalate {separator c : Char} {parts : List (List Char)}
    (h : c ∈ [separator].intercalate parts) : c = separator ∨ ∃ part ∈ parts, c ∈ part := by
  induction parts with
  | nil => simp at h
  | cons part parts ih =>
    cases parts with
    | nil => exact .inr ⟨part, by simp, by simpa using h⟩
    | cons next others =>
      rw [List.intercalate_cons_cons, List.mem_append, List.mem_append] at h
      rcases h with (hpart | hseparator) | hothers
      · exact .inr ⟨part, by simp, hpart⟩
      · exact .inl (by simpa using hseparator)
      · rcases ih hothers with heq | ⟨other, hother, hc⟩
        · exact .inl heq
        · exact .inr ⟨other, List.mem_cons_of_mem part hother, hc⟩

/-- A character of a text is the separator or stands in one of the parts. -/
theorem mem_splitOn (separator : Char) {c : Char} {cs : List Char} (h : c ∈ cs) :
    c = separator ∨ ∃ part ∈ cs.splitOn separator, c ∈ part := by
  have hjoin : [separator].intercalate (cs.splitOn separator) = cs :=
    List.intercalate_splitOn separator
  rw [← hjoin] at h
  exact mem_intercalate h

/-- A name has only characters of attribute descriptions. -/
theorem isDescriptor_chars {cs : List Char} (h : isDescriptor cs = true) :
    ∀ c ∈ cs, isNameChar c = true := by
  cases cs with
  | nil => simp [isDescriptor] at h
  | cons first rest =>
    simp only [isDescriptor, Bool.and_eq_true, List.all_eq_true] at h
    intro c hc
    rcases List.mem_cons.mp hc with rfl | hrest
    · exact isNameChar_of_isKeyChar (by simp [isKeyChar, Char.isAlphanum, h.1])
    · exact isNameChar_of_isKeyChar (h.2 c hrest)

/-- A number has only characters of attribute descriptions. -/
theorem isNumber_chars {cs : List Char} (h : isNumber cs = true) :
    ∀ c ∈ cs, isNameChar c = true := by
  have digits : ∀ c ∈ cs, c.isDigit = true := by
    unfold isNumber at h
    split at h <;> simp_all
  intro c hc
  exact isNameChar_of_isKeyChar (by simp [isKeyChar, Char.isAlphanum, digits c hc])

/-- An object identifier has only characters of attribute descriptions. -/
theorem isOid_chars {cs : List Char} (h : isOid cs = true) : ∀ c ∈ cs, isNameChar c = true := by
  intro c hc
  rcases (Bool.or_eq_true _ _).mp h with hname | hnumbers
  · exact isDescriptor_chars hname c hc
  · simp only [isNumericOid, Bool.and_eq_true, List.all_eq_true] at hnumbers
    rcases mem_splitOn '.' hc with rfl | ⟨part, hpart, hmem⟩
    · rfl
    · exact isNumber_chars (hnumbers.2 part hpart) c hmem

/-- An attribute description holds letters, digits, hyphens, dots and semicolons only. -/
theorem isAttribute_chars {cs : List Char} (h : isAttribute cs = true) :
    ∀ c ∈ cs, isNameChar c = true := by
  intro c hc
  unfold isAttribute at h
  split at h
  case h_2 => contradiction
  case h_1 oid options hsplit =>
    simp only [isOption, Bool.and_eq_true, List.all_eq_true] at h
    rcases mem_splitOn ';' hc with rfl | ⟨part, hpart, hmem⟩
    · rfl
    · rw [hsplit] at hpart
      rcases List.mem_cons.mp hpart with rfl | hoption
      · exact isOid_chars h.1 c hmem
      · exact isNameChar_of_isKeyChar ((h.2 part hoption).2 c hmem)

/-- An attribute description is not empty. -/
theorem isAttribute_ne_nil {cs : List Char} (h : isAttribute cs = true) : cs ≠ [] := by
  rintro rfl
  simp [isAttribute, isOid, isDescriptor, isNumericOid] at h

/-! ## Values -/

/-- A character that stands in a value only as a backslash and two hexadecimal digits. -/
def isReserved (c : Char) : Bool :=
  isStructural c || c == '\\'

/-- The values of the grammar and the octets that they stand for: an escape for the octet of its
two digits, all other characters in UTF-8. -/
inductive IsValue : List Char → List UInt8 → Prop where
  | nil : IsValue [] []
  | normal {c : Char} {rest : List Char} {bytes : List UInt8} (plain : isReserved c = false)
      (following : IsValue rest bytes) :
      IsValue (c :: rest) (String.utf8EncodeChar c ++ bytes)
  | escaped {high low : Char} {h l : Nat} {rest : List Char} {bytes : List UInt8}
      (first : Text.hexValue? high = some h) (second : Text.hexValue? low = some l)
      (following : IsValue rest bytes) :
      IsValue ('\\' :: high :: low :: rest) (UInt8.ofNat (16 * h + l) :: bytes)

/-- A hexadecimal digit has no meaning of its own in a filter. -/
theorem isStructural_of_hexValue? {c : Char} {n : Nat} (h : Text.hexValue? c = some n) :
    isStructural c = false := by
  rw [Bool.eq_false_iff]
  intro hc
  simp only [isStructural, Bool.or_eq_true, beq_iff_eq] at hc
  rcases hc with ((rfl | rfl) | rfl) | rfl <;> simp [Text.hexValue?] at h

/-- The value of an assertion holds no parenthesis and no asterisk. -/
theorem IsValue.plain {cs : List Char} {bytes : List UInt8} (h : IsValue cs bytes) :
    ∀ c ∈ cs, isStructural c = false := by
  induction h with
  | nil => simp
  | normal plain _ ih =>
    simp only [isReserved, Bool.or_eq_false_iff] at plain
    exact List.forall_mem_cons.mpr ⟨plain.1, ih⟩
  | escaped first second _ ih =>
    have hfirst := isStructural_of_hexValue? first
    have hsecond := isStructural_of_hexValue? second
    simp only [List.forall_mem_cons]
    exact ⟨rfl, hfirst, hsecond, ih⟩

/-- If parts stand for values one for one, each of them stands for one. -/
theorem exists_isValue_of_mem {parts : List (List Char)} {values : List (List UInt8)}
    (h : List.Forall₂ IsValue parts values) : ∀ part ∈ parts, ∃ bytes, IsValue part bytes := by
  induction h with
  | nil => simp
  | cons valued _ ih => exact List.forall_mem_cons.mpr ⟨⟨_, valued⟩, ih⟩

/-- Only the empty value has no octets. -/
theorem isValue_nil_iff (cs : List Char) : IsValue cs [] ↔ cs = [] := by
  constructor
  · intro h
    generalize hbytes : ([] : List UInt8) = bytes at h
    cases h with
    | nil => rfl
    | normal _ _ =>
      rename_i c _ _ _ _
      have hlength := String.length_utf8EncodeChar c
      rw [(List.nil_eq_append_iff.mp hbytes).1] at hlength
      exact absurd hlength (Nat.ne_of_lt c.utf8Size_pos)
    | escaped _ _ _ => contradiction
  · rintro rfl
    exact .nil

/-! ## Trees -/

/-- The comparisons of an attribute with one value. -/
inductive Comparison where
  | equal
  | approximate
  | atLeast
  | atMost
  deriving DecidableEq, Repr

/-- A comparison as it stands between an attribute and a value. -/
def Comparison.symbol : Comparison → List Char
  | equal => ['=']
  | approximate => ['~', '=']
  | atLeast => ['>', '=']
  | atMost => ['<', '=']

/-- What an extensible match looks at: an attribute, the parts of the entry's own name, and
the rule by which values are compared. -/
structure Scope where
  /-- The attribute, if one is given. -/
  name : Option (List Char)
  /-- Whether the attributes in the distinguished name count too. -/
  inName : Bool
  /-- The matching rule, if one is given. -/
  rule : Option (List Char)
  deriving DecidableEq, Repr

/-- A condition on one attribute. -/
inductive Item where
  /-- The attribute compares with the value in the given way. -/
  | compare (comparison : Comparison) (name : List Char) (value : List UInt8)
  /-- The attribute has some value. -/
  | present (name : List Char)
  /-- Some value consists of the given parts with anything between them. -/
  | substring (name : List Char) (parts : List (List UInt8))
  /-- A match by a rule of its own. -/
  | extensible (scope : Scope) (value : List UInt8)
  deriving DecidableEq, Repr

/-- What a filter stands for. -/
inductive Tree where
  | item (item : Item)
  | not (tree : Tree)
  | and (trees : List Tree)
  | or (trees : List Tree)

/-! ## Items -/

/-- Whether a text is the mark that the distinguished name counts too, in either case. -/
def isNamesMark (cs : List Char) : Bool :=
  [['d', 'n'], ['d', 'N'], ['D', 'n'], ['D', 'N']].contains cs

/-- The scopes of extensible matches by their parts, which have colons between them.  The mark
comes before the rule; a lone mark without an attribute is a rule of that name. -/
inductive IsScope : List (List Char) → Scope → Prop where
  | name {name : List Char} (named : isAttribute name = true) :
      IsScope [name] ⟨some name, false, none⟩
  | nameMark {name mark : List Char} (named : isAttribute name = true)
      (marked : isNamesMark mark = true) : IsScope [name, mark] ⟨some name, true, none⟩
  | nameRule {name rule : List Char} (named : isAttribute name = true)
      (ruled : isOid rule = true) (unmarked : isNamesMark rule = false) :
      IsScope [name, rule] ⟨some name, false, some rule⟩
  | nameMarkRule {name mark rule : List Char} (named : isAttribute name = true)
      (marked : isNamesMark mark = true) (ruled : isOid rule = true) :
      IsScope [name, mark, rule] ⟨some name, true, some rule⟩
  | rule {rule : List Char} (ruled : isOid rule = true) :
      IsScope [[], rule] ⟨none, false, some rule⟩
  | markRule {mark rule : List Char} (marked : isNamesMark mark = true)
      (ruled : isOid rule = true) : IsScope [[], mark, rule] ⟨none, true, some rule⟩

/-- The items of the grammar. -/
inductive IsItem : List Char → Item → Prop where
  | compare {name value : List Char} {bytes : List UInt8} (comparison : Comparison)
      (named : isAttribute name = true) (valued : IsValue value bytes) :
      IsItem (name ++ comparison.symbol ++ value) (.compare comparison name bytes)
  | present {name : List Char} (named : isAttribute name = true) :
      IsItem (name ++ ['=', '*']) (.present name)
  | substring {name : List Char} {parts : List (List Char)} {values : List (List UInt8)}
      (named : isAttribute name = true) (valued : List.Forall₂ IsValue parts values)
      (several : 2 ≤ values.length) (given : values ≠ [[], []]) :
      IsItem (name ++ '=' :: ['*'].intercalate parts) (.substring name values)
  | extensible {parts : List (List Char)} {scope : Scope} {value : List Char}
      {bytes : List UInt8} (matched : IsScope parts scope) (valued : IsValue value bytes) :
      IsItem ([':'].intercalate parts ++ [':', '='] ++ value) (.extensible scope bytes)

/-- The mark of the distinguished name has only characters of attribute descriptions. -/
theorem isNamesMark_chars {cs : List Char} (h : isNamesMark cs = true) :
    ∀ c ∈ cs, isNameChar c = true := by
  simp only [isNamesMark, List.contains_iff_mem, List.mem_cons, List.not_mem_nil, or_false] at h
  rcases h with rfl | rfl | rfl | rfl <;> exact List.all_eq_true.mp rfl

/-- The parts of a scope hold no colon, and there is at least one. -/
theorem IsScope.chars {parts : List (List Char)} {scope : Scope} (h : IsScope parts scope) :
    parts ≠ [] ∧ ∀ part ∈ parts, ∀ c ∈ part, isNameChar c = true := by
  cases h with
  | name named => simpa using isAttribute_chars named
  | nameMark named marked =>
    simpa using ⟨isAttribute_chars named, isNamesMark_chars marked⟩
  | nameRule named ruled _ =>
    simpa using ⟨isAttribute_chars named, isOid_chars ruled⟩
  | nameMarkRule named marked ruled =>
    simpa using ⟨isAttribute_chars named, isNamesMark_chars marked, isOid_chars ruled⟩
  | rule ruled => simpa using isOid_chars ruled
  | markRule marked ruled => simpa using ⟨isNamesMark_chars marked, isOid_chars ruled⟩

/-- A character that an item may hold before its equals sign. -/
def isHeadChar (c : Char) : Bool :=
  isNameChar c || c == ':' || c == '~' || c == '<' || c == '>'

/-- A character of an attribute description may stand before an equals sign. -/
theorem isHeadChar_of_isNameChar {c : Char} (h : isNameChar c = true) : isHeadChar c = true := by
  simp [isHeadChar, h]

/-- The scope of an extensible match may stand before an equals sign. -/
theorem IsScope.head {parts : List (List Char)} {scope : Scope} (h : IsScope parts scope) :
    ∀ c ∈ [':'].intercalate parts, isHeadChar c = true := by
  intro c hc
  rcases mem_intercalate hc with rfl | ⟨part, hpart, hmem⟩
  · rfl
  · exact isHeadChar_of_isNameChar (h.chars.2 part hpart c hmem)

/-- A parenthesis. -/
def isBracket (c : Char) : Bool :=
  c == '(' || c == ')'

/-- What may stand before an equals sign is no parenthesis. -/
theorem isBracket_of_isHeadChar {c : Char} (h : isHeadChar c = true) : isBracket c = false := by
  rw [Bool.eq_false_iff]
  intro hc
  simp only [isBracket, Bool.or_eq_true, beq_iff_eq] at hc
  rcases hc with rfl | rfl <;> contradiction

/-- A character without a meaning of its own in a filter is no parenthesis. -/
theorem isBracket_of_isStructural {c : Char} (h : isStructural c = false) :
    isBracket c = false := by
  simp only [isStructural, Bool.or_eq_false_iff] at h
  simp [isBracket, h]

/-- The symbol of a comparison ends with the equals sign. -/
theorem Comparison.head (comparison : Comparison) :
    ∃ before, comparison.symbol = before ++ ['='] ∧ ∀ c ∈ before, isHeadChar c = true := by
  cases comparison
  · exact ⟨[], rfl, by simp⟩
  · exact ⟨['~'], rfl, List.all_eq_true.mp rfl⟩
  · exact ⟨['>'], rfl, List.all_eq_true.mp rfl⟩
  · exact ⟨['<'], rfl, List.all_eq_true.mp rfl⟩

/-- An item holds no parenthesis. -/
theorem IsItem.unbracketed {cs : List Char} {item : Item} (h : IsItem cs item) :
    ∀ c ∈ cs, isBracket c = false := by
  have names : ∀ {name : List Char}, isAttribute name = true → ∀ c ∈ name, isBracket c = false :=
    fun named c hc =>
      isBracket_of_isHeadChar (isHeadChar_of_isNameChar (isAttribute_chars named c hc))
  have values : ∀ {value : List Char} {bytes : List UInt8}, IsValue value bytes →
      ∀ c ∈ value, isBracket c = false :=
    fun valued c hc => isBracket_of_isStructural (valued.plain c hc)
  intro c hc
  cases h with
  | compare comparison named valued =>
    obtain ⟨before, hsymbol, hbefore⟩ := comparison.head
    simp only [hsymbol, List.mem_append, List.mem_singleton] at hc
    rcases hc with (hname | (hc | rfl)) | hvalue
    · exact names named c hname
    · exact isBracket_of_isHeadChar (hbefore c hc)
    · rfl
    · exact values valued c hvalue
  | present named =>
    rcases List.mem_append.mp hc with hname | hsymbol
    · exact names named c hname
    · have hplain : ∀ x ∈ ['=', '*'], isBracket x = false := by simp [isBracket]
      exact hplain c hsymbol
  | substring named valued _ _ =>
    simp only [List.mem_append, List.mem_cons] at hc
    rcases hc with hname | rfl | hparts
    · exact names named c hname
    · rfl
    · rcases mem_intercalate hparts with rfl | ⟨part, hpart, hmem⟩
      · rfl
      · obtain ⟨bytes, hvalue⟩ := exists_isValue_of_mem valued part hpart
        exact values hvalue c hmem
  | extensible matched valued =>
    simp only [List.mem_append] at hc
    rcases hc with (hparts | hsymbol) | hvalue
    · exact isBracket_of_isHeadChar (matched.head c hparts)
    · have hplain : ∀ x ∈ [':', '='], isBracket x = false := by simp [isBracket]
      exact hplain c hsymbol
    · exact values valued c hvalue

/-- An item starts with a letter or digit of an attribute, or with a colon. -/
theorem IsItem.first {cs : List Char} {item : Item} (h : IsItem cs item) :
    ∃ c rest, cs = c :: rest ∧ (isNameChar c = true ∨ c = ':') := by
  have names : ∀ {name : List Char} (others : List Char), isAttribute name = true →
      ∃ c rest, name ++ others = c :: rest ∧ (isNameChar c = true ∨ c = ':') := by
    intro name others named
    obtain ⟨c, rest, rfl⟩ := List.exists_cons_of_ne_nil (isAttribute_ne_nil named)
    exact ⟨c, rest ++ others, rfl, .inl (isAttribute_chars named c List.mem_cons_self)⟩
  cases h with
  | compare comparison named valued =>
    rw [List.append_assoc]
    exact names _ named
  | present named => exact names _ named
  | substring named _ _ _ => exact names _ named
  | @extensible parts _ value _ matched _ =>
    cases hparts : [':'].intercalate parts with
    | nil => exact ⟨':', '=' :: value, rfl, .inr rfl⟩
    | cons c rest =>
      refine ⟨c, rest ++ [':', '='] ++ value, rfl, ?_⟩
      have hc : c ∈ [':'].intercalate parts := by rw [hparts]; exact List.mem_cons_self
      rcases mem_intercalate hc with rfl | ⟨part, hpart, hmem⟩
      · exact .inr rfl
      · exact .inl (matched.chars.2 part hpart c hmem)

/-! ## Filters -/


mutual

/-- The filters of the grammar: a component in parentheses. -/
inductive IsFilter : List Char → Tree → Prop where
  | wrap {cs : List Char} {tree : Tree} (component : IsComponent cs tree) :
      IsFilter ('(' :: cs ++ [')']) tree

/-- What may stand in the parentheses of a filter. -/
inductive IsComponent : List Char → Tree → Prop where
  | and {cs : List Char} {trees : List Tree} (filters : IsFilters cs trees) :
      IsComponent ('&' :: cs) (.and trees)
  | or {cs : List Char} {trees : List Tree} (filters : IsFilters cs trees) :
      IsComponent ('|' :: cs) (.or trees)
  | not {cs : List Char} {tree : Tree} (filter : IsFilter cs tree) :
      IsComponent ('!' :: cs) (.not tree)
  | item {cs : List Char} {item : Item} (described : IsItem cs item) :
      IsComponent cs (.item item)

/-- One filter or several. -/
inductive IsFilters : List Char → List Tree → Prop where
  | one {cs : List Char} {tree : Tree} (filter : IsFilter cs tree) : IsFilters cs [tree]
  | more {cs others : List Char} {tree : Tree} {trees : List Tree} (filter : IsFilter cs tree)
      (filters : IsFilters others trees) : IsFilters (cs ++ others) (tree :: trees)

end

/-- A filter starts with a parenthesis and ends with one. -/
theorem IsFilter.wrapped {cs : List Char} {tree : Tree} (h : IsFilter cs tree) :
    isWrapped cs = true := by
  cases h with
  | wrap component =>
    rw [isWrapped, List.getLast?_concat]
    rfl

/-- What stands in the parentheses of a filter does not start with a parenthesis. -/
theorem IsComponent.not_wrapped {cs : List Char} {tree : Tree} (h : IsComponent cs tree) :
    cs ≠ [] ∧ isWrapped cs = false := by
  cases h with
  | item described =>
    obtain ⟨c, rest, rfl, hfirst⟩ := described.first
    have hc : c ≠ '(' := by
      rcases hfirst with hname | rfl
      · exact ne_of_isNameChar hname rfl
      · decide
    simp [isWrapped, hc]
  | _ => simp [isWrapped]

/-- Filters in a row start with a parenthesis. -/
theorem IsFilters.first {cs : List Char} {trees : List Tree} (h : IsFilters cs trees) :
    ∃ rest, cs = '(' :: rest := by
  cases h with
  | one filter =>
    cases filter
    exact ⟨_, rfl⟩
  | more filter _ =>
    cases filter
    exact ⟨_, rfl⟩

end DirectorySignIn.Filter
