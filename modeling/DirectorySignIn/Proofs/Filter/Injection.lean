import DirectorySignIn.Proofs.Filter.Reader

/-!
# Usernames in search filters

A username is data: whatever its characters are, the filter made of it is the template together
with one equality, and the value of the equality is the username.  Nothing is used of the way of
escaping but that reserved characters become a backslash with the two digits of their code and
all other characters stay.

Main results:

- `isValue_escape`: an escaped text is a value, and its octets are those of the text.
- `isFilter_conjunction`: a well-formed template and a filter make a filter.
- `forUserWith_tree`: the filter of a user is the conjunction of the template and the equality,
  and no other username has the same filter.
-/

namespace DirectorySignIn.Filter

/-! ## Escaping -/

/-- A way of escaping: a reserved character becomes a backslash and the two hexadecimal digits of
its code, and every other character is kept. -/
structure Escaping (escape : List Char → List Char) : Prop where
  /-- Nothing is written for nothing. -/
  nil : escape [] = []
  /-- A reserved character is written by the digits of its code. -/
  reserved : ∀ (c : Char) (rest : List Char), isReserved c = true →
    ∃ high low h l, Text.hexValue? high = some h ∧ Text.hexValue? low = some l ∧
      16 * h + l = c.toNat ∧ escape (c :: rest) = '\\' :: high :: low :: escape rest
  /-- All other characters are kept. -/
  plain : ∀ (c : Char) (rest : List Char), isReserved c = false →
    escape (c :: rest) = c :: escape rest

/-- A character that is not reserved stands for itself. -/
theorem escapeChar_of_not_isReserved {c : Char} (h : isReserved c = false) :
    escapeChar c = [c] := by
  unfold escapeChar
  split <;> simp_all [isReserved, isStructural]

/-- The escaping of the filter is one that the grammar asks for. -/
theorem escaping_escape : Escaping escape where
  nil := rfl
  reserved c rest hc := by
    simp only [isReserved, isStructural, Bool.or_eq_true, beq_iff_eq] at hc
    rcases hc with (((rfl | rfl) | rfl) | rfl) | rfl
    · exact ⟨'2', 'a', 2, 10, rfl, rfl, rfl, rfl⟩
    · exact ⟨'2', '8', 2, 8, rfl, rfl, rfl, rfl⟩
    · exact ⟨'2', '9', 2, 9, rfl, rfl, rfl, rfl⟩
    · exact ⟨'0', '0', 0, 0, rfl, rfl, rfl, rfl⟩
    · exact ⟨'5', 'c', 5, 12, rfl, rfl, rfl, rfl⟩
  plain c rest hc := by
    rw [escape, List.flatMap_cons, escapeChar_of_not_isReserved hc]
    rfl

/-- The octets of a text in UTF-8. -/
def octetsOf (text : String) : List UInt8 :=
  text.toUTF8.data.toList

/-- Different texts have different octets. -/
theorem octetsOf_injective {a b : String} (h : octetsOf a = octetsOf b) : a = b := by
  rw [octetsOf, octetsOf, Array.toList_inj, ← ByteArray.ext_iff] at h
  exact String.toByteArray_inj.mp h

/-- The octets of a text are those of its characters in a row. -/
theorem flatMap_utf8EncodeChar (text : String) :
    text.toList.flatMap String.utf8EncodeChar = octetsOf text := by
  have h : text.toUTF8 = (text.toList.flatMap String.utf8EncodeChar).toByteArray :=
    String.utf8Encode_toList.symm
  rw [octetsOf, h, List.toList_data_toByteArray]

/-- The octet of a reserved character is its encoding. -/
theorem utf8EncodeChar_of_isReserved {c : Char} (h : isReserved c = true) :
    String.utf8EncodeChar c = [UInt8.ofNat c.toNat] := by
  simp only [isReserved, isStructural, Bool.or_eq_true, beq_iff_eq] at h
  rcases h with (((rfl | rfl) | rfl) | rfl) | rfl <;> decide

variable {escape : List Char → List Char}

/-- An escaped text is a value, and its octets are those of the text. -/
theorem isValue_escape (escaping : Escaping escape) (cs : List Char) :
    IsValue (escape cs) (cs.flatMap String.utf8EncodeChar) := by
  induction cs with
  | nil =>
    rw [escaping.nil]
    exact .nil
  | cons c rest ih =>
    rw [List.flatMap_cons]
    cases hc : isReserved c with
    | true =>
      obtain ⟨high, low, h, l, hhigh, hlow, hcode, heq⟩ := escaping.reserved c rest hc
      rw [heq, utf8EncodeChar_of_isReserved hc, ← hcode]
      exact .escaped hhigh hlow ih
    | false =>
      rw [escaping.plain c rest hc]
      exact .normal hc ih

/-! ## Templates -/

/-- The templates that an operator may give, and the filter that each stands for: none, a filter,
or a filter without the parentheses around it. -/
inductive IsTemplate : List Char → Option Tree → Prop where
  | none : IsTemplate [] none
  | filter {cs : List Char} {tree : Tree} (filter : IsFilter cs tree) : IsTemplate cs (some tree)
  | component {cs : List Char} {tree : Tree} (component : IsComponent cs tree) :
      IsTemplate cs (some tree)

/-- A condition together with the template, if there is one. -/
def Tree.conjoin : Option Tree → Tree → Tree
  | none, clause => clause
  | some template, clause => .and [template, clause]

/-- The condition that an attribute equals a text. -/
def Tree.equality (name : List Char) (text : String) : Tree :=
  .item (.compare .equal name (octetsOf text))

/-- An attribute, an equals sign and a value in parentheses are a filter that asks for equality. -/
theorem isFilter_equality {name value : List Char} {bytes : List UInt8}
    (named : isAttribute name = true) (valued : IsValue value bytes) :
    IsFilter (equality name value) (.item (.compare .equal name bytes)) := by
  have h := IsFilter.wrap (.item (.compare .equal named valued))
  simpa [equality, Comparison.symbol] using h

/-- A well-formed template and a filter make a filter. -/
theorem isFilter_conjunction {cs text : List Char} {template : Option Tree} {clause : Tree}
    (formed : IsTemplate cs template) (hclause : IsFilter text clause) :
    IsFilter (conjunction cs text) (.conjoin template clause) := by
  cases formed with
  | none => exact hclause
  | @filter _ tree filter =>
    have hne : cs ≠ [] := List.ne_nil_of_length_pos filter.length_pos
    have hpair := IsFilter.wrap (.and (.more filter (.one hclause)))
    rw [conjunction, if_neg hne, if_pos filter.wrapped]
    simpa [Tree.conjoin] using hpair
  | @component _ tree component =>
    obtain ⟨hne, hbare⟩ := component.not_wrapped
    have hpair := IsFilter.wrap (.and (.more (.wrap component) (.one hclause)))
    rw [conjunction, if_neg hne, hbare]
    simpa [Tree.conjoin] using hpair

/-- Conditions under one template that ask for different texts are different. -/
theorem Tree.conjoin_equality_injective {template : Option Tree} {name : List Char} {a b : String}
    (h : conjoin template (equality name a) = conjoin template (equality name b)) : a = b := by
  cases template with
  | none =>
    simp only [conjoin, equality, Tree.item.injEq, Item.compare.injEq, true_and] at h
    exact octetsOf_injective h
  | some tree =>
    simp only [conjoin, equality, Tree.and.injEq, List.cons.injEq, Tree.item.injEq,
      Item.compare.injEq, true_and, and_true] at h
    exact octetsOf_injective h

/-! ## The filter of a user -/

/-- The filter for a username is of the grammar, and stands for the template and the condition that
the attribute equals the username. -/
theorem isFilter_forUserWith (escaping : Escaping escape) (config : ProviderConfig)
    {template : Option Tree}
    (named : isAttribute (Text.trimBlanks config.usernameAttribute.toList) = true)
    (formed : IsTemplate (Text.trimBlanks config.userSearchFilter.toList) template)
    (username : String) :
    IsFilter (forUserWith escape config username).toList
      (.conjoin template
        (.equality (Text.trimBlanks config.usernameAttribute.toList) username)) := by
  have valued := isValue_escape escaping username.toList
  rw [flatMap_utf8EncodeChar] at valued
  rw [forUserWith, String.toList_ofList]
  exact isFilter_conjunction formed (isFilter_equality named valued)

/-- The filter of a user is one filter of the grammar and is read as the conjunction of the
template and of the equality of the attribute with the username.  No other username has it. -/
theorem forUserWith_tree (escaping : Escaping escape) (config : ProviderConfig)
    {template : Option Tree}
    (named : isAttribute (Text.trimBlanks config.usernameAttribute.toList) = true)
    (formed : IsTemplate (Text.trimBlanks config.userSearchFilter.toList) template)
    (username : String) :
    (∀ tree, IsFilter (forUserWith escape config username).toList tree ↔
      tree = .conjoin template
        (.equality (Text.trimBlanks config.usernameAttribute.toList) username)) ∧
    read? (forUserWith escape config username).toList =
      some (.conjoin template
        (.equality (Text.trimBlanks config.usernameAttribute.toList) username)) ∧
    ∀ other, forUserWith escape config other = forUserWith escape config username →
      other = username := by
  have hfilter := isFilter_forUserWith escaping config named formed username
  refine ⟨fun tree => ⟨fun h => h.unique hfilter, ?_⟩, (read?_eq_some_iff _ _).mpr hfilter, ?_⟩
  · rintro rfl
    exact hfilter
  · intro other heq
    have hother := isFilter_forUserWith escaping config named formed other
    rw [heq] at hother
    exact Tree.conjoin_equality_injective (hother.unique hfilter)

/-- A directory whose users have to be persons. -/
def sampleConfig : ProviderConfig where
  id := 1
  provider := "ldap_test"
  displayName := "Test directory"
  status := .enabled
  protocol := .plain
  certCheck := true
  hostname := "ldap.example.org"
  port := ⟨389, by decide, by decide⟩
  bindUsername := "cn=admin,dc=example,dc=org"
  bindPassword := ⟨"admin_password"⟩
  rootDn := "dc=example,dc=org"
  scope := .wholeSubtree
  userSearchFilter := " objectClass=person"
  usernameAttribute := "uid "
  nameAttribute := "cn"
  mailAttribute := "mail"

theorem forUserWith_tree_asterisk :
    Escaping Filter.escape ∧
      isAttribute (Text.trimBlanks sampleConfig.usernameAttribute.toList) = true ∧
      IsTemplate (Text.trimBlanks sampleConfig.userSearchFilter.toList)
        (some (.equality "objectClass".toList "person")) ∧
      forUserWith Filter.escape sampleConfig "*)(uid=*" =
        "(&(objectClass=person)(uid=\\2a\\29\\28uid=\\2a))" ∧
      read? (forUserWith Filter.escape sampleConfig "*)(uid=*").toList =
        some (.conjoin (some (.equality "objectClass".toList "person"))
          (.equality (Text.trimBlanks sampleConfig.usernameAttribute.toList) "*)(uid=*")) := by
  have named : isAttribute (Text.trimBlanks sampleConfig.usernameAttribute.toList) = true := by
    decide +kernel
  have template : IsTemplate (Text.trimBlanks sampleConfig.userSearchFilter.toList)
      (some (.equality "objectClass".toList "person")) :=
    .component (.item ((item?_eq_some_iff _ _).mp (by decide +kernel)))
  exact ⟨escaping_escape, named, template, by decide +kernel,
    (forUserWith_tree escaping_escape sampleConfig named template "*)(uid=*").2.1⟩

end DirectorySignIn.Filter
