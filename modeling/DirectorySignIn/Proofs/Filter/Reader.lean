import DirectorySignIn.Proofs.Filter.Grammar
import DirectorySignIn.Text.Split

/-!
# Reading search filters

A reader of search filters that takes the text from left to right.  It accepts the texts of the
grammar and no others, and gives the tree of the grammar; hence a text is a filter in one way
only.

Main results:

- `octets?_eq_some_iff`: the octets of a value are those of the grammar.
- `scope?_eq_some_iff` and `item?_eq_some_iff`: the same for scopes and items.
- `read?_eq_some_iff`: a text is read as a tree exactly when it is a filter with that tree.
- `IsFilter.unique`: a text is a filter with one tree at most.
-/

namespace DirectorySignIn.Filter

/-! ## Values -/

/-- The octets of a value. -/
def octets? : List Char → Option (List UInt8)
  | [] => some []
  | '\\' :: high :: low :: rest => do
    let h ← Text.hexValue? high
    let l ← Text.hexValue? low
    let bytes ← octets? rest
    return UInt8.ofNat (16 * h + l) :: bytes
  | c :: rest =>
    if isReserved c then none
    else (octets? rest).map (String.utf8EncodeChar c ++ ·)

theorem octets?_cons_of_ne {c : Char} (h : c ≠ '\\') (rest : List Char) :
    octets? (c :: rest) =
      if isReserved c then none else (octets? rest).map (String.utf8EncodeChar c ++ ·) :=
  octets?.eq_3 c rest fun _ _ _ heq => absurd heq h

/-- What is read as a value is one of the grammar with these octets. -/
theorem octets?_sound (cs : List Char) (bytes : List UInt8) (h : octets? cs = some bytes) :
    IsValue cs bytes := by
  induction cs using octets?.induct generalizing bytes with
  | case1 =>
    cases h
    exact .nil
  | case2 high low rest ih =>
    simp only [octets?, Option.bind_eq_bind, Option.bind_eq_some_iff, Option.pure_def,
      Option.some.injEq] at h
    obtain ⟨x, hx, y, hy, following, hfollowing, rfl⟩ := h
    exact .escaped hx hy (ih following hfollowing)
  | case3 c rest hother hreserved =>
    rw [octets?.eq_3 c rest hother, if_pos hreserved] at h
    contradiction
  | case4 c rest hother hplain ih =>
    rw [octets?.eq_3 c rest hother, if_neg hplain] at h
    obtain ⟨following, hfollowing, rfl⟩ := Option.map_eq_some_iff.mp h
    exact .normal (Bool.eq_false_iff.mpr hplain) (ih following hfollowing)

/-- The octets of a value are those of the grammar. -/
theorem octets?_eq_some_iff (cs : List Char) (bytes : List UInt8) :
    octets? cs = some bytes ↔ IsValue cs bytes := by
  refine ⟨octets?_sound cs bytes, fun h => ?_⟩
  induction h with
  | nil => rfl
  | @normal c rest following plain _ ih =>
    have hc : c ≠ '\\' := by
      rintro rfl
      contradiction
    rw [octets?_cons_of_ne hc, plain, ih]
    rfl
  | escaped first second _ ih =>
    simp only [octets?, first, second, ih]
    rfl

/-- The octets of several values. -/
theorem mapM_octets?_eq_some_iff (parts : List (List Char)) (values : List (List UInt8)) :
    parts.mapM octets? = some values ↔ List.Forall₂ IsValue parts values := by
  induction values generalizing parts with
  | nil => rw [Text.mapM_eq_some_nil_iff, List.forall₂_nil_right_iff]
  | cons bytes others ih =>
    rw [Text.mapM_eq_some_cons_iff, List.forall₂_cons_right_iff]
    constructor
    · rintro ⟨part, rest, rfl, hbytes, hothers⟩
      exact ⟨part, rest, (octets?_eq_some_iff part bytes).mp hbytes, (ih rest).mp hothers, rfl⟩
    · rintro ⟨part, rest, hbytes, hothers, rfl⟩
      exact ⟨part, rest, rfl, (octets?_eq_some_iff part bytes).mpr hbytes, (ih rest).mpr hothers⟩

/-! ## Items -/

/-- The scope of an extensible match from its parts. -/
def scope? : List (List Char) → Option Scope
  | [[], rule] => if isOid rule then some ⟨none, false, some rule⟩ else none
  | [[], mark, rule] =>
    if isNamesMark mark && isOid rule then some ⟨none, true, some rule⟩ else none
  | [name] => if isAttribute name then some ⟨some name, false, none⟩ else none
  | [name, part] =>
    if isAttribute name then
      if isNamesMark part then some ⟨some name, true, none⟩
      else if isOid part then some ⟨some name, false, some part⟩
      else none
    else none
  | [name, mark, rule] =>
    if isAttribute name && isNamesMark mark && isOid rule then
      some ⟨some name, true, some rule⟩
    else none
  | _ => none

/-- What is read as a scope are the scopes of the grammar. -/
theorem scope?_eq_some_iff (parts : List (List Char)) (scope : Scope) :
    scope? parts = some scope ↔ IsScope parts scope := by
  constructor
  · intro h
    unfold scope? at h
    split at h
    case h_1 rule =>
      obtain ⟨ruled, heq⟩ := Option.ite_none_right_eq_some.mp h
      cases heq
      exact .rule ruled
    case h_2 mark rule =>
      obtain ⟨hboth, heq⟩ := Option.ite_none_right_eq_some.mp h
      obtain ⟨marked, ruled⟩ := (Bool.and_eq_true _ _).mp hboth
      cases heq
      exact .markRule marked ruled
    case h_3 name =>
      obtain ⟨named, heq⟩ := Option.ite_none_right_eq_some.mp h
      cases heq
      exact .name named
    case h_4 name part _ =>
      obtain ⟨named, hpart⟩ := Option.ite_none_right_eq_some.mp h
      by_cases marked : isNamesMark part = true
      · rw [if_pos marked] at hpart
        cases hpart
        exact .nameMark named marked
      · rw [if_neg marked] at hpart
        obtain ⟨ruled, heq⟩ := Option.ite_none_right_eq_some.mp hpart
        cases heq
        exact .nameRule named ruled (Bool.eq_false_iff.mpr marked)
    case h_5 name mark rule _ =>
      obtain ⟨hall, heq⟩ := Option.ite_none_right_eq_some.mp h
      obtain ⟨hboth, ruled⟩ := (Bool.and_eq_true _ _).mp hall
      obtain ⟨named, marked⟩ := (Bool.and_eq_true _ _).mp hboth
      cases heq
      exact .nameMarkRule named marked ruled
    case h_6 => contradiction
  · intro h
    cases h with
    | name named => simp [scope?, named]
    | nameMark named marked =>
      have hname := isAttribute_ne_nil named
      simp [scope?, named, marked]
    | nameRule named ruled unmarked =>
      have hname := isAttribute_ne_nil named
      simp [scope?, named, ruled, unmarked]
    | nameMarkRule named marked ruled =>
      have hname := isAttribute_ne_nil named
      simp [scope?, named, marked, ruled]
    | rule ruled => simp [scope?, ruled]
    | markRule marked ruled => simp [scope?, marked, ruled]

/-- The comparison of an attribute with one value. -/
def comparison? (comparison : Comparison) (name value : List Char) : Option Item :=
  if isAttribute name then (octets? value).map (.compare comparison name) else none

/-- A comparison is read if the attribute and the value are of the grammar. -/
theorem comparison?_eq_some_iff (comparison : Comparison) (name value : List Char) (item : Item) :
    comparison? comparison name value = some item ↔
      isAttribute name = true ∧
        ∃ bytes, IsValue value bytes ∧ .compare comparison name bytes = item := by
  simp only [comparison?, Option.ite_none_right_eq_some, Option.map_eq_some_iff,
    octets?_eq_some_iff]

/-- What an attribute and the values between the asterisks after its equals sign stand for. -/
def Item.ofValues (name : List Char) : List (List UInt8) → Item
  | [bytes] => .compare .equal name bytes
  | [[], []] => .present name
  | values => .substring name values

/-- Several values with asterisks between them are parts of a text, unless they are a lone asterisk.
-/
theorem Item.ofValues_eq_substring {name : List Char} {values : List (List UInt8)}
    (several : 2 ≤ values.length) (given : values ≠ [[], []]) :
    Item.ofValues name values = .substring name values := by
  unfold Item.ofValues
  split
  · simp at several
  · contradiction
  · rfl

/-- Values with asterisks between them make an item of the grammar. -/
theorem isItem_ofValues {name : List Char} {parts : List (List Char)} {values : List (List UInt8)}
    (named : isAttribute name = true) (valued : List.Forall₂ IsValue parts values)
    (hparts : parts ≠ []) :
    IsItem (name ++ '=' :: ['*'].intercalate parts) (.ofValues name values) := by
  by_cases several : 2 ≤ values.length
  · by_cases given : values = [[], []]
    · subst given
      obtain ⟨first, _, hfirst, hrest, rfl⟩ := List.forall₂_cons_right_iff.mp valued
      obtain ⟨second, _, hsecond, hnil, rfl⟩ := List.forall₂_cons_right_iff.mp hrest
      rw [(isValue_nil_iff _).mp hfirst, (isValue_nil_iff _).mp hsecond,
        List.forall₂_nil_right_iff.mp hnil]
      exact .present named
    · rw [Item.ofValues_eq_substring several given]
      exact .substring named valued several given
  · cases valued with
    | nil => contradiction
    | @cons part bytes _ _ single following =>
      cases following with
      | nil =>
        have h := IsItem.compare .equal named single
        rw [List.append_assoc] at h
        rw [List.intercalate_singleton]
        exact h
      | cons _ _ => simp at several

/-- What an attribute and the text after its equals sign stand for. -/
def assertion? (name value : List Char) : Option Item :=
  if isAttribute name then ((value.splitOn '*').mapM octets?).map (Item.ofValues name) else none

/-- What is read behind a lone equals sign makes an item of the grammar. -/
theorem assertion?_sound {name value : List Char} {item : Item}
    (h : assertion? name value = some item) : IsItem (name ++ '=' :: value) item := by
  obtain ⟨named, hmap⟩ := Option.ite_none_right_eq_some.mp h
  obtain ⟨values, hvalues, rfl⟩ := Option.map_eq_some_iff.mp hmap
  have valued := (mapM_octets?_eq_some_iff _ _).mp hvalues
  have hitem := isItem_ofValues named valued (List.splitOn_ne_nil '*' value)
  rwa [List.intercalate_splitOn] at hitem

/-- Values with asterisks between them are read behind an equals sign. -/
theorem assertion?_ofValues {name : List Char} {parts : List (List Char)}
    {values : List (List UInt8)} (named : isAttribute name = true)
    (valued : List.Forall₂ IsValue parts values) (hparts : parts ≠ []) :
    assertion? name (['*'].intercalate parts) = some (Item.ofValues name values) := by
  have plain : ∀ part ∈ parts, '*' ∉ part := by
    intro part hpart hstar
    obtain ⟨bytes, hvalue⟩ := exists_isValue_of_mem valued part hpart
    exact absurd (hvalue.plain '*' hstar) (by decide)
  rw [assertion?, if_pos named, List.splitOn_intercalate '*' plain hparts,
    (mapM_octets?_eq_some_iff _ _).mpr valued]
  rfl

/-- What the text before an equals sign, last character first, and the text after it stand
for. -/
def condition? : List Char → List Char → Option Item
  | '~' :: name, value => comparison? .approximate name.reverse value
  | '>' :: name, value => comparison? .atLeast name.reverse value
  | '<' :: name, value => comparison? .atMost name.reverse value
  | ':' :: parts, value => do
    let scope ← scope? (parts.reverse.splitOn ':')
    let bytes ← octets? value
    return .extensible scope bytes
  | name, value => assertion? name.reverse value

/-- The item that a text stands for. -/
def item? (cs : List Char) : Option Item :=
  match cs.dropWhile (· != '=') with
  | _ :: value => condition? (cs.takeWhile (· != '=')).reverse value
  | [] => none

/-- What is read as a comparison is an item of the grammar. -/
theorem comparison?_sound {comparison : Comparison} {name value : List Char} {item : Item}
    (h : comparison? comparison name value = some item) :
    IsItem (name ++ comparison.symbol ++ value) item := by
  obtain ⟨named, bytes, valued, rfl⟩ := (comparison?_eq_some_iff _ _ _ _).mp h
  exact .compare comparison named valued

/-- What is read around an equals sign is an item of the grammar. -/
theorem condition?_sound {before value : List Char} {item : Item}
    (h : condition? before value = some item) : IsItem (before.reverse ++ '=' :: value) item := by
  unfold condition? at h
  split at h
  case h_1 name => simpa [Comparison.symbol] using comparison?_sound h
  case h_2 name => simpa [Comparison.symbol] using comparison?_sound h
  case h_3 name => simpa [Comparison.symbol] using comparison?_sound h
  case h_4 parts =>
    simp only [Option.bind_eq_bind, Option.bind_eq_some_iff, Option.pure_def,
      Option.some.injEq] at h
    obtain ⟨scope, hscope, bytes, hbytes, rfl⟩ := h
    have hitem := IsItem.extensible ((scope?_eq_some_iff _ _).mp hscope)
      ((octets?_eq_some_iff _ _).mp hbytes)
    rw [List.intercalate_splitOn] at hitem
    simpa using hitem
  case h_5 => exact assertion?_sound h

/-- An item is split at its first equals sign. -/
theorem item?_append {head : List Char} (h : '=' ∉ head) (value : List Char) :
    item? (head ++ '=' :: value) = condition? head.reverse value := by
  have hhead : ∀ c ∈ head, (c != '=') = true := fun c hc => by
    rw [bne_iff_ne]
    rintro rfl
    exact h hc
  rw [item?, List.dropWhile_append_of_pos hhead, List.takeWhile_append_of_pos hhead]
  simp

/-- A name is not changed by looking for a longer comparison sign or a colon at its end. -/
theorem condition?_name {name : List Char} (named : isAttribute name = true) (value : List Char) :
    condition? name.reverse value = assertion? name value := by
  have hchars := isAttribute_chars named
  unfold condition?
  split
  case h_5 => rw [List.reverse_reverse]
  all_goals
    rename_i heq
    have hmem := List.mem_reverse.mp (heq ▸ List.mem_cons_self)
    exact absurd (hchars _ hmem) (by decide)

/-- There is no equals sign in an attribute description. -/
theorem not_mem_of_isAttribute {name : List Char} (named : isAttribute name = true) :
    '=' ∉ name := fun h => absurd (isAttribute_chars named '=' h) (by decide)

/-- Reading an attribute and the values after its equals sign. -/
theorem item?_ofValues {name : List Char} {parts : List (List Char)} {values : List (List UInt8)}
    (named : isAttribute name = true) (valued : List.Forall₂ IsValue parts values)
    (hparts : parts ≠ []) :
    item? (name ++ '=' :: ['*'].intercalate parts) = some (Item.ofValues name values) := by
  rw [item?_append (not_mem_of_isAttribute named), condition?_name named,
    assertion?_ofValues named valued hparts]

/-- Comparisons of the grammar are read. -/
theorem item?_compare {name value : List Char} {bytes : List UInt8} (comparison : Comparison)
    (named : isAttribute name = true) (valued : IsValue value bytes) :
    item? (name ++ comparison.symbol ++ value) = some (.compare comparison name bytes) := by
  have hname := not_mem_of_isAttribute named
  have signed : ∀ sign : Char, sign ≠ '=' →
      item? (name ++ [sign, '='] ++ value) = condition? (sign :: name.reverse) value := by
    intro sign hsign
    have hhead : '=' ∉ name ++ [sign] := by simp [hname, hsign.symm]
    have hitem := item?_append hhead value
    simpa using hitem
  have compared : comparison? comparison name.reverse.reverse value =
      some (.compare comparison name bytes) := by
    rw [List.reverse_reverse]
    exact (comparison?_eq_some_iff _ _ _ _).mpr ⟨named, bytes, valued, rfl⟩
  cases comparison with
  | equal =>
    have hitem := item?_ofValues named (.cons valued .nil) (by simp)
    rw [List.intercalate_singleton] at hitem
    rw [List.append_assoc]
    exact hitem
  | approximate => exact (signed '~' (by decide)).trans compared
  | atLeast => exact (signed '>' (by decide)).trans compared
  | atMost => exact (signed '<' (by decide)).trans compared

/-- Extensible matches of the grammar are read. -/
theorem item?_extensible {parts : List (List Char)} {scope : Scope} {value : List Char}
    {bytes : List UInt8} (matched : IsScope parts scope) (valued : IsValue value bytes) :
    item? ([':'].intercalate parts ++ [':', '='] ++ value) = some (.extensible scope bytes) := by
  obtain ⟨hparts, hchars⟩ := matched.chars
  have plain : ∀ part ∈ parts, ':' ∉ part := fun part hpart hcolon =>
    absurd (hchars part hpart ':' hcolon) (by decide)
  have hhead : '=' ∉ [':'].intercalate parts ++ [':'] := by
    intro hmem
    rcases List.mem_append.mp hmem with hmem | hmem
    · exact absurd (matched.head '=' hmem) (by decide)
    · simp at hmem
  have hitem : item? ([':'].intercalate parts ++ [':', '='] ++ value) =
      condition? (':' :: ([':'].intercalate parts).reverse) value := by
    simpa using item?_append hhead value
  rw [hitem, condition?, List.reverse_reverse, List.splitOn_intercalate ':' plain hparts,
    (scope?_eq_some_iff _ _).mpr matched, (octets?_eq_some_iff _ _).mpr valued]
  rfl

/-- Items of the grammar are read. -/
theorem item?_complete {cs : List Char} {item : Item} (h : IsItem cs item) :
    item? cs = some item := by
  cases h with
  | compare comparison named valued => exact item?_compare comparison named valued
  | present named =>
    have empty := (isValue_nil_iff []).mpr rfl
    exact item?_ofValues named (.cons empty (.cons empty .nil)) (by simp)
  | substring named valued several given =>
    have hparts : _ ≠ [] := List.ne_nil_of_length_pos
      (Nat.lt_of_lt_of_le (by decide) (valued.length_eq ▸ several))
    rw [item?_ofValues named valued hparts, Item.ofValues_eq_substring several given]
  | extensible matched valued => exact item?_extensible matched valued

/-- A text is read as an item exactly when the grammar has it as that item. -/
theorem item?_eq_some_iff (cs : List Char) (item : Item) :
    item? cs = some item ↔ IsItem cs item := by
  refine ⟨fun h => ?_, item?_complete⟩
  unfold item? at h
  split at h
  case h_1 c value hdrop =>
    have hc : c = '=' := by
      have := List.head?_dropWhile_not (· != '=') cs
      simpa [hdrop] using this
    have hcs := List.takeWhile_append_dropWhile (p := (· != '=')) (l := cs)
    rw [hdrop, hc] at hcs
    have hitem := condition?_sound h
    rwa [List.reverse_reverse, hcs] at hitem
  case h_2 => contradiction

/-! ## Filters -/

mutual

/-- Reads a filter and gives back the text after it.  Every step takes one unit of `fuel`. -/
def filter? : Nat → List Char → Option (Tree × List Char)
  | fuel + 1, '(' :: cs =>
    match component? fuel cs with
    | some (tree, ')' :: rest) => some (tree, rest)
    | _ => none
  | _, _ => none

/-- Reads what stands in parentheses. -/
def component? : Nat → List Char → Option (Tree × List Char)
  | fuel + 1, '&' :: cs => (filters? fuel cs).map fun (trees, rest) => (.and trees, rest)
  | fuel + 1, '|' :: cs => (filters? fuel cs).map fun (trees, rest) => (.or trees, rest)
  | fuel + 1, '!' :: cs => (filter? fuel cs).map fun (tree, rest) => (.not tree, rest)
  | _, cs =>
    (item? (cs.takeWhile (· != ')'))).map fun item => (.item item, cs.dropWhile (· != ')'))

/-- Reads filters as long as there is another one. -/
def filters? : Nat → List Char → Option (List Tree × List Char)
  | fuel + 1, cs =>
    match filter? fuel cs with
    | some (tree, '(' :: rest) =>
      (filters? fuel ('(' :: rest)).map fun (trees, rest) => (tree :: trees, rest)
    | some (tree, rest) => some ([tree], rest)
    | none => none
  | 0, _ => none

end

/-- The tree that a text stands for, if the text is a filter. -/
def read? (cs : List Char) : Option Tree :=
  match filter? (2 * cs.length) cs with
  | some (tree, []) => some tree
  | _ => none

/-! ## What is read is of the grammar -/

/-- What a reader reads from a text stands at its start and is of the grammar. -/
def Sound {α : Type} (reader : List Char → Option (α × List Char))
    (grammar : List Char → α → Prop) : Prop :=
  ∀ cs found rest, reader cs = some (found, rest) →
    ∃ text, cs = text ++ rest ∧ grammar text found

/-- A sign and what a sound reader reads after it. -/
theorem Sound.sign {α : Type} {reader : List Char → Option (α × List Char)}
    {grammar : List Char → α → Prop} (sound : Sound reader grammar) {sign : Char} {make : α → Tree}
    (hmake : ∀ text found, grammar text found → IsComponent (sign :: text) (make found))
    {cs rest : List Char} {tree : Tree}
    (h : (reader cs).map (fun (found, rest) => (make found, rest)) = some (tree, rest)) :
    ∃ text, sign :: cs = text ++ rest ∧ IsComponent text tree := by
  obtain ⟨⟨found, after⟩, hread, heq⟩ := Option.map_eq_some_iff.mp h
  cases heq
  obtain ⟨text, rfl, inside⟩ := sound _ _ _ hread
  exact ⟨sign :: text, rfl, hmake text found inside⟩

/-- An item up to the next parenthesis is a component. -/
theorem sound_item :
    Sound (fun cs => (item? (cs.takeWhile (· != ')'))).map
      fun item => (Tree.item item, cs.dropWhile (· != ')'))) IsComponent := by
  intro cs tree rest h
  obtain ⟨item, hitem, heq⟩ := Option.map_eq_some_iff.mp h
  cases heq
  exact ⟨_, List.takeWhile_append_dropWhile.symm, .item ((item?_eq_some_iff _ _).mp hitem)⟩

/-- What is read as a filter is one, if what is read as a component is. -/
theorem sound_filter?_succ {fuel : Nat} (component : Sound (component? fuel) IsComponent) :
    Sound (filter? (fuel + 1)) IsFilter := by
  intro cs tree rest h
  unfold filter? at h
  split at h
  case h_1 before inner heq =>
    cases heq
    split at h
    case h_1 found after hcomponent =>
      cases h
      obtain ⟨text, rfl, inside⟩ := component _ _ _ hcomponent
      exact ⟨'(' :: text ++ [')'], by simp, .wrap inside⟩
    case h_2 => contradiction
  case h_2 => contradiction

/-- What is read as a component is one, if what is read inside it is. -/
theorem sound_component?_succ {fuel : Nat} (filter : Sound (filter? fuel) IsFilter)
    (filters : Sound (filters? fuel) IsFilters) :
    Sound (component? (fuel + 1)) IsComponent := by
  intro cs tree rest h
  unfold component? at h
  split at h
  case h_1 before inner heq =>
    cases heq
    exact filters.sign (fun _ _ inside => .and inside) h
  case h_2 before inner heq =>
    cases heq
    exact filters.sign (fun _ _ inside => .or inside) h
  case h_3 before inner heq =>
    cases heq
    exact filter.sign (fun _ _ inside => .not inside) h
  case h_4 => exact sound_item _ _ _ h

/-- What is read as filters in a row are some, if each one read is. -/
theorem sound_filters?_succ {fuel : Nat} (filter : Sound (filter? fuel) IsFilter)
    (filters : Sound (filters? fuel) IsFilters) : Sound (filters? (fuel + 1)) IsFilters := by
  intro cs trees rest h
  rw [filters?] at h
  split at h
  case h_1 tree after hfilter =>
    obtain ⟨⟨others, after⟩, hfilters, heq⟩ := Option.map_eq_some_iff.mp h
    cases heq
    obtain ⟨text, rfl, inside⟩ := filter _ _ _ hfilter
    obtain ⟨following, heq, others⟩ := filters _ _ _ hfilters
    rw [heq]
    exact ⟨text ++ following, by simp, .more inside others⟩
  case h_2 tree after _ hfilter =>
    cases h
    obtain ⟨text, rfl, inside⟩ := filter _ _ _ hfilter
    exact ⟨text, rfl, .one inside⟩
  case h_3 => contradiction

/-- With any fuel, what is read from a text is of the grammar. -/
theorem sound_filter? (fuel : Nat) :
    Sound (filter? fuel) IsFilter ∧ Sound (component? fuel) IsComponent ∧
      Sound (filters? fuel) IsFilters := by
  induction fuel with
  | zero =>
    refine ⟨?_, ?_, ?_⟩
    · intro cs tree rest h
      simp [filter?] at h
    · intro cs tree rest h
      rw [component?] at h
      · exact sound_item cs tree rest h
      all_goals simp
    · intro cs trees rest h
      simp [filters?] at h
  | succ fuel ih =>
    obtain ⟨filter, component, filters⟩ := ih
    exact ⟨sound_filter?_succ component, sound_component?_succ filter filters,
      sound_filters?_succ filter filters⟩

/-! ## What is of the grammar is read -/

/-- A reader that is given some fuel reads every text of the grammar that is short enough, if an
allowed text follows.  Two units of fuel for each character, and the spare ones, are enough. -/
def Complete {α : Type} (reader : List Char → Option (α × List Char))
    (grammar : List Char → α → Prop) (fuel spare : Nat) (follows : List Char → Prop) : Prop :=
  ∀ cs found rest, grammar cs found → 2 * cs.length + spare ≤ fuel → follows rest →
    reader (cs ++ rest) = some (found, rest)

/-- A filter is read whatever follows it. -/
abbrev CompleteFilter (fuel : Nat) : Prop :=
  Complete (filter? fuel) IsFilter fuel 0 fun _ => True

/-- A component is read up to the closing parenthesis. -/
abbrev CompleteComponent (fuel : Nat) : Prop :=
  Complete (component? fuel) IsComponent fuel 0 fun rest => rest.head? = some ')'

/-- Filters are read as long as there is another one. -/
abbrev CompleteFilters (fuel : Nat) : Prop :=
  Complete (filters? fuel) IsFilters fuel 1 fun rest => rest.head? ≠ some '('

/-- A text that starts with no sign of the grammar is an item up to the next parenthesis. -/
theorem component?_item {cs rest : List Char} {item : Item} (h : IsItem cs item)
    (hrest : rest.head? = some ')') (fuel : Nat) :
    component? fuel (cs ++ rest) = some (.item item, rest) := by
  obtain ⟨behind, rfl⟩ := List.head?_eq_some_iff.mp hrest
  have hplain : ∀ c ∈ cs, (c != ')') = true := by
    intro c hc
    rw [bne_iff_ne]
    rintro rfl
    exact absurd (h.unbracketed ')' hc) (by decide)
  have htake : (cs ++ ')' :: behind).takeWhile (· != ')') = cs := by
    rw [List.takeWhile_append_of_pos hplain]
    simp
  have hdrop : (cs ++ ')' :: behind).dropWhile (· != ')') = ')' :: behind := by
    rw [List.dropWhile_append_of_pos hplain]
    simp
  obtain ⟨c, others, rfl, hfirst⟩ := h.first
  have hsign : ∀ sign ∈ ['&', '|', '!'], c ≠ sign := by
    intro sign hsign
    have hother : ∀ x ∈ ['&', '|', '!'], isNameChar x = false ∧ ':' ≠ x := by
      simp only [List.mem_cons, List.not_mem_nil, or_false, forall_eq_or_imp, forall_eq]
      decide
    rcases hfirst with hname | rfl
    · exact ne_of_isNameChar hname (hother sign hsign).1
    · exact (hother sign hsign).2
  -- No sign of the grammar starts the item, so that it is read by the last clause.
  rw [component?.eq_4]
  · rw [htake, hdrop, item?_complete h]
    rfl
  all_goals
    intro _ _ _ heq
    exact absurd (List.cons.inj heq).1 (hsign _ (by simp))

/-- A filter is not empty. -/
theorem IsFilter.length_pos {cs : List Char} {tree : Tree} (h : IsFilter cs tree) :
    0 < cs.length := by
  cases h
  simp

/-- Filters are read with one more step than their components. -/
theorem completeFilter_succ {fuel : Nat} (component : CompleteComponent fuel) :
    CompleteFilter (fuel + 1) := by
  intro cs tree rest h hfuel _
  cases h with
  | @wrap cs _ inside =>
    simp only [List.length_append, List.length_cons, List.length_nil] at hfuel
    have hread := component cs tree (')' :: rest) inside (by omega) rfl
    simp [filter?, hread]

/-- Components are read with one more step than the filters in them. -/
theorem completeComponent_succ {fuel : Nat} (filter : CompleteFilter fuel)
    (filters : CompleteFilters fuel) : CompleteComponent (fuel + 1) := by
  intro cs tree rest h hfuel hrest
  have hopen : rest.head? ≠ some '(' := by simp [hrest]
  cases h with
  | @and cs trees inside =>
    rw [List.length_cons] at hfuel
    have hread := filters cs trees rest inside (by omega) hopen
    simp [component?, hread]
  | @or cs trees inside =>
    rw [List.length_cons] at hfuel
    have hread := filters cs trees rest inside (by omega) hopen
    simp [component?, hread]
  | @not cs tree inside =>
    rw [List.length_cons] at hfuel
    have hread := filter cs tree rest inside (by omega) trivial
    simp [component?, hread]
  | item described => exact component?_item described hrest (fuel + 1)

/-- Filters in a row are read with one more step than the first one and the rest. -/
theorem completeFilters_succ {fuel : Nat} (filter : CompleteFilter fuel)
    (filters : CompleteFilters fuel) : CompleteFilters (fuel + 1) := by
  intro cs trees rest h hfuel hrest
  cases h with
  | one inside =>
    have hread := filter cs _ rest inside (by omega) trivial
    rw [filters?, hread]
    cases rest with
    | nil => rfl
    | cons c rest =>
      have hc : c ≠ '(' := fun heq => hrest (by rw [heq]; rfl)
      simp [hc]
  | @more first others tree trees inside following =>
    have hfirst := inside.length_pos
    rw [List.length_append] at hfuel
    have hread := filter first tree (others ++ rest) inside (by omega) trivial
    have hothers := filters others trees rest following (by omega) hrest
    obtain ⟨behind, rfl⟩ := following.first
    rw [List.append_assoc, filters?, hread]
    rw [List.cons_append] at hothers ⊢
    simp [hothers]

/-- Every text of the grammar is read if there is enough fuel: the two parentheses of a filter pay
for the filter, for its component and for its place in a list. -/
theorem complete_filter? (fuel : Nat) :
    CompleteFilter fuel ∧ CompleteComponent fuel ∧ CompleteFilters fuel := by
  induction fuel with
  | zero =>
    refine ⟨?_, ?_, ?_⟩
    · intro cs tree rest h hfuel _
      have := h.length_pos
      omega
    · intro cs tree rest h hfuel hrest
      cases h with
      | item described => exact component?_item described hrest 0
      | _ => simp at hfuel
    · intro cs trees rest _ hfuel _
      omega
  | succ fuel ih =>
    obtain ⟨filter, component, filters⟩ := ih
    exact ⟨completeFilter_succ component, completeComponent_succ filter filters,
      completeFilters_succ filter filters⟩

/-- A text is read as a tree exactly when it is a filter with that tree. -/
theorem read?_eq_some_iff (cs : List Char) (tree : Tree) :
    read? cs = some tree ↔ IsFilter cs tree := by
  constructor
  · intro h
    unfold read? at h
    split at h
    case h_1 found hread =>
      cases h
      obtain ⟨text, heq, hfilter⟩ := (sound_filter? _).1 _ _ _ hread
      rw [List.append_nil] at heq
      rwa [heq]
    case h_2 => contradiction
  · intro h
    have hread := (complete_filter? (2 * cs.length)).1 cs tree [] h (Nat.le_refl _) trivial
    rw [List.append_nil] at hread
    rw [read?, hread]

example : (read? "(&(uid=a*)(!(cn=b)))".toList).isSome = true := by decide +kernel

example : (read? "(&(uid=a*)(!(cn=b))".toList).isNone = true := by decide +kernel

/-- A text is a filter with one tree at most. -/
theorem IsFilter.unique {cs : List Char} {tree other : Tree} (h : IsFilter cs tree)
    (hother : IsFilter cs other) : tree = other := by
  have heq := (read?_eq_some_iff cs tree).mpr h
  rw [(read?_eq_some_iff cs other).mpr hother] at heq
  exact (Option.some.inj heq).symm

end DirectorySignIn.Filter
