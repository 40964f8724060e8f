import DirectorySignIn.Directory.Entry
import Mathlib.Data.List.Induction
import Mathlib.Data.List.Nodup

/-!
# Attributes in any order

A directory lists the attributes of an entry in no particular order.  A look-up comes upon the
attribute that is named as it was asked for, or else upon one whose name differs in the case of
ASCII letters, and of these there may be several.  If there are not, it makes no difference how a
name is written or where an attribute is listed, and what is found is told by the values that were
added.

Main results:

- `values?_of_mem`: an attribute that is named as it was asked for is the one that is found.
- `NamesApart.values?_eq_some_iff`: if no two names differ in nothing but case, a look-up is a
  question of membership.
- `lookup_ofValues`: the values that were added under a name are listed under it, in their order.
- `first?_of_reordered`: what a look-up finds however the attributes are listed.
-/

namespace DirectorySignIn

namespace Entry

variable {entry other : Entry} {name : String} {values : List String}

/-- The names of the attributes differ from one another. -/
def NamesDistinct (entry : Entry) : Prop :=
  (entry.attributes.map (·.1)).Nodup

/-- The names of the attributes differ from one another in more than the case of ASCII letters. -/
def NamesApart (entry : Entry) : Prop :=
  (entry.attributes.map fun a => Text.asciiFold a.1).Nodup

instance (entry : Entry) : Decidable entry.NamesDistinct :=
  inferInstanceAs (Decidable (List.Nodup _))

instance (entry : Entry) : Decidable entry.NamesApart :=
  inferInstanceAs (Decidable (List.Nodup _))

/-- An entry with the same attributes, which may be listed in another order. -/
structure Reordered (entry other : Entry) : Prop where
  dn_eq : other.dn = entry.dn
  perm : other.attributes.Perm entry.attributes

/-- Attributes in another order have distinct names if they had so before. -/
theorem NamesDistinct.reordered (distinct : entry.NamesDistinct) (same : entry.Reordered other) :
    other.NamesDistinct :=
  (same.perm.map _).nodup_iff.mpr distinct

/-- Attributes in another order have names apart if they had so before. -/
theorem NamesApart.reordered (apart : entry.NamesApart) (same : entry.Reordered other) :
    other.NamesApart :=
  (same.perm.map _).nodup_iff.mpr apart

/-- Names that differ even in small letters are distinct. -/
theorem NamesApart.distinct (apart : entry.NamesApart) : entry.NamesDistinct := by
  refine List.Nodup.of_map Text.asciiFold ?_
  rw [List.map_map]
  exact apart

/-! ## Looking up -/

/-- Whatever is found under exactly a name is one of the attributes. -/
theorem mem_of_lookup (written : entry.attributes.lookup name = some values) :
    (name, values) ∈ entry.attributes := by
  obtain ⟨before, behind, split, -⟩ := List.lookup_eq_some_iff.mp written
  rw [split]
  exact List.mem_append_right _ List.mem_cons_self

/-- If names are distinct, each attribute is found under its name. -/
theorem NamesDistinct.lookup_of_mem (distinct : entry.NamesDistinct)
    (listed : (name, values) ∈ entry.attributes) : entry.attributes.lookup name = some values := by
  obtain ⟨before, behind, split⟩ := List.append_of_mem listed
  refine List.lookup_eq_some_iff.mpr ⟨before, behind, split, fun a older => ?_⟩
  rw [NamesDistinct, split, List.map_append, List.map_cons] at distinct
  have ne : a.1 ≠ name := (List.nodup_append.mp distinct).2.2 _ (List.mem_map_of_mem older) _
    List.mem_cons_self
  simpa using ne.symm

/-- An attribute that is named as it was asked for is the one that is found. -/
theorem values?_of_mem (distinct : entry.NamesDistinct)
    (listed : (name, values) ∈ entry.attributes) : entry.values? name = some values :=
  values?_of_lookup (distinct.lookup_of_mem listed)

/-- Whatever is found is listed under a name that differs in nothing but case. -/
theorem exists_mem_of_values? (found : entry.values? name = some values) :
    ∃ a ∈ entry.attributes, Text.equalFold a.1 name = true ∧ a.2 = values := by
  unfold values? at found
  cases written : entry.attributes.lookup name with
  | some listed =>
    rw [written] at found
    cases found
    exact ⟨(name, values), mem_of_lookup written, Text.equalFold_refl name, rfl⟩
  | none =>
    rw [written] at found
    obtain ⟨a, first, rfl⟩ := Option.map_eq_some_iff.mp found
    have same := List.find?_some first
    exact ⟨a, List.mem_of_find?_eq_some first, same, rfl⟩

/-- If no two names differ in nothing but case, two attributes with the same name up to case are one
and the same. -/
theorem NamesApart.eq_of_mem (apart : entry.NamesApart) {a b : String × List String}
    (ha : a ∈ entry.attributes) (hb : b ∈ entry.attributes)
    (same : Text.equalFold a.1 b.1 = true) : a = b :=
  List.inj_on_of_nodup_map apart ha hb ((Text.equalFold_iff _ _).mp same)

/-- If no two names differ in nothing but case, the attribute that is found is the one whose name is
the same up to case. -/
theorem NamesApart.values?_eq_some_iff (apart : entry.NamesApart) :
    entry.values? name = some values ↔
      ∃ a ∈ entry.attributes, Text.equalFold a.1 name = true ∧ a.2 = values := by
  constructor
  · exact exists_mem_of_values?
  · rintro ⟨a, listed, same, rfl⟩
    have some_found : (entry.values? name).isSome = true := by
      unfold values?
      cases entry.attributes.lookup name with
      | some _ => rfl
      | none =>
        rw [Option.isSome_map, List.find?_isSome]
        exact ⟨a, listed, same⟩
    obtain ⟨found, finds⟩ := Option.isSome_iff_exists.mp some_found
    obtain ⟨b, listed', same', rfl⟩ := exists_mem_of_values? finds
    rw [Text.equalFold_comm] at same'
    rw [finds, apart.eq_of_mem listed listed' (Text.equalFold_trans same same')]

/-- Then neither the case of a name nor the order of the attributes makes a difference. -/
theorem NamesApart.values?_eq (apart : entry.NamesApart) (same : entry.Reordered other)
    {name' : String} (fold : Text.equalFold name name' = true) :
    other.values? name = entry.values? name' := by
  refine Option.ext fun values => ?_
  rw [(apart.reordered same).values?_eq_some_iff, apart.values?_eq_some_iff]
  have named : ∀ a : String × List String,
      Text.equalFold a.1 name = true ↔ Text.equalFold a.1 name' = true := by
    intro a
    rw [Text.equalFold_iff, Text.equalFold_iff, (Text.equalFold_iff _ _).mp fold]
  simp only [same.perm.mem_iff, named]

/-! ## Adding values -/

/-- The entry to which values were added one after the other, each under a name. -/
def ofValues (dn : String) (added : List (String × String)) : Entry :=
  added.foldl (fun entry one => entry.add one.1 one.2) (ofName dn)

/-- One more value is added to the entry of all before it. -/
@[simp]
theorem ofValues_concat (dn : String) (added : List (String × String)) (one : String × String) :
    ofValues dn (added ++ [one]) = (ofValues dn added).add one.1 one.2 := by
  simp [ofValues]

/-- A lookup finds the first attribute if it has the name, and else one of the rest. -/
theorem lookup_cons_eq (other : String) (first : String × List String)
    (rest : List (String × List String)) :
    (first :: rest).lookup other = if other = first.1 then some first.2 else rest.lookup other := by
  obtain ⟨listed, values⟩ := first
  by_cases same : other = listed
  · simp [same]
  · have skipped : (other == listed) = false := by simpa using same
    simp [List.lookup_cons, same, skipped]

/-- A value that is added comes behind the other values of its name, and those of other names stay
as they are. -/
theorem lookup_addValue (name value other : String) (attributes : List (String × List String)) :
    (addValue name value attributes).lookup other =
      if other = name then some ((attributes.lookup name).getD [] ++ [value])
      else attributes.lookup other := by
  induction attributes with
  | nil => simp only [addValue, lookup_cons_eq, List.lookup_nil, Option.getD_none, List.nil_append]
  | cons first rest ih =>
    by_cases here : first.1 = name
    · subst here
      by_cases same : other = first.1 <;> simp [addValue, lookup_cons_eq, same]
    · by_cases same : other = name
      · subst same
        simp [addValue, here, lookup_cons_eq, Ne.symm here, ih]
      · simp [addValue, here, lookup_cons_eq, ih, same]

/-- Adding a value adds a name at the end if it is new. -/
theorem map_fst_addValue (name value : String) (attributes : List (String × List String)) :
    (addValue name value attributes).map (·.1) =
      if name ∈ attributes.map (·.1) then attributes.map (·.1)
      else attributes.map (·.1) ++ [name] := by
  induction attributes with
  | nil => rfl
  | cons first rest ih =>
    by_cases here : first.1 = name
    · simp [addValue, here]
    · simp only [addValue, here, if_false, List.map_cons, ih, List.mem_cons, Ne.symm here, false_or]
      split <;> rfl

/-- However values are added, no name is listed twice. -/
theorem namesDistinct_ofValues (dn : String) (added : List (String × String)) :
    (ofValues dn added).NamesDistinct := by
  induction added using List.reverseRecOn with
  | nil => exact List.nodup_nil
  | append_singleton added one ih =>
    rw [ofValues_concat, NamesDistinct, add, map_fst_addValue]
    split
    · exact ih
    · rename_i fresh
      exact List.concat_eq_append ▸ ih.concat fresh

/-- The values that were added under a name, in their order. -/
def valuesUnder (name : String) (added : List (String × String)) : List String :=
  (added.filter (·.1 == name)).map (·.2)

/-- One more value comes behind the others under its name, and leaves other names alone. -/
theorem valuesUnder_concat (name : String) (added : List (String × String))
    (one : String × String) :
    valuesUnder name (added ++ [one]) =
      if name = one.1 then valuesUnder name added ++ [one.2] else valuesUnder name added := by
  by_cases same : one.1 = name
  · simp [valuesUnder, same]
  · simp [valuesUnder, same, Ne.symm same]

/-- The values that were added under a name are listed under it, and a name under which nothing was
added is not listed. -/
theorem lookup_ofValues (dn : String) (added : List (String × String)) (name : String) :
    (ofValues dn added).attributes.lookup name =
      if valuesUnder name added = [] then none else some (valuesUnder name added) := by
  induction added using List.reverseRecOn with
  | nil => rfl
  | append_singleton added one ih =>
    rw [ofValues_concat, add, lookup_addValue, valuesUnder_concat]
    by_cases same : name = one.1
    · subst same
      have earlier : ((ofValues dn added).attributes.lookup one.1).getD [] =
          valuesUnder one.1 added := by
        rw [ih]
        split
        · rename_i absent
          exact absent.symm
        · rfl
      simp [earlier]
    · rw [if_neg same, if_neg same, ih]

/-- If no two names differ in nothing but case, what is found is the first value that was added
under a name that is the same up to case. -/
theorem NamesApart.first?_ofValues {dn : String} {added : List (String × String)}
    (apart : (ofValues dn added).NamesApart) (name : String) :
    (ofValues dn added).first? name =
      (added.find? fun one => Text.equalFold one.1 name).map (·.2) := by
  cases found : added.find? fun one => Text.equalFold one.1 name with
  | none =>
    have absent : (ofValues dn added).values? name = none := by
      refine Option.eq_none_iff_forall_ne_some.mpr fun values finds => ?_
      obtain ⟨⟨listed, values⟩, mem, same, rfl⟩ := exists_mem_of_values? finds
      have written := apart.distinct.lookup_of_mem mem
      have none_added : valuesUnder listed added = [] := by
        rw [valuesUnder, List.filter_eq_nil_iff.mpr, List.map_nil]
        intro one isAdded under
        obtain rfl : one.1 = listed := by simpa using under
        exact List.find?_eq_none.mp found one isAdded same
      rw [lookup_ofValues, if_pos none_added] at written
      contradiction
    rw [first?, absent]
    rfl
  | some one =>
    obtain ⟨listed, value⟩ := one
    obtain ⟨same, before, behind, split, unlike⟩ := List.find?_eq_some_iff_append.mp found
    have none_before : valuesUnder listed before = [] := by
      rw [valuesUnder, List.filter_eq_nil_iff.mpr, List.map_nil]
      intro one older under
      obtain rfl : one.1 = listed := by simpa using under
      have differs := unlike one older
      rw [same] at differs
      contradiction
    have starts : valuesUnder listed added = value :: valuesUnder listed behind := by
      have parts : valuesUnder listed added =
          valuesUnder listed before ++ valuesUnder listed ((listed, value) :: behind) := by
        simp [valuesUnder, split]
      rw [parts, none_before]
      simp [valuesUnder]
    have written : (ofValues dn added).attributes.lookup listed =
        some (valuesUnder listed added) := by
      rw [lookup_ofValues, if_neg (by simp [starts])]
    have finds := apart.values?_eq_some_iff.mpr ⟨_, mem_of_lookup written, same, rfl⟩
    rw [first?, finds, starts]
    rfl

/-- If values are added to an entry so that no two names of its attributes differ in nothing but
case, then in whatever order the attributes are listed, names that differ in nothing but case find
the same: the first value that was added under such a name, or nothing if none was.  In any entry,
an attribute that is named as it was asked for is the one that settles what is found. -/
theorem first?_of_reordered :
    (∀ (dn : String) (added : List (String × String)), (ofValues dn added).NamesApart →
      ∀ other, (ofValues dn added).Reordered other →
        ∀ name name', Text.equalFold name name' = true →
          other.first? name = other.first? name' ∧
            other.first? name = (added.find? fun one => Text.equalFold one.1 name).map (·.2)) ∧
    ∀ entry : Entry, entry.NamesDistinct → ∀ other, entry.Reordered other →
      ∀ name values, (name, values) ∈ entry.attributes → other.first? name = values.head? := by
  constructor
  · intro dn added apart other same name name' fold
    have asWritten : other.first? name = (ofValues dn added).first? name := by
      rw [first?, first?, apart.values?_eq same (Text.equalFold_refl name)]
    have otherwise : other.first? name' = (ofValues dn added).first? name := by
      rw [Text.equalFold_comm] at fold
      rw [first?, first?, apart.values?_eq same fold]
    exact ⟨asWritten.trans otherwise.symm, asWritten.trans (apart.first?_ofValues name)⟩
  · intro entry distinct other same name values listed
    have listed' := same.perm.mem_iff.mpr listed
    rw [first?, values?_of_mem (distinct.reordered same) listed']
    rfl

/-- Two addresses that were added under one name, and a name that is there in capitals with another
value while the name that is asked for has none. -/
theorem first?_of_reordered_mail :
    let added := [("mail", "ada@example.org"), ("cn", "Ada"), ("mail", "ada@example.com")]
    let entry := ofValues "uid=ada" added
    let other : Entry := ⟨"uid=ada", entry.attributes.reverse⟩
    let capitals : Entry := ⟨"uid=ada", [("UID", ["ada"]), ("uid", [])]⟩
    let turned : Entry := ⟨"uid=ada", [("uid", []), ("UID", ["ada"])]⟩
    entry.NamesApart ∧ entry.Reordered other ∧ Text.equalFold "Mail" "MAIL" = true ∧
      other.first? "Mail" = other.first? "MAIL" ∧ other.first? "Mail" = some "ada@example.org" ∧
      capitals.NamesDistinct ∧ capitals.Reordered turned ∧ ("uid", []) ∈ capitals.attributes ∧
      turned.first? "uid" = none := by
  intro added entry other capitals turned
  have apart : entry.NamesApart := by decide +kernel
  have same : entry.Reordered other := ⟨rfl, List.reverse_perm _⟩
  have fold : Text.equalFold "Mail" "MAIL" = true := by decide +kernel
  have distinct : capitals.NamesDistinct := by decide +kernel
  have same' : capitals.Reordered turned := ⟨rfl, List.reverse_perm capitals.attributes⟩
  have listed : ("uid", []) ∈ capitals.attributes := by decide +kernel
  obtain ⟨caseless, asWritten⟩ := first?_of_reordered
  obtain ⟨alike, found⟩ := caseless "uid=ada" added apart other same "Mail" "MAIL" fold
  have settled := asWritten capitals distinct turned same' "uid" [] listed
  exact ⟨apart, same, fold, alike, found.trans (by decide +kernel), distinct, same', listed,
    settled⟩

end Entry

end DirectorySignIn
