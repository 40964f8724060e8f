import DirectorySignIn.Json.Record
import DirectorySignIn.Proofs.Json.Spelling
import Mathlib.Data.List.Nodup
import Mathlib.Data.List.Perm.Basic

/-!
# Decoding what encodes a record

Named values encode a row of fields if each spelling of a value decodes to what the row has for the
field of that name.  Then the row is decoded from an object of these members in any order and among
any others, and from an array of the values in order.

Main results:

- `accept_known` and `accept_unknown`: what taking in one member does.
- `acceptAll_eq`: after any members, the fields that were not among them are still missing.
- `Encodes.takes_object` and `Encodes.takes_array`: the row is decoded from an object and from an
  array.
-/

namespace DirectorySignIn.Json.Fields

/-- The names of the fields in their order. -/
def names : {αs : List Type} → Fields αs → List String
  | _, nil => []
  | _, cons field rest => field.name :: rest.names

/-- Named values encode a row: each spelling of a value decodes to what the row has there. -/
inductive Encodes : {αs : List Type} → Fields αs → Row αs → List (String × Json) → Prop
  | nil : Encodes nil () []
  | cons {α : Type} {αs : List Type} {field : Field α} {fields : Fields αs} {a : α} {row : Row αs}
      {value : Json} {members : List (String × Json)}
      (first : field.decoder.Takes value a) (rest : Encodes fields row members) :
      Encodes (.cons field fields) (a, row) ((field.name, value) :: members)

/-- The values of a row, except for the fields of some names. -/
def without (missing : List String) : {αs : List Type} → Fields αs → Row αs → Slots αs
  | _, nil, () => ()
  | _, cons field rest, (a, row) =>
    (if field.name ∈ missing then none else some a, without missing rest row)

section

variable (origin : Origin) {αs : List Type} {fields : Fields αs} {row : Row αs}
  {members : List (String × Json)}

/-- Members that encode a row are named for the fields in their order. -/
theorem Encodes.names_eq (h : fields.Encodes row members) :
    members.map Prod.fst = fields.names := by
  induction h with
  | nil => rfl
  | cons _ _ ih => exact congrArg (_ :: ·) ih

/-- Members that encode a row are all known. -/
theorem Encodes.filter_eq_self (h : fields.Encodes row members) :
    members.filter (·.1 ∈ fields.names) = members :=
  List.filter_eq_self.mpr fun member mem => by
    have : member.1 ∈ fields.names := h.names_eq ▸ List.mem_map_of_mem mem
    simpa using this

/-- Only the names of the fields count among those that are missing. -/
theorem without_congr {missing missing' : List String} (row : Row αs)
    (same : ∀ name ∈ fields.names, name ∈ missing ↔ name ∈ missing') :
    fields.without missing row = fields.without missing' row := by
  induction fields with
  | nil => rfl
  | cons field rest ih =>
    obtain ⟨a, row⟩ := row
    have first := same field.name (List.mem_cons_self ..)
    have others := ih row fun name mem => same name (List.mem_cons_of_mem _ mem)
    simp [without, first, others]

/-! ## Taking in members -/

/-- A member of an unknown name is left alone. -/
theorem accept_unknown {name : String} (unknown : name ∉ fields.names) (doc : Document)
    (slots : Slots αs) : fields.accept origin name doc slots = none := by
  induction fields with
  | nil => rfl
  | cons field rest ih =>
    obtain ⟨slot, slots⟩ := slots
    rw [names, List.mem_cons, not_or] at unknown
    simp [accept, Ne.symm unknown.1, ih unknown.2]

/-- A member of a known name that is missing fills in its value. -/
theorem accept_known (h : fields.Encodes row members) (distinct : fields.names.Nodup)
    {name : String} {value : Json} (mem : (name, value) ∈ members) {doc : Document}
    (spells : Spells value doc) {missing : List String} (once : name ∉ missing) :
    fields.accept origin name doc (fields.without (name :: missing) row) =
      some (.ok (fields.without missing row)) := by
  induction h with
  | nil => cases mem
  | @cons α αs field fields a row first_value members first rest ih =>
    rw [names, List.nodup_cons, ← rest.names_eq] at distinct
    obtain ⟨fresh, distinct⟩ := distinct
    rcases List.mem_cons.mp mem with same | mem
    · cases same
      have others : fields.without (field.name :: missing) row = fields.without missing row := by
        refine without_congr row fun other other_mem => ?_
        have : other ≠ field.name := fun e => fresh (e ▸ rest.names_eq ▸ other_mem)
        simp [this]
      simp [accept, without, once, first origin doc spells, others, Except.map]
    · have differs : field.name ≠ name := fun e => fresh (e ▸ List.mem_map_of_mem mem)
      rw [rest.names_eq] at distinct
      simp [accept, without, differs, ih distinct mem, Except.map]

/-- After any members, the fields that were not among them are still missing. -/
theorem acceptAll_eq (h : fields.Encodes row members) (distinct : fields.names.Nodup)
    {given : List (String × Json)} {docs : List (Document × Document)}
    (spells : SpellsMembers given docs)
    (known : ∀ member ∈ given, member.1 ∈ fields.names → member ∈ members)
    (once : ((given.map Prod.fst).filter (· ∈ fields.names)).Nodup) :
    fields.acceptAll origin docs (fields.without (given.map Prod.fst) row) =
      .ok (fields.without [] row) := by
  induction given generalizing docs with
  | nil =>
    cases spells
    rfl
  | cons member given ih =>
    cases spells with
    | @cons name value literal doc _ docs name_spelled value_spelled rest =>
      have step := ih rest (fun other mem => known other (List.mem_cons_of_mem _ mem))
      by_cases mem : name ∈ fields.names
      · rw [List.map_cons, List.filter_cons_of_pos (by simpa using mem), List.nodup_cons] at once
        have fresh : name ∉ given.map Prod.fst := fun later =>
          once.1 (List.mem_filter.mpr ⟨later, by simpa using mem⟩)
        have accepted := accept_known origin h distinct
          (known (name, value) (List.mem_cons_self ..) mem) value_spelled fresh
        simp [acceptAll, Document.name, name_spelled.text_eq, ofRead, accepted, step once.2, bind,
          Except.bind]
      · rw [List.map_cons, List.filter_cons_of_neg (by simpa using mem)] at once
        have same : fields.without (name :: given.map Prod.fst) row =
            fields.without (given.map Prod.fst) row := by
          refine without_congr row fun other other_mem => ?_
          have : other ≠ name := fun e => mem (e ▸ other_mem)
          simp [this]
        have skipped := accept_unknown origin mem doc
        simp [acceptAll, Document.name, name_spelled.text_eq, ofRead, same, skipped,
          value_spelled.skip, step once, bind, Except.bind]

/-- Without all of its fields nothing is left of a row. -/
theorem without_names (fields : Fields αs) (row : Row αs) {missing : List String}
    (all : ∀ name ∈ fields.names, name ∈ missing) :
    fields.without missing row = fields.noSlots := by
  induction fields with
  | nil => rfl
  | cons field rest ih =>
    obtain ⟨a, row⟩ := row
    have first := all field.name (List.mem_cons_self ..)
    have others := ih row fun name mem => all name (List.mem_cons_of_mem _ mem)
    simp [without, noSlots, first, others]

/-- A row without nothing is complete. -/
theorem complete_without_nil (fields : Fields αs) (row : Row αs) :
    fields.complete (fields.without [] row) = .ok row := by
  induction fields with
  | nil => rfl
  | cons field rest ih =>
    obtain ⟨a, row⟩ := row
    simp [without, complete, ih row, Except.map]

end

/-! ## Decoding -/

section

variable (origin : Origin) {αs : List Type} {fields : Fields αs} {row : Row αs}
  {members : List (String × Json)}

/-- The row is decoded from an object of its members in any order among others. -/
theorem Encodes.takes_object (h : fields.Encodes row members) (distinct : fields.names.Nodup)
    {given : List (String × Json)}
    (same : (given.filter (·.1 ∈ fields.names)).Perm members) :
    Decoder.Takes fields.decode (.object given) row := by
  intro origin doc spells
  cases spells with
  | object spells =>
    have names_perm : ((given.map Prod.fst).filter (· ∈ fields.names)).Perm fields.names := by
      rw [List.filter_map]
      exact (same.map Prod.fst).trans (.of_eq h.names_eq)
    have known : ∀ member ∈ given, member.1 ∈ fields.names → member ∈ members :=
      fun member mem known => same.subset (List.mem_filter.mpr ⟨mem, by simpa using known⟩)
    have all : ∀ name ∈ fields.names, name ∈ given.map Prod.fst :=
      fun name mem => List.mem_of_mem_filter (names_perm.mem_iff.mpr mem)
    have accepted := acceptAll_eq origin.inside h distinct spells known
      (names_perm.nodup_iff.mpr distinct)
    rw [without_names fields row all] at accepted
    simp [decode, accepted, Document.closing, ofRead, complete_without_nil, bind, Except.bind]

/-- A row is decoded from spellings of its values in the order of the fields. -/
theorem decodeItems_eq (h : fields.Encodes row members) {docs : List Document}
    (spells : SpellsItems (members.map Prod.snd) docs) :
    fields.decodeItems origin none docs = .ok row := by
  induction h generalizing docs with
  | nil =>
    cases spells
    rfl
  | cons first _ ih =>
    cases spells with
    | cons item rest =>
      simp [decodeItems, first origin _ item, ih rest, bind, Except.bind, pure, Except.pure]

/-- The row is decoded from an array of its values. -/
theorem Encodes.takes_array (h : fields.Encodes row members) :
    Decoder.Takes fields.decode (.array (members.map Prod.snd)) row := by
  intro origin doc spells
  cases spells with
  | array spells => exact decodeItems_eq origin.inside h spells

end

end DirectorySignIn.Json.Fields
