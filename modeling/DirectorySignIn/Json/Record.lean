import DirectorySignIn.Json.Decoder

/-!
# Records

A record is described once, by its fields in their order.  It is decoded from an object, whose
members may come in any order and among unknown ones, or from an array of its fields.  A member
that is known may not be repeated, and one that is missing is reported after all members were
read, the first in order of the fields.
-/

namespace DirectorySignIn.Json

/-- A field of a record. -/
structure Field (α : Type) where
  name : String
  decoder : Decoder α
  /-- The value of a field that is not given, if it may be left out. -/
  fallback : Option α

/-- A field that has to be given. -/
def required {α : Type} (name : String) (decoder : Decoder α) : Field α :=
  ⟨name, decoder, none⟩

/-- A field with a value for the case that it is not given. -/
def optional {α : Type} (name : String) (decoder : Decoder α) (fallback : α) : Field α :=
  ⟨name, decoder, some fallback⟩

/-- The fields of a record with the types of their values. -/
inductive Fields : List Type → Type 1 where
  | nil : Fields []
  | cons {α : Type} {αs : List Type} (field : Field α) (rest : Fields αs) : Fields (α :: αs)

/-- The values of the fields of a record. -/
abbrev Row : List Type → Type
  | [] => Unit
  | α :: αs => α × Row αs

/-- The values found so far. -/
abbrev Slots : List Type → Type
  | [] => Unit
  | α :: αs => Option α × Slots αs

namespace Fields

/-- Nothing was found yet. -/
def noSlots : {αs : List Type} → Fields αs → Slots αs
  | _, nil => ()
  | _, cons _ rest => (none, rest.noSlots)

/-- Takes in a member of a known name; `none` if the name is unknown. -/
def accept (origin : Origin) (name : String) (doc : Document) :
    {αs : List Type} → Fields αs → Slots αs → Option (Except DecodeError (Slots αs))
  | _, nil, () => none
  | _, cons field rest, (slot, slots) =>
    if field.name = name then
      match slot with
      | some _ => some (.error (.content (.duplicateField name)))
      | none => some ((field.decoder origin doc).map fun a => (some a, slots))
    else (accept origin name doc rest slots).map (·.map fun slots => (slot, slots))

/-- Takes in the members of an object in their order. -/
def acceptAll (origin : Origin) {αs : List Type} (fields : Fields αs) :
    List (Document × Document) → Slots αs → Except DecodeError (Slots αs)
  | [], slots => .ok slots
  | (key, value) :: rest, slots => do
    let name ← ofRead key.name
    match fields.accept origin name value slots with
    | some outcome => acceptAll origin fields rest (← outcome)
    | none =>
      ofRead value.skip
      acceptAll origin fields rest slots

/-- The row of what was found, if nothing is missing. -/
def complete : {αs : List Type} → Fields αs → Slots αs → Except DecodeError (Row αs)
  | _, nil, () => .ok ()
  | _, cons field rest, (slot, slots) =>
    match slot <|> field.fallback with
    | none => .error (.content (.missingField field.name))
    | some a => (rest.complete slots).map fun row => (a, row)

/-- Decodes the items of an array as the fields in their order.  Only fields that may be left out
can be missing at the end. -/
def decodeItems (origin : Origin) (fault : Option Fault) :
    {αs : List Type} → Fields αs → List Document → Except DecodeError (Row αs)
  | _, nil, [] => ofRead (Document.closing fault)
  | _, nil, _ :: _ =>
    match origin with
    | .text _ => .error (.text .malformed)
    | .value => mismatched
  | _, cons field rest, item :: items => do
    let a ← field.decoder origin item
    let row ← decodeItems origin fault rest items
    return (a, row)
  | _, cons field rest, [] => do
    ofRead (Document.closing fault)
    match field.fallback with
    | none => mismatched
    | some a => (decodeItems origin fault rest []).map fun row => (a, row)

/-- Decodes a record. -/
def decode {αs : List Type} (fields : Fields αs) : Decoder (Row αs) := fun origin doc =>
  match doc with
  | .array items fault => fields.decodeItems origin.inside fault items
  | .object members fault => do
    let slots ← fields.acceptAll origin.inside members fields.noSlots
    ofRead (Document.closing fault)
    fields.complete slots
  | doc => doc.unexpected

end Fields

end DirectorySignIn.Json
