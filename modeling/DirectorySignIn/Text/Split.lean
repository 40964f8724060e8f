/-!
# Splitting text

The parts of a text between the occurrences of a character, and reading each of them.
-/

namespace DirectorySignIn.Text

/-- Splits a text at each occurrence of a character. -/
def splitAt (separator : Char) : List Char → List (List Char)
  | [] => [[]]
  | c :: rest =>
    if c = separator then [] :: splitAt separator rest
    else
      match splitAt separator rest with
      | part :: parts => (c :: part) :: parts
      | [] => [[c]]

/-- There is always a first part. -/
theorem splitAt_ne_nil (separator : Char) (cs : List Char) : splitAt separator cs ≠ [] := by
  cases cs with
  | nil => simp [splitAt]
  | cons c rest =>
    simp only [splitAt]
    split
    · simp
    · split <;> simp

/-- The parts with the separator between them are the text. -/
theorem intercalate_splitAt (separator : Char) (cs : List Char) :
    [separator].intercalate (splitAt separator cs) = cs := by
  induction cs with
  | nil => simp [splitAt]
  | cons c rest ih =>
    simp only [splitAt]
    split
    · rename_i h
      cases hs : splitAt separator rest with
      | nil => exact absurd hs (splitAt_ne_nil separator rest)
      | cons part parts => simp_all [List.intercalate]
    · cases hs : splitAt separator rest with
      | nil => exact absurd hs (splitAt_ne_nil separator rest)
      | cons part parts =>
        rw [hs] at ih
        cases parts <;> simp_all [List.intercalate]

/-- A text without the separator is its only part. -/
theorem splitAt_of_notMem {separator : Char} {cs : List Char} (h : separator ∉ cs) :
    splitAt separator cs = [cs] := by
  induction cs with
  | nil => rfl
  | cons c rest ih =>
    rw [List.mem_cons, not_or] at h
    simp [splitAt, Ne.symm h.1, ih h.2]

/-- The first part ends at the first separator. -/
theorem splitAt_append_cons {separator : Char} {part : List Char} (h : separator ∉ part)
    (rest : List Char) :
    splitAt separator (part ++ separator :: rest) = part :: splitAt separator rest := by
  induction part with
  | nil => simp [splitAt]
  | cons c part ih =>
    rw [List.mem_cons, not_or] at h
    simp [splitAt, Ne.symm h.1, ih h.2]

/-! ## Reading the parts -/

section

variable {α β : Type} {read : α → Option β} {parts : List α}

/-- No parts are read exactly if there are none. -/
theorem mapM_eq_some_nil_iff : parts.mapM read = some [] ↔ parts = [] := by
  cases parts with
  | nil => simp
  | cons part rest => simp [Option.bind_eq_some_iff]

/-- Reading the parts gives a first value and others if the first part is read so and the others
are. -/
theorem mapM_eq_some_cons_iff {value : β} {values : List β} :
    parts.mapM read = some (value :: values) ↔
      ∃ part rest, parts = part :: rest ∧ read part = some value ∧
        rest.mapM read = some values := by
  cases parts with
  | nil => simp
  | cons part rest =>
    simp only [List.mapM_cons, Option.bind_eq_bind, Option.bind_eq_some_iff, Option.pure_def,
      Option.some.injEq, List.cons.injEq]
    constructor
    · rintro ⟨_, first, _, others, rfl, rfl⟩
      exact ⟨part, rest, ⟨rfl, rfl⟩, first, others⟩
    · rintro ⟨_, _, ⟨rfl, rfl⟩, first, others⟩
      exact ⟨value, first, values, others, rfl, rfl⟩

end

end DirectorySignIn.Text
