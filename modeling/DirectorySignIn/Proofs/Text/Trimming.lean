import DirectorySignIn.Proofs.Text.LetterCase
import DirectorySignIn.Text.Blank

/-!
# Trimmed texts

Trimming takes away the white space that was put around a text, and nothing else.  It has nothing to
do with letter case: white space has none.

Main results:

- `isTrimmed_iff`: the texts that trimming leaves alone are those with no white space at their ends.
- `differInPadding_iff`: two texts come to the same when trimmed if they are one text with white space
  put around it.
- `trim_asciiFold`: the case of ASCII letters may be forgotten before or after trimming.
-/

namespace DirectorySignIn.Text

/-- No white space stands at the two ends of a text. -/
structure IsTrimmed (text : String) : Prop where
  first : ∀ c ∈ text.toList.head?, isBlank c = false
  last : ∀ c ∈ text.toList.getLast?, isBlank c = false

/-- Trimming leaves a trimmed text. -/
theorem isTrimmed_trim (text : String) : IsTrimmed (trim text) where
  first := by
    rw [toList_trim]
    exact isBlank_head?_trimBlanks text.toList
  last := by
    rw [toList_trim]
    exact isBlank_getLast?_trimBlanks text.toList

/-- A text is trimmed exactly if trimming changes nothing. -/
theorem isTrimmed_iff (text : String) : IsTrimmed text ↔ trim text = text := by
  constructor
  · rintro ⟨first, last⟩
    rw [← String.toList_inj, toList_trim]
    exact trimBlanks_blankless first last
  · intro kept
    rw [← kept]
    exact isTrimmed_trim text

/-! ## White space around a text -/

/-- A text is another one with white space put before and behind it. -/
def Pads (padded text : String) : Prop :=
  ∃ before behind : List Char, before.all isBlank = true ∧ behind.all isBlank = true ∧
    padded.toList = before ++ text.toList ++ behind

/-- White space in front is dropped with what there was before. -/
theorem dropWhile_append_of_blank {before : List Char} (blank : before.all isBlank = true)
    (cs : List Char) : (before ++ cs).dropWhile isBlank = cs.dropWhile isBlank :=
  List.dropWhile_append_of_pos (List.all_eq_true.mp blank)

/-- White space at the end is dropped with what there was before. -/
theorem dropBlanksEnd_append {behind : List Char} (blank : behind.all isBlank = true)
    (cs : List Char) : dropBlanksEnd (cs ++ behind) = dropBlanksEnd cs := by
  rw [dropBlanksEnd, List.reverse_append, dropWhile_append_of_blank (by rwa [List.all_reverse]),
    dropBlanksEnd]

/-- White space around a text makes no difference for trimming. -/
theorem trimBlanks_append {before behind : List Char} (blank : before.all isBlank = true)
    (blank' : behind.all isBlank = true) (cs : List Char) :
    trimBlanks (before ++ cs ++ behind) = trimBlanks cs := by
  rw [trimBlanks, List.append_assoc, dropWhile_append_of_blank blank, List.dropWhile_append]
  split
  · -- The text is blank itself, and nothing is left of it.
    rename_i gone
    rw [trimBlanks, List.isEmpty_iff.mp gone, (dropWhile_isBlank_eq_nil_iff behind).mpr blank']
  · rw [dropBlanksEnd_append blank', trimBlanks]

/-- A padded text is trimmed to the same as the text. -/
theorem Pads.trim_eq {padded text : String} (pads : Pads padded text) : trim padded = trim text := by
  obtain ⟨before, behind, blank, blank', split⟩ := pads
  rw [← String.toList_inj, toList_trim, toList_trim, split, trimBlanks_append blank blank']

/-- A text is what trimming leaves of it with white space put around. -/
theorem pads_trim (text : String) : Pads text (trim text) := by
  refine ⟨text.toList.takeWhile isBlank,
    ((text.toList.dropWhile isBlank).reverse.takeWhile isBlank).reverse, List.all_takeWhile, ?_, ?_⟩
  · rw [List.all_reverse]
    exact List.all_takeWhile
  · rw [toList_trim, trimBlanks, dropBlanksEnd, List.append_assoc, ← List.reverse_append,
      List.takeWhile_append_dropWhile, List.reverse_reverse, List.takeWhile_append_dropWhile]

/-- Two texts are one text with white space put around it. -/
def DifferInPadding (a b : String) : Prop :=
  ∃ text, Pads a text ∧ Pads b text

/-- Two texts come to the same when trimmed exactly if they differ in the white space around them
alone. -/
theorem differInPadding_iff (a b : String) : DifferInPadding a b ↔ trim a = trim b := by
  constructor
  · rintro ⟨text, padsA, padsB⟩
    rw [padsA.trim_eq, padsB.trim_eq]
  · intro same
    refine ⟨trim a, pads_trim a, ?_⟩
    rw [same]
    exact pads_trim b

/-! ## Letter case -/

/-- Only the capitals of ASCII have another character for a small letter. -/
theorem toLower_cases (c : Char) : c.toLower = c ∨ ∃ k < 26, c = Char.ofNat (65 + k) := by
  by_cases ascii : c.toNat < 128
  · exact of_ascii (P := fun c => c.toLower = c ∨ ∃ k < 26, c = Char.ofNat (65 + k))
      (by decide +kernel) ascii
  · exact .inl (toLower_of_le (Nat.le_of_not_lt ascii))

/-- What is the same for the ASCII letters of both cases does not depend on case. -/
theorem apply_toLower {α : Type} (f : Char → α)
    (table : ∀ k < 26, f (Char.ofNat (65 + k)).toLower = f (Char.ofNat (65 + k))) (c : Char) :
    f c.toLower = f c := by
  rcases toLower_cases c with same | ⟨k, letter, rfl⟩
  · rw [same]
  · exact table k letter

/-- White space has no letter case. -/
@[simp]
theorem isBlank_toLower (c : Char) : isBlank c.toLower = isBlank c :=
  apply_toLower isBlank (by decide +kernel) c

/-- White space in front is the same in small letters. -/
theorem dropWhile_map_toLower (cs : List Char) :
    (cs.map Char.toLower).dropWhile isBlank = (cs.dropWhile isBlank).map Char.toLower := by
  rw [List.dropWhile_map]
  exact congrArg (fun test => (cs.dropWhile test).map Char.toLower) (funext isBlank_toLower)

/-- Trimming and small letters of ASCII do not get in each other's way. -/
theorem trimBlanks_map_toLower (cs : List Char) :
    trimBlanks (cs.map Char.toLower) = (trimBlanks cs).map Char.toLower := by
  simp only [trimBlanks, dropBlanksEnd, dropWhile_map_toLower, ← List.map_reverse]

/-- The case of ASCII letters may be forgotten before or after trimming. -/
theorem trim_asciiFold (text : String) : trim (asciiFold text) = asciiFold (trim text) := by
  rw [trim, asciiFold, asciiFold, toList_trim, String.toList_ofList, trimBlanks_map_toLower]

/-- In small letters of ASCII a text is trimmed exactly if it was before. -/
theorem isTrimmed_asciiFold (text : String) : IsTrimmed (asciiFold text) ↔ IsTrimmed text := by
  have plain : ∀ end? : Option Char, (∀ c ∈ end?.map Char.toLower, isBlank c = false) ↔
      ∀ c ∈ end?, isBlank c = false := by
    intro end?
    cases end? <;> simp
  constructor
  · rintro ⟨first, last⟩
    rw [asciiFold, String.toList_ofList, List.head?_map, plain] at first
    rw [asciiFold, String.toList_ofList, List.getLast?_map, plain] at last
    exact ⟨first, last⟩
  · rintro ⟨first, last⟩
    constructor
    · rwa [asciiFold, String.toList_ofList, List.head?_map, plain]
    · rwa [asciiFold, String.toList_ofList, List.getLast?_map, plain]

end DirectorySignIn.Text
