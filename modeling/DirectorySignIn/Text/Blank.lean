/-!
# White space

The class of Unicode `White_Space` characters and the removal of white space from the two ends
of a text.  Zero-width characters and the byte-order mark are no white space.

Main results:

- `trimBlanks_blankless`: a text without white space at its ends is left alone.
- `trim_trim`: a trimmed text is such a text.
- `trim_eq_empty_iff`: trimming leaves nothing exactly when every character is blank.
-/

namespace DirectorySignIn.Text

/-- Whether a character is Unicode white space. -/
def isBlank (c : Char) : Bool :=
  let n := c.toNat
  (9 ≤ n && n ≤ 13) || n == 0x20 || n == 0x85 || n == 0xA0 || n == 0x1680 ||
    (0x2000 ≤ n && n ≤ 0x200A) || n == 0x2028 || n == 0x2029 || n == 0x202F || n == 0x205F ||
    n == 0x3000

/-- The characters of a text without the blanks at its end. -/
def dropBlanksEnd (cs : List Char) : List Char :=
  (cs.reverse.dropWhile isBlank).reverse

/-- The characters of a text without the blanks at its two ends. -/
def trimBlanks (cs : List Char) : List Char :=
  dropBlanksEnd (cs.dropWhile isBlank)

/-- A text without the white space at its two ends. -/
def trim (text : String) : String :=
  .ofList (trimBlanks text.toList)

/-- Whether a text holds white space only. -/
def isBlankText (text : String) : Bool :=
  text.toList.all isBlank

@[simp]
theorem toList_trim (text : String) : (trim text).toList = trimBlanks text.toList := by
  simp [trim]

/-- Trimming leaves a text alone if it neither starts nor ends with white space. -/
theorem trimBlanks_blankless {cs : List Char} (first : ∀ c ∈ cs.head?, isBlank c = false)
    (last : ∀ c ∈ cs.getLast?, isBlank c = false) : trimBlanks cs = cs := by
  have h₁ : cs.dropWhile isBlank = cs := by
    cases cs with
    | nil => rfl
    | cons c rest => simp [first c (by simp)]
  have h₂ : cs.reverse.dropWhile isBlank = cs.reverse := by
    cases h : cs.reverse with
    | nil => rfl
    | cons c rest =>
      have : cs.getLast? = some c := by rw [← List.head?_reverse, h]; rfl
      simp [last c (by simp [this])]
  simp [trimBlanks, dropBlanksEnd, h₁, h₂]

/-- Without the blanks at its end a text is a beginning of itself. -/
theorem dropBlanksEnd_prefix (cs : List Char) : dropBlanksEnd cs <+: cs := by
  rw [dropBlanksEnd, ← List.reverse_suffix, List.reverse_reverse]
  exact List.dropWhile_suffix _

/-- What is left after trimming does not start with white space. -/
theorem isBlank_head?_trimBlanks (cs : List Char) :
    ∀ c ∈ (trimBlanks cs).head?, isBlank c = false := by
  intro c first
  have kept : (dropBlanksEnd (cs.dropWhile isBlank)).head? = some c := first
  have starts : (cs.dropWhile isBlank).head? = some c := by
    obtain ⟨rest, split⟩ := dropBlanksEnd_prefix (cs.dropWhile isBlank)
    rw [← split, List.head?_append, kept]
    rfl
  have plain := List.head?_dropWhile_not isBlank cs
  rw [starts] at plain
  simpa using plain

/-- What is left after trimming does not end with white space. -/
theorem isBlank_getLast?_trimBlanks (cs : List Char) :
    ∀ c ∈ (trimBlanks cs).getLast?, isBlank c = false := by
  intro c last
  rw [trimBlanks, dropBlanksEnd, List.getLast?_reverse] at last
  have plain := List.head?_dropWhile_not isBlank (cs.dropWhile isBlank).reverse
  rw [Option.mem_def.mp last] at plain
  simpa using plain

/-- There is nothing left to trim in a trimmed text. -/
theorem trim_trim (text : String) : trim (trim text) = trim text := by
  rw [← String.toList_inj, toList_trim, toList_trim]
  exact trimBlanks_blankless (isBlank_head?_trimBlanks _) (isBlank_getLast?_trimBlanks _)

/-- Nothing is left behind the blanks in front exactly if all is blank. -/
theorem dropWhile_isBlank_eq_nil_iff (cs : List Char) :
    cs.dropWhile isBlank = [] ↔ cs.all isBlank = true := by
  induction cs with
  | nil => simp
  | cons c rest ih => by_cases h : isBlank c = true <;> simp_all

/-- What is left behind the blanks in front is blank exactly if all is. -/
theorem all_dropWhile_isBlank (cs : List Char) :
    (cs.dropWhile isBlank).all isBlank = true ↔ cs.all isBlank = true := by
  induction cs with
  | nil => rfl
  | cons c rest ih => by_cases h : isBlank c <;> simp_all

/-- Trimming leaves no characters exactly if all are blank. -/
theorem trimBlanks_eq_nil_iff (cs : List Char) :
    trimBlanks cs = [] ↔ cs.all isBlank = true := by
  rw [trimBlanks, dropBlanksEnd, List.reverse_eq_nil_iff, dropWhile_isBlank_eq_nil_iff,
    List.all_reverse, all_dropWhile_isBlank]

/-- Trimming leaves nothing exactly when the text holds white space only. -/
theorem trim_eq_empty_iff (text : String) : trim text = "" ↔ isBlankText text = true := by
  rw [← String.toList_inj, toList_trim, isBlankText]
  exact trimBlanks_eq_nil_iff _

end DirectorySignIn.Text
