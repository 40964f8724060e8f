/-!
# Letter case in ASCII

Names of directory attributes and stored email addresses are compared without regard to the case
of the letters `A` to `Z`; all other characters, accented letters among them, have to be equal.
-/

namespace DirectorySignIn.Text

/-- A text with its ASCII capitals replaced by small letters. -/
def asciiFold (text : String) : String :=
  .ofList (text.toList.map Char.toLower)

/-- Whether two texts are equal up to the case of ASCII letters. -/
def equalFold (a b : String) : Bool :=
  asciiFold a == asciiFold b

/-- Texts are equal up to the case of ASCII letters if they are the same in small letters. -/
theorem equalFold_iff (a b : String) : equalFold a b = true ↔ asciiFold a = asciiFold b := by
  simp [equalFold]

@[simp]
theorem equalFold_refl (a : String) : equalFold a a = true := by
  simp [equalFold]

theorem equalFold_comm (a b : String) : equalFold a b = equalFold b a := by
  simp [equalFold, eq_comm, Bool.beq_eq_decide_eq]

theorem equalFold_trans {a b c : String} (h₁ : equalFold a b = true) (h₂ : equalFold b c = true) :
    equalFold a c = true := by
  simp_all [equalFold]

end DirectorySignIn.Text
