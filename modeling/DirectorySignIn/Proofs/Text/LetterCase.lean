import DirectorySignIn.Text.Ascii
import DirectorySignIn.Text.Lowercase

/-!
# Two ways to forget letter case

Lower-casing knows the capitals of all scripts, and the comparison of stored addresses knows those
of ASCII only.  A text in lower case is therefore not always equal, up to ASCII case, to the text
that it was made from.  It is if every capital in it is an ASCII one, and only then.

Main results:

- `lowercaseChar_of_lt`: on ASCII characters both ways are the same.
- `asciiFold_lowercase_eq_iff`: a text in lower case is equal up to ASCII case to the text itself
  exactly if it has no capitals but those of ASCII.
-/

namespace DirectorySignIn.Text

/-! ## Characters -/

/-- What holds of the first 128 characters holds of each ASCII character. -/
theorem of_ascii {P : Char → Prop} (table : ∀ n < 128, P (Char.ofNat n)) {c : Char}
    (h : c.toNat < 128) : P c := by
  have at_code := table c.toNat h
  rwa [Char.ofNat_toNat] at at_code

/-- ASCII letters are lower-cased alike in both ways. -/
theorem lowercaseChar_of_lt {c : Char} (h : c.toNat < 128) : lowercaseChar c = [c.toLower] :=
  of_ascii (P := fun c => lowercaseChar c = [c.toLower]) (by decide +kernel) h

/-- The small letter of an ASCII character is one. -/
theorem toLower_lt {c : Char} (h : c.toNat < 128) : c.toLower.toNat < 128 :=
  of_ascii (P := fun c => c.toLower.toNat < 128) (by decide +kernel) h

/-- Characters beyond ASCII have no ASCII case. -/
theorem toLower_of_le {c : Char} (h : 128 ≤ c.toNat) : c.toLower = c := by
  have beyond : ¬ c.val ≤ 'Z'.val := by
    rw [UInt32.le_iff_toNat_le, Nat.not_le]
    exact Nat.lt_of_lt_of_le (by decide) h
  exact dif_neg fun capital => beyond capital.2

/-- A small letter has itself for its small letter. -/
theorem toLower_toLower (c : Char) : c.toLower.toLower = c.toLower := by
  by_cases ascii : c.toNat < 128
  · exact of_ascii (P := fun c => c.toLower.toLower = c.toLower) (by decide +kernel) ascii
  · have alone := toLower_of_le (Nat.le_of_not_lt ascii)
    rw [alone, alone]

/-- A character that is equal up to ASCII case to one beyond ASCII is that one. -/
theorem eq_of_toLower_eq {c d : Char} (h : 128 ≤ c.toNat) (same : d.toLower = c.toLower) :
    d = c := by
  rw [toLower_of_le h] at same
  by_cases ascii : d.toNat < 128
  · have := toLower_lt ascii
    rw [same] at this
    omega
  · rwa [toLower_of_le (by omega)] at same

/-! ## Texts -/

/-- Only the empty text is equal to it up to ASCII case. -/
theorem eq_empty_of_asciiFold_eq {text : String} (h : asciiFold text = asciiFold "") :
    text = "" := by
  have folded : text.toList.map Char.toLower = [] := String.ofList_inj.mp h
  exact String.toList_eq_nil_iff.mp (List.map_eq_nil_iff.mp folded)

/-- No capital of a text lies beyond ASCII: lower-casing leaves all other characters alone. -/
def AsciiCapitals (cs : List Char) : Prop :=
  ∀ c ∈ cs, c.toNat < 128 ∨ lowercaseChar c = [c]

instance (cs : List Char) : Decidable (AsciiCapitals cs) :=
  List.decidableBAll _ cs

/-- All capitals of a text are ASCII if the first character is ASCII or no capital, and those of the
rest are. -/
theorem asciiCapitals_cons {c : Char} {cs : List Char} :
    AsciiCapitals (c :: cs) ↔ (c.toNat < 128 ∨ lowercaseChar c = [c]) ∧ AsciiCapitals cs :=
  List.forall_mem_cons

/-- A text without capitals beyond ASCII is lower-cased letter by letter as ASCII is. -/
theorem lowercaseAfter_eq_map {cs : List Char} (h : AsciiCapitals cs) (before : List Char) :
    lowercaseAfter before cs = cs.map Char.toLower := by
  induction cs generalizing before with
  | nil => rfl
  | cons c rest ih =>
    obtain ⟨first, others⟩ := asciiCapitals_cons.mp h
    have plain : c ≠ 'Σ' := by
      rintro rfl
      revert first
      decide +kernel
    have image : lowercaseChar c = [c.toLower] := by
      by_cases ascii : c.toNat < 128
      · exact lowercaseChar_of_lt ascii
      · rw [toLower_of_le (by omega)]
        exact first.resolve_left ascii
    rw [lowercaseAfter, if_neg plain, image, ih others]
    rfl

/-- If lower-casing keeps a text up to ASCII case, it has no capitals beyond ASCII. -/
theorem asciiCapitals_of_map_eq {cs before : List Char}
    (h : (lowercaseAfter before cs).map Char.toLower = cs.map Char.toLower) :
    AsciiCapitals cs := by
  induction cs generalizing before with
  | nil => simp [AsciiCapitals]
  | cons c rest ih =>
    -- The image of a character begins with one that is equal to it up to ASCII case.
    have first : ∀ d ds, (d :: ds ++ lowercaseAfter (c :: before) rest).map Char.toLower =
        (c :: rest).map Char.toLower → d.toLower = c.toLower ∧
          (ds ++ lowercaseAfter (c :: before) rest).map Char.toLower = rest.map Char.toLower :=
      fun d ds same => List.cons.inj same
    rw [asciiCapitals_cons]
    rw [lowercaseAfter] at h
    by_cases sigma : c = 'Σ'
    · subst sigma
      rw [if_pos rfl] at h
      have same := eq_of_toLower_eq (by decide) (first _ [] h).1
      split at same
      · exact absurd same (by decide)
      · exact absurd same (by decide)
    · rw [if_neg sigma] at h
      by_cases dotted : c = 'İ'
      · subst dotted
        have same := eq_of_toLower_eq (by decide) (first _ _ h).1
        exact absurd same (by decide)
      · have image : lowercaseChar c = [Char.ofNat (mapCode lowercaseRuns c.toNat)] :=
          if_neg dotted
        rw [image] at h
        obtain ⟨same, others⟩ := first _ [] h
        refine ⟨?_, ih others⟩
        by_cases ascii : c.toNat < 128
        · exact .inl ascii
        · rw [image, eq_of_toLower_eq (by omega) same]
          exact .inr rfl

/-- A text in lower case is equal up to ASCII case to the text itself exactly if all capitals of the
text are ASCII letters. -/
theorem asciiFold_lowercase_eq_iff (text : String) :
    asciiFold (lowercase text) = asciiFold text ↔ AsciiCapitals text.toList := by
  rw [asciiFold, asciiFold, String.ofList_inj, toList_lowercase]
  constructor
  · exact asciiCapitals_of_map_eq
  · intro h
    rw [lowercaseAfter_eq_map h, List.map_map]
    exact List.map_congr_left fun c _ => toLower_toLower c

end DirectorySignIn.Text
