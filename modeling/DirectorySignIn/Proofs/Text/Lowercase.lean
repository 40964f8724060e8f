import DirectorySignIn.Proofs.Text.Trimming

/-!
# Texts in lower case

Lower-casing replaces a character by one or two small ones, which lower-casing leaves alone.  It does
so wherever the character stands, but for the capital sigma, which has two small forms; both of them
stay as they are.

The table of lower-case mappings has more than a thousand capitals, so that it takes long to compare
each of them with each small letter.  The capitals make up one set of code points, which is written as
the bits of a number, and the small letters another one.  Two such sets have nothing in common if
their numbers have no bit in common.

Main results:

- `of_mem_lowercaseChar`: what a character is mapped to is small, and white space only if the
  character is.
- `lowercase_lowercase`: a text in lower case stays as it is.
- `IsTrimmed.lowercase`: lower-casing puts no white space at the ends of a text.
- `lowercase_asciiFold`: the case of ASCII letters does not matter to lower-casing, whatever stands
  around them.
-/

namespace DirectorySignIn.Text

/-! ## Sets of code points -/

/-- A set of code points as the bits of a number. -/
def bitSet (codes : List Nat) : Nat :=
  codes.foldr (fun code set => 1 <<< code ||| set) 0

/-- The bit of a member is set. -/
theorem testBit_bitSet_of_mem {codes : List Nat} {code : Nat} (h : code ∈ codes) :
    (bitSet codes).testBit code = true := by
  induction codes with
  | nil => contradiction
  | cons first rest ih =>
    rw [bitSet, List.foldr_cons, Nat.testBit_or, Bool.or_eq_true]
    rcases List.mem_cons.mp h with rfl | later
    · left
      simp [Nat.testBit_shiftLeft]
    · right
      exact ih later

/-- Two sets of code points have nothing in common if their numbers have no bit in common. -/
theorem disjoint_of_bitSet {codes others : List Nat} (apart : bitSet codes &&& bitSet others = 0) :
    ∀ code ∈ codes, code ∉ others := by
  intro code mem other
  have both := Nat.testBit_and (bitSet codes) (bitSet others) code
  rw [apart, testBit_bitSet_of_mem mem, testBit_bitSet_of_mem other, Nat.zero_testBit] at both
  contradiction

/-! ## The capitals and the small letters of the table -/

namespace CodeRun

/-- How far the code points of a run are from its first one. -/
def distances (run : CodeRun) : List Nat :=
  (List.range ((run.last - run.first) / run.step + 1)).map (run.step * ·)

/-- The distance of a point that a run holds is one of its distances. -/
theorem sub_mem_distances {run : CodeRun} {code : Nat} (h : run.covers code = true) :
    run.first ≤ code ∧ code - run.first ∈ run.distances := by
  simp only [covers, Bool.and_eq_true, decide_eq_true_eq, beq_iff_eq] at h
  obtain ⟨⟨low, high⟩, onGrid⟩ := h
  refine ⟨low, List.mem_map.mpr ⟨(code - run.first) / run.step, List.mem_range.mpr ?_, ?_⟩⟩
  · exact Nat.lt_succ_of_le (Nat.div_le_div_right (Nat.sub_le_sub_right high _))
  · exact Nat.mul_div_cancel' (Nat.dvd_of_mod_eq_zero onGrid)

end CodeRun

/-- The code points that the table maps. -/
def capitals : List Nat :=
  lowercaseRuns.flatMap fun run => run.distances.map (run.first + ·)

/-- The code points that the table maps them to. -/
def smalls : List Nat :=
  lowercaseRuns.flatMap fun run => run.distances.map (run.image + ·)

/-- The code points of white space. -/
def blanks : List Nat :=
  [9, 10, 11, 12, 13, 0x20, 0x85, 0xA0, 0x1680, 0x2000, 0x2001, 0x2002, 0x2003, 0x2004, 0x2005,
    0x2006, 0x2007, 0x2008, 0x2009, 0x200A, 0x2028, 0x2029, 0x202F, 0x205F, 0x3000]

/-- The codes of white space are listed. -/
theorem mem_blanks {c : Char} (h : isBlank c = true) : c.toNat ∈ blanks := by
  simp only [isBlank, Bool.or_eq_true, Bool.and_eq_true, decide_eq_true_eq, beq_iff_eq] at h
  simp only [blanks, List.mem_cons, List.not_mem_nil, or_false]
  omega

/-- The table maps a capital to a small letter and leaves every other code point alone. -/
theorem mapCode_cases (code : Nat) :
    code ∈ capitals ∧ mapCode lowercaseRuns code ∈ smalls ∨ mapCode lowercaseRuns code = code := by
  unfold mapCode
  cases found : lowercaseRuns.find? (·.covers code) with
  | none => exact .inr rfl
  | some run =>
    have covers : run.covers code = true := by
      simpa using List.find?_some found
    obtain ⟨low, distance⟩ := CodeRun.sub_mem_distances covers
    have listed := List.mem_of_find?_eq_some found
    refine .inl ⟨List.mem_flatMap.mpr ⟨run, listed, ?_⟩, List.mem_flatMap.mpr ⟨run, listed, ?_⟩⟩
    · exact List.mem_map.mpr ⟨_, distance, Nat.add_sub_cancel' low⟩
    · exact List.mem_map_of_mem distance

/-- No small letter is mapped itself, is the one capital that has a rule of its own, or is white
space. -/
theorem smalls_apart : ∀ code ∈ 0x130 :: capitals ++ blanks, code ∉ smalls :=
  disjoint_of_bitSet (by decide +kernel)

/-- No capital is white space. -/
theorem capitals_apart : ∀ code ∈ capitals, code ∉ blanks :=
  disjoint_of_bitSet (by decide +kernel)

/-- Every small letter is a character. -/
theorem isValidChar_of_mem_smalls {code : Nat} (h : code ∈ smalls) : code.isValidChar := by
  have listed : ∀ code ∈ smalls, code < 0xD800 ∨ 0xDFFF < code ∧ code < 0x110000 := by
    decide +kernel
  exact listed code h

/-! ## Characters -/

/-- Lower-casing leaves the character alone. -/
def IsSmall (c : Char) : Prop :=
  lowercaseChar c = [c]

instance : DecidablePred IsSmall :=
  fun c => inferInstanceAs (Decidable (lowercaseChar c = [c]))

/-- The capital sigma is not small. -/
theorem IsSmall.ne_sigma {c : Char} (h : IsSmall c) : c ≠ 'Σ' := by
  rintro rfl
  revert h
  decide +kernel

/-- A character is left alone if it is neither in the table nor the capital that has a rule of its
own. -/
theorem isSmall_of_notMem {c : Char} (h : c.toNat ∉ 0x130 :: capitals) : IsSmall c := by
  obtain ⟨plain, unlisted⟩ := not_or.mp (mt List.mem_cons.mpr h)
  have undotted : c ≠ 'İ' := by
    rintro rfl
    exact plain rfl
  have kept := (mapCode_cases c.toNat).resolve_left (unlisted ·.1)
  rw [IsSmall, lowercaseChar, if_neg undotted, kept, Char.ofNat_toNat]

/-- A small letter of the table is left alone, and it is no white space. -/
theorem of_mem_smalls {code : Nat} (h : code ∈ smalls) :
    IsSmall (Char.ofNat code) ∧ isBlank (Char.ofNat code) = false := by
  have toNat : (Char.ofNat code).toNat = code := by
    rw [Char.ofNat, dif_pos (isValidChar_of_mem_smalls h)]
    rfl
  constructor
  · refine isSmall_of_notMem fun capital => ?_
    rw [toNat] at capital
    exact smalls_apart code (List.mem_append_left _ capital) h
  · refine Bool.eq_false_iff.mpr fun blank => ?_
    have listed := mem_blanks blank
    rw [toNat] at listed
    exact smalls_apart code (List.mem_append_right _ listed) h

/-- Every character becomes something in small letters. -/
theorem lowercaseChar_ne_nil (c : Char) : lowercaseChar c ≠ [] := by
  unfold lowercaseChar
  split <;> exact List.cons_ne_nil _ _

/-- What a character is mapped to is small, and white space only if the character is. -/
theorem of_mem_lowercaseChar {c d : Char} (h : d ∈ lowercaseChar c) :
    IsSmall d ∧ isBlank d = isBlank c := by
  by_cases dotted : c = 'İ'
  · subst dotted
    rw [lowercaseChar, if_pos rfl, List.mem_cons, List.mem_singleton] at h
    rcases h with rfl | rfl
    · exact ⟨by decide +kernel, rfl⟩
    · exact ⟨by decide +kernel, rfl⟩
  · rw [lowercaseChar, if_neg dotted, List.mem_singleton] at h
    rcases mapCode_cases c.toNat with ⟨capital, small⟩ | kept
    · have plain : isBlank c = false :=
        Bool.eq_false_iff.mpr fun blank => capitals_apart _ capital (mem_blanks blank)
      rw [h, plain]
      exact of_mem_smalls small
    · rw [kept, Char.ofNat_toNat] at h
      subst h
      exact ⟨by rw [IsSmall, lowercaseChar, if_neg dotted, kept, Char.ofNat_toNat], rfl⟩

/-! ## Texts in lower case -/

/-- What the first of several characters is lower-cased to, whatever stands around it. -/
theorem lowercaseAfter_cons (before rest : List Char) (c : Char) :
    ∃ image, lowercaseAfter before (c :: rest) = image ++ lowercaseAfter (c :: before) rest ∧
      image ≠ [] ∧ ∀ d ∈ image, IsSmall d ∧ isBlank d = isBlank c := by
  refine ⟨_, rfl, ?_⟩
  by_cases sigma : c = 'Σ'
  · subst sigma
    rw [if_pos rfl]
    refine ⟨List.cons_ne_nil _ _, fun d image => ?_⟩
    rw [List.mem_singleton.mp image]
    split
    · exact ⟨by decide +kernel, rfl⟩
    · exact ⟨by decide +kernel, rfl⟩
  · rw [if_neg sigma]
    exact ⟨lowercaseChar_ne_nil c, fun d => of_mem_lowercaseChar⟩

/-- In small letters all characters are small. -/
theorem isSmall_of_mem_lowercaseAfter {before cs : List Char} {d : Char}
    (h : d ∈ lowercaseAfter before cs) : IsSmall d := by
  induction cs generalizing before with
  | nil => contradiction
  | cons c rest ih =>
    obtain ⟨image, split, -, small⟩ := lowercaseAfter_cons before rest c
    rw [split] at h
    rcases List.mem_append.mp h with first | later
    · exact (small d first).1
    · exact ih later

/-- Small characters are left alone, wherever they stand. -/
theorem lowercaseAfter_of_small {cs : List Char} (small : ∀ c ∈ cs, IsSmall c)
    (before : List Char) : lowercaseAfter before cs = cs := by
  induction cs generalizing before with
  | nil => rfl
  | cons c rest ih =>
    obtain ⟨first, others⟩ := List.forall_mem_cons.mp small
    rw [lowercaseAfter, if_neg first.ne_sigma, first, ih others]
    rfl

/-- A text in lower case stays as it is. -/
theorem lowercase_lowercase (text : String) : lowercase (lowercase text) = lowercase text := by
  rw [← String.toList_inj, toList_lowercase, toList_lowercase]
  exact lowercaseAfter_of_small (fun _ => isSmall_of_mem_lowercaseAfter) []

/-! ## The ends of a text in lower case -/

/-- Nothing is left in small letters exactly if there was nothing. -/
theorem lowercaseAfter_eq_nil_iff (before cs : List Char) :
    lowercaseAfter before cs = [] ↔ cs = [] := by
  cases cs with
  | nil => exact ⟨fun _ => rfl, fun _ => rfl⟩
  | cons c rest =>
    obtain ⟨image, split, filled, -⟩ := lowercaseAfter_cons before rest c
    simp [split, filled]

/-- In small letters a text does not start with white space if it did not before. -/
theorem isBlank_head?_lowercaseAfter {cs : List Char} (plain : ∀ c ∈ cs.head?, isBlank c = false)
    (before : List Char) : ∀ d ∈ (lowercaseAfter before cs).head?, isBlank d = false := by
  cases cs with
  | nil => exact fun d none => nomatch none
  | cons c rest =>
    obtain ⟨image, split, filled, kept⟩ := lowercaseAfter_cons before rest c
    intro d first
    rw [split, List.head?_append, Option.mem_def, Option.or_eq_some_iff] at first
    rcases first with starts | ⟨empty, -⟩
    · rw [(kept d (List.mem_of_head? starts)).2]
      exact plain c rfl
    · exact absurd (List.head?_eq_none_iff.mp empty) filled

/-- In small letters a text does not end with white space if it did not before. -/
theorem isBlank_getLast?_lowercaseAfter {cs : List Char}
    (plain : ∀ c ∈ cs.getLast?, isBlank c = false) (before : List Char) :
    ∀ d ∈ (lowercaseAfter before cs).getLast?, isBlank d = false := by
  induction cs generalizing before with
  | nil => exact fun d none => nomatch none
  | cons c rest ih =>
    obtain ⟨image, split, -, kept⟩ := lowercaseAfter_cons before rest c
    intro d last
    rw [split, List.getLast?_append, Option.mem_def, Option.or_eq_some_iff] at last
    rcases last with later | ⟨empty, ends⟩
    · refine ih (fun x isLast => plain x ?_) _ d later
      rw [List.getLast?_cons, Option.mem_def.mp isLast]
      rfl
    · obtain rfl : rest = [] :=
        (lowercaseAfter_eq_nil_iff _ rest).mp (List.getLast?_eq_none_iff.mp empty)
      rw [(kept d (List.mem_of_getLast? ends)).2]
      exact plain c rfl

/-- In small letters a trimmed text is trimmed. -/
theorem IsTrimmed.lowercase {text : String} (h : IsTrimmed text) : IsTrimmed (lowercase text) where
  first := by
    rw [toList_lowercase]
    exact isBlank_head?_lowercaseAfter h.first []
  last := by
    rw [toList_lowercase]
    exact isBlank_getLast?_lowercaseAfter h.last []

/-! ## The case of ASCII letters -/

/-- The small letters of ASCII leave the capital sigma alone. -/
theorem toLower_eq_sigma_iff (c : Char) : c.toLower = 'Σ' ↔ c = 'Σ' := by
  constructor
  · exact fun same => eq_of_toLower_eq (by decide) same
  · rintro rfl
    rfl

/-- The small letter of an ASCII capital becomes the same as the capital. -/
theorem lowercaseChar_toLower (c : Char) : lowercaseChar c.toLower = lowercaseChar c := by
  by_cases ascii : c.toNat < 128
  · rw [lowercaseChar_of_lt ascii, lowercaseChar_of_lt (toLower_lt ascii), toLower_toLower]
  · rw [toLower_of_le (Nat.le_of_not_lt ascii)]

/-- A code before the beginnings of all ranges is in none of them. -/
theorem inRanges_eq_false_of_lt {ranges : List (Nat × Nat)} {code bound : Nat}
    (beyond : ∀ range ∈ ranges, bound ≤ range.1) (h : code < bound) :
    inRanges ranges code = false := by
  refine List.any_eq_false.mpr fun range listed => ?_
  have starts := beyond range listed
  simp
  omega

/-- The case of ASCII letters does not tell nonspacing marks. -/
theorem isNonspacing_toLower (c : Char) : isNonspacing c.toLower = isNonspacing c := by
  have beyond : ∀ range ∈ nonspacingRanges, 128 ≤ range.1 := by decide +kernel
  by_cases ascii : c.toNat < 128
  · unfold isNonspacing
    rw [inRanges_eq_false_of_lt beyond ascii, inRanges_eq_false_of_lt beyond (toLower_lt ascii)]
  · rw [toLower_of_le (Nat.le_of_not_lt ascii)]

/-- The case of ASCII letters does not tell which characters are passed over. -/
theorem isCaseIgnorable_toLower (c : Char) : isCaseIgnorable c.toLower = isCaseIgnorable c := by
  unfold isCaseIgnorable
  rw [isNonspacing_toLower,
    apply_toLower (fun c => inRanges caseIgnorableRanges c.toNat) (by decide +kernel) c]

/-- The case of ASCII letters does not tell where a letter is met. -/
theorem meetsLetter_map_toLower (cs : List Char) :
    meetsLetter (cs.map Char.toLower) = meetsLetter cs := by
  have cased := apply_toLower isCased (by decide +kernel)
  have ignorable : isCaseIgnorable ∘ Char.toLower = isCaseIgnorable :=
    funext isCaseIgnorable_toLower
  unfold meetsLetter
  rw [List.dropWhile_map, ignorable]
  cases cs.dropWhile isCaseIgnorable with
  | nil => rfl
  | cons c rest => exact cased c

/-- The case of ASCII letters does not matter, be they lower-cased or stand around. -/
theorem lowercaseAfter_map_toLower (before cs : List Char) :
    lowercaseAfter (before.map Char.toLower) (cs.map Char.toLower) = lowercaseAfter before cs := by
  induction cs generalizing before with
  | nil => rfl
  | cons c rest ih =>
    rw [List.map_cons, lowercaseAfter, lowercaseAfter, ← List.map_cons, ih (c :: before),
      meetsLetter_map_toLower, meetsLetter_map_toLower, lowercaseChar_toLower]
    simp only [toLower_eq_sigma_iff]

/-- The case of ASCII letters does not matter to lower-casing. -/
theorem lowercase_asciiFold (text : String) : lowercase (asciiFold text) = lowercase text := by
  rw [← String.toList_inj, toList_lowercase, toList_lowercase, asciiFold, String.toList_ofList]
  exact lowercaseAfter_map_toLower [] text.toList

end DirectorySignIn.Text
