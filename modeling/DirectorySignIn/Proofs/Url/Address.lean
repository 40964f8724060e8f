import DirectorySignIn.Url.Ipv6

/-!
# The grammar of IPv6 addresses

An IPv6 address is written as eight groups of hexadecimal digits with colons between them.  The last
two groups may be written as the four bytes of an IPv4 address, and one row of groups of zeros may
be left out between two colons.  The grammar is a relation between a text and the address that it
stands for, and reading a text finds just that.

Main results:

- `tail?_eq_some_iff`: the end of a text is read as four bytes exactly if it is written so.
- `readPieces_eq_some_iff`: reading a text finds what it adds to the part that was read before.
- `parse_eq_ok_iff`: a text is read as an address exactly if it stands for it.
- `IsAddress.chars`: an address is written with digits, colons and dots, and holds a colon.
-/

namespace DirectorySignIn.Ipv6

/-! ## The grammar -/

/-- A group of at most four hexadecimal digits. -/
structure IsGroup (cs : List Char) (n : Nat) : Prop where
  ne_nil : cs ≠ []
  length_le : cs.length ≤ 4
  value : Text.hexNumber? cs = some n

/-- A byte as a decimal number without leading zeros. -/
structure IsByte (cs : List Char) (n : Nat) : Prop where
  ne_nil : cs ≠ []
  all_isDigit : cs.all Char.isDigit = true
  no_zero : cs.head? = some '0' → cs.length = 1
  value : Nat.ofDigitChars 10 cs 0 = n
  le_max : n ≤ 255

/-- Four bytes with dots between them stand for two numbers. -/
inductive IsBytes : List Char → List Nat → Prop
  | dotted {first second third last : List Char} {a b c d : Nat} (isFirst : IsByte first a)
      (isSecond : IsByte second b) (isThird : IsByte third c) (isLast : IsByte last d) :
      IsBytes (first ++ '.' :: (second ++ '.' :: (third ++ '.' :: last)))
        [256 * a + b, 256 * c + d]

/-- Groups with colons between them.  The last two may be written as four bytes, if that is
allowed. -/
inductive IsRow (bytes : Bool) : List Char → List Nat → Prop
  | group {cs : List Char} {n : Nat} (h : IsGroup cs n) : IsRow bytes cs [n]
  | bytes {cs : List Char} {ns : List Nat} (allowed : bytes = true) (h : IsBytes cs ns) :
      IsRow bytes cs ns
  | cons {group cs : List Char} {n : Nat} {ns : List Nat} (first : IsGroup group n)
      (rest : IsRow bytes cs ns) : IsRow bytes (group ++ ':' :: cs) (n :: ns)

/-- A row of groups or nothing. -/
inductive IsSide (bytes : Bool) : List Char → List Nat → Prop
  | empty : IsSide bytes [] []
  | row {cs : List Char} {ns : List Nat} (h : IsRow bytes cs ns) : IsSide bytes cs ns

/-- A text stands for an address: it is a row of eight groups, or there are two colons in it for one
or more groups of zeros. -/
inductive IsAddress : List Char → Ipv6 → Prop
  | full {cs : List Char} {ns : List Nat} (row : IsRow true cs ns) (length_eq : ns.length = 8) :
      IsAddress cs ⟨ns⟩
  | gapped {left right : List Char} {ns ms : List Nat} (before : IsSide false left ns)
      (after : IsSide true right ms) (length_le : ns.length + ms.length ≤ 7) :
      IsAddress (left ++ ':' :: ':' :: right)
        ⟨ns ++ List.replicate (8 - (ns.length + ms.length)) 0 ++ ms⟩

/-! ## Groups -/

/-- Whether a character is a hexadecimal digit. -/
def isHex (c : Char) : Bool :=
  (Text.hexValue? c).isSome

/-- A number is read from characters exactly if all are hexadecimal digits. -/
theorem hexNumberFrom?_isSome_iff (value : Nat) (cs : List Char) :
    (Text.hexNumberFrom? value cs).isSome ↔ cs.all isHex = true := by
  induction cs generalizing value with
  | nil => simp [Text.hexNumberFrom?]
  | cons c rest ih =>
    cases h : Text.hexValue? c with
    | none => simp [Text.hexNumberFrom?, isHex, h]
    | some d => simp [Text.hexNumberFrom?, isHex, h, ih]

/-- A group has hexadecimal digits only. -/
theorem IsGroup.all_isHex {cs : List Char} {n : Nat} (h : IsGroup cs n) : cs.all isHex = true := by
  rw [← hexNumberFrom?_isSome_iff 0]
  exact Option.isSome_of_eq_some h.value

/-- The digits that a group is read from. -/
def leadingDigits (cs : List Char) : List Char :=
  (cs.take 4).takeWhile isHex

/-- The leading digits and what comes behind them are the whole. -/
theorem leadingDigits_append_drop (cs : List Char) :
    leadingDigits cs ++ cs.drop (leadingDigits cs).length = cs :=
  List.prefix_iff_eq_append.mp ((List.takeWhile_prefix _).trans (List.take_prefix 4 cs))

/-- No more than four leading digits are read. -/
theorem length_leadingDigits_le (cs : List Char) : (leadingDigits cs).length ≤ 4 := by
  have h := (List.takeWhile_prefix isHex (l := cs.take 4)).length_le
  have := List.length_take_le 4 cs
  unfold leadingDigits
  omega

/-- A row of digits that is not too long is read up to what is no digit. -/
theorem leadingDigits_append {digits rest : List Char} (hex : digits.all isHex = true)
    (length_le : digits.length ≤ 4) (ends : ∀ c ∈ rest.head?, isHex c = false) :
    leadingDigits (digits ++ rest) = digits := by
  have none_left : (rest.take (4 - digits.length)).takeWhile isHex = [] := by
    cases rest with
    | nil => simp
    | cons c rest =>
      have h := ends c rfl
      cases 4 - digits.length with
      | zero => rfl
      | succ k => simp [h]
  unfold leadingDigits
  rw [List.take_append, List.take_of_length_le length_le,
    List.takeWhile_append_of_pos (List.all_eq_true.mp hex), none_left, List.append_nil]

/-- The digits that are read make a group. -/
theorem exists_isGroup_leadingDigits {cs : List Char} (h : leadingDigits cs ≠ []) :
    ∃ n, IsGroup (leadingDigits cs) n := by
  have hex : (leadingDigits cs).all isHex = true := List.all_takeWhile
  obtain ⟨n, value⟩ := Option.isSome_iff_exists.mp ((hexNumberFrom?_isSome_iff 0 _).mpr hex)
  exact ⟨n, h, length_leadingDigits_le cs, value⟩

/-- A decimal digit is a hexadecimal one. -/
theorem isHex_of_isDigit {c : Char} (h : c.isDigit = true) : isHex c = true := by
  have bounds : '0' ≤ c ∧ c ≤ '9' := by
    simpa [Char.isDigit, Char.le_def] using h
  simp [isHex, Text.hexValue?, bounds]

/-- A group is read as a whole if no digit follows. -/
theorem IsGroup.leadingDigits_append {group rest : List Char} {n : Nat} (h : IsGroup group n)
    (ends : ∀ c ∈ rest.head?, isHex c = false) : leadingDigits (group ++ rest) = group :=
  Ipv6.leadingDigits_append h.all_isHex h.length_le ends

/-- What is read as the digits of a group is the group. -/
theorem IsGroup.leadingDigits_eq {group : List Char} {n : Nat} (h : IsGroup group n) :
    leadingDigits group = group := by
  have h := @IsGroup.leadingDigits_append group [] n h (by simp)
  rwa [List.append_nil] at h

/-- A group starts with no colon. -/
theorem IsGroup.head?_append_ne {group : List Char} {n : Nat} (h : IsGroup group n)
    (rest : List Char) : (group ++ rest).head? ≠ some ':' := by
  have hex := h.all_isHex
  cases group with
  | nil => exact absurd rfl h.ne_nil
  | cons c group =>
    rintro ⟨⟩
    revert hex
    simp [isHex, Text.hexValue?]

/-! ## Four bytes -/

/-- A number without a leading zero is as great as its length says. -/
theorem pow_le_ofDigitChars {c : Char} {cs : List Char} (digit : c.isDigit = true) (h : c ≠ '0') :
    Nat.pow 10 cs.length ≤ Nat.ofDigitChars 10 (c :: cs) 0 := by
  have one_le : 1 ≤ c.toNat - '0'.toNat := by
    have := (Char.isDigit_iff_toNat.mp digit).1
    have : c.toNat ≠ '0'.toNat := fun e => h (Char.toNat_inj.mp e)
    omega
  rw [Nat.ofDigitChars_cons, Nat.ofDigitChars_eq_ofDigitChars_zero]
  calc Nat.pow 10 cs.length = Nat.pow 10 cs.length * 1 := (Nat.mul_one _).symm
    _ ≤ Nat.pow 10 cs.length * (10 * 0 + (c.toNat - '0'.toNat)) := Nat.mul_le_mul_left _ (by omega)
    _ ≤ _ := Nat.le_add_right _ _

/-- What is read as a byte are the bytes in decimal digits without leading zeros. -/
theorem byte?_eq_some_iff {cs : List Char} {n : Nat} : byte? cs = some n ↔ IsByte cs n := by
  unfold byte?
  constructor
  · intro h
    split at h
    · cases h
    · rename_i form
      simp only [not_or, Bool.not_eq_true', Bool.not_eq_false, not_and, Decidable.not_not] at form
      obtain ⟨ne_nil, digits, no_zero⟩ := form
      simp only [Option.ite_none_right_eq_some, Option.some.injEq] at h
      obtain ⟨le_max, rfl⟩ := h
      exact ⟨ne_nil, digits, no_zero, rfl, le_max⟩
  · intro h
    have form : ¬(cs = [] ∨ (!cs.all Char.isDigit) = true ∨
        (cs.head? = some '0' ∧ cs.length ≠ 1)) := by
      rintro (empty | digits | ⟨zero, long⟩)
      · exact h.ne_nil empty
      · rw [h.all_isDigit] at digits
        cases digits
      · exact long (h.no_zero zero)
    rw [if_neg form]
    simp [h.value, h.le_max]

/-- A byte has three digits at most. -/
theorem IsByte.length_le {cs : List Char} {n : Nat} (h : IsByte cs n) : cs.length ≤ 3 := by
  refine Nat.le_of_not_lt fun long => ?_
  cases cs with
  | nil => exact h.ne_nil rfl
  | cons c cs =>
    have digits := h.all_isDigit
    have no_zero := h.no_zero
    rw [List.length_cons] at long no_zero
    rw [List.all_cons, Bool.and_eq_true] at digits
    have nonzero : c ≠ '0' := by
      rintro rfl
      have := no_zero rfl
      omega
    have low : Nat.pow 10 cs.length ≤ Nat.ofDigitChars 10 (c :: cs) 0 :=
      pow_le_ofDigitChars digits.1 nonzero
    have high : Nat.pow 10 3 ≤ Nat.pow 10 cs.length :=
      Nat.pow_le_pow_right (by decide) (by omega)
    have large : 1000 ≤ Nat.ofDigitChars 10 (c :: cs) 0 := Nat.le_trans high low
    rw [h.value] at large
    exact absurd h.le_max (by omega)

/-- A byte in decimal digits has hexadecimal digits only. -/
theorem IsByte.all_isHex {cs : List Char} {n : Nat} (h : IsByte cs n) : cs.all isHex = true :=
  List.all_eq_true.mpr fun c hc => isHex_of_isDigit (List.all_eq_true.mp h.all_isDigit c hc)

/-- There is no dot in a byte. -/
theorem IsByte.dot_notMem {cs : List Char} {n : Nat} (h : IsByte cs n) : '.' ∉ cs := fun mem =>
  absurd (List.all_eq_true.mp h.all_isDigit _ mem) (by decide)

/-- The end of a text is read as four bytes exactly if it is written so. -/
theorem tail?_eq_some_iff {cs : List Char} {ns : List Nat} :
    tail? cs = some ns ↔ IsBytes cs ns := by
  constructor
  · intro h
    unfold tail? at h
    split at h
    · rename_i a b c d bytes
      cases h
      have whole := Text.intercalate_splitAt '.' cs
      generalize Text.splitAt '.' cs = parts at bytes whole
      simp only [Text.mapM_eq_some_cons_iff, Text.mapM_eq_some_nil_iff] at bytes
      obtain ⟨first, _, rfl, isFirst, second, _, rfl, isSecond, third, _, rfl, isThird, last, _,
        rfl, isLast, rfl⟩ := bytes
      obtain rfl : first ++ '.' :: (second ++ '.' :: (third ++ '.' :: last)) = cs := by
        simpa [List.intercalate] using whole
      exact .dotted (byte?_eq_some_iff.mp isFirst) (byte?_eq_some_iff.mp isSecond)
        (byte?_eq_some_iff.mp isThird) (byte?_eq_some_iff.mp isLast)
    · cases h
  · rintro ⟨isFirst, isSecond, isThird, isLast⟩
    simp [tail?, Text.splitAt_append_cons isFirst.dot_notMem,
      Text.splitAt_append_cons isSecond.dot_notMem, Text.splitAt_append_cons isThird.dot_notMem,
      Text.splitAt_of_notMem isLast.dot_notMem, byte?_eq_some_iff.mpr isFirst,
      byte?_eq_some_iff.mpr isSecond, byte?_eq_some_iff.mpr isThird, byte?_eq_some_iff.mpr isLast]

/-- Four bytes stand for two pieces. -/
theorem IsBytes.length_eq {cs : List Char} {ns : List Nat} (h : IsBytes cs ns) :
    ns.length = 2 := by
  cases h
  rfl

/-- What is read as the digits of a group in front of a dot is the first byte. -/
theorem IsBytes.leadingDigits_ne_nil {cs : List Char} {ns : List Nat} (h : IsBytes cs ns) :
    leadingDigits cs ≠ [] ∧ ∃ rest, cs.drop (leadingDigits cs).length = '.' :: rest := by
  obtain ⟨isFirst, -, -, -⟩ := h
  have length_le := isFirst.length_le
  rw [leadingDigits_append isFirst.all_isHex (by omega) (by simp [isHex, Text.hexValue?])]
  exact ⟨isFirst.ne_nil, _, List.drop_left⟩

/-! ## Reading one part -/

section

variable {before read : Partial} {steps : Nat}

/-- A second colon is read as the gap. -/
theorem readPieces_colon {rest : List Char} (room : before.pieces.length ≠ 8)
    (no_gap : before.gap = none) :
    readPieces before (steps + 1) (':' :: rest) =
      readPieces ⟨before.pieces ++ [0], some (before.pieces.length + 1)⟩ steps rest := by
  simp [readPieces, room, no_gap]

/-- What follows the digits of a group decides how they are read. -/
theorem readPieces_digits {cs : List Char} {n : Nat} (group : IsGroup (leadingDigits cs) n)
    (room : before.pieces.length ≠ 8) :
    readPieces before (steps + 1) cs =
      match cs.drop (leadingDigits cs).length with
      | [] => some ⟨before.pieces ++ [n], before.gap⟩
      | ':' :: c :: rest => readPieces ⟨before.pieces ++ [n], before.gap⟩ steps (c :: rest)
      | '.' :: _ =>
        if before.pieces.length ≤ 6 then
          (tail? cs).map fun ns => ⟨before.pieces ++ ns, before.gap⟩
        else none
      | _ => none := by
  have whole := leadingDigits_append_drop cs
  have no_colon : cs.head? ≠ some ':' := whole ▸ group.head?_append_ne _
  have ne_nil : cs ≠ [] := by
    rintro rfl
    exact group.ne_nil rfl
  obtain ⟨c, digits, hd⟩ := List.exists_cons_of_ne_nil group.ne_nil
  have value := group.value
  rw [readPieces, if_neg room, if_neg no_colon]
  · rw [hd] at value ⊢
    unfold leadingDigits isHex at hd
    simp only [hd, value]
    generalize cs.drop (c :: digits).length = rest
    split <;> simp_all
  · exact ne_nil

/-- A last group is read as a piece. -/
theorem readPieces_group {group : List Char} {n : Nat} (h : IsGroup group n)
    (room : before.pieces.length ≠ 8) :
    readPieces before (steps + 1) group = some ⟨before.pieces ++ [n], before.gap⟩ := by
  rw [readPieces_digits (n := n) (by rwa [h.leadingDigits_eq]) room, h.leadingDigits_eq]
  simp

/-- A group with a colon behind it is read as a piece, and the reading goes on. -/
theorem readPieces_group_colon {group rest : List Char} {n : Nat} (h : IsGroup group n)
    (ne_nil : rest ≠ []) (room : before.pieces.length ≠ 8) :
    readPieces before (steps + 1) (group ++ ':' :: rest) =
      readPieces ⟨before.pieces ++ [n], before.gap⟩ steps rest := by
  obtain ⟨c, rest, rfl⟩ := List.exists_cons_of_ne_nil ne_nil
  have leading : leadingDigits (group ++ ':' :: c :: rest) = group :=
    h.leadingDigits_append (by simp [isHex, Text.hexValue?])
  rw [readPieces_digits (n := n) (by rwa [leading]) room, leading, List.drop_left]
  rfl

/-- Four bytes at the end are read as two pieces. -/
theorem readPieces_bytes {cs : List Char} {ns : List Nat} (h : IsBytes cs ns)
    (room : before.pieces.length + 2 ≤ 8) :
    readPieces before (steps + 1) cs = some ⟨before.pieces ++ ns, before.gap⟩ := by
  obtain ⟨digits_ne_nil, rest, dot⟩ := h.leadingDigits_ne_nil
  obtain ⟨n, group⟩ := exists_isGroup_leadingDigits digits_ne_nil
  rw [readPieces_digits group (by omega), dot]
  simp [tail?_eq_some_iff.mpr h, show before.pieces.length ≤ 6 by omega]

/-- The ways to read a part of an address. -/
theorem readPieces_cases {cs : List Char} (ne_nil : cs ≠ [])
    (h : readPieces before (steps + 1) cs = some read) :
    before.pieces.length ≠ 8 ∧
      ((∃ rest, cs = ':' :: rest ∧ before.gap = none ∧
          readPieces ⟨before.pieces ++ [0], some (before.pieces.length + 1)⟩ steps rest =
            some read) ∨
        (∃ n, IsGroup cs n ∧ read = ⟨before.pieces ++ [n], before.gap⟩) ∨
        (∃ group n rest, cs = group ++ ':' :: rest ∧ rest ≠ [] ∧ IsGroup group n ∧
          readPieces ⟨before.pieces ++ [n], before.gap⟩ steps rest = some read) ∨
        (before.pieces.length + 2 ≤ 8 ∧ ∃ ns, IsBytes cs ns ∧
          read = ⟨before.pieces ++ ns, before.gap⟩)) := by
  have room : before.pieces.length ≠ 8 := by
    intro full
    rw [readPieces, if_pos full] at h
    · cases h
    · exact ne_nil
  refine ⟨room, ?_⟩
  by_cases colon : cs.head? = some ':'
  · obtain ⟨rest, rfl⟩ : ∃ rest, cs = ':' :: rest := by
      obtain ⟨c, rest, rfl⟩ := List.exists_cons_of_ne_nil ne_nil
      exact ⟨rest, by simpa using colon⟩
    have no_gap : before.gap = none := by
      cases gap : before.gap with
      | none => rfl
      | some k => simp [readPieces, gap] at h
    rw [readPieces_colon room no_gap] at h
    exact .inl ⟨rest, rfl, no_gap, h⟩
  · have digits_ne_nil : leadingDigits cs ≠ [] := by
      intro no_digits
      unfold leadingDigits isHex at no_digits
      rw [readPieces, if_neg room, if_neg colon] at h
      · simp [no_digits] at h
      · exact ne_nil
    obtain ⟨n, group⟩ := exists_isGroup_leadingDigits digits_ne_nil
    have whole := leadingDigits_append_drop cs
    rw [readPieces_digits group room] at h
    refine .inr ?_
    split at h
    · rename_i ends
      rw [ends, List.append_nil] at whole
      exact .inl ⟨n, whole ▸ group, by simpa using h.symm⟩
    · rename_i c rest ends
      rw [ends] at whole
      exact .inr (.inl ⟨leadingDigits cs, n, c :: rest, whole.symm, by simp, group, h⟩)
    · split at h
      · obtain ⟨ns, bytes, rfl⟩ := Option.map_eq_some_iff.mp h
        exact .inr (.inr ⟨by omega, ns, tail?_eq_some_iff.mp bytes, rfl⟩)
      · cases h
    · cases h

end

/-! ## Reading an address -/

/-- Groups with a colon behind each of them. -/
inductive IsClosed : List Char → List Nat → Prop
  | nil : IsClosed [] []
  | cons {group cs : List Char} {n : Nat} {ns : List Nat} (first : IsGroup group n)
      (rest : IsClosed cs ns) : IsClosed (group ++ ':' :: cs) (n :: ns)

/-- Groups with a colon behind each of them are a row with a colon behind it, or nothing. -/
theorem isClosed_iff {cs : List Char} {ns : List Nat} :
    IsClosed cs ns ↔ (cs = [] ∧ ns = []) ∨ ∃ row, IsRow false row ns ∧ cs = row ++ [':'] := by
  constructor
  · intro h
    induction h with
    | nil => exact .inl ⟨rfl, rfl⟩
    | @cons group cs n ns first rest ih =>
      rcases ih with ⟨rfl, rfl⟩ | ⟨row, isRow, rfl⟩
      · exact .inr ⟨group, .group first, rfl⟩
      · exact .inr ⟨group ++ ':' :: row, .cons first isRow, by simp⟩
  · rintro (⟨rfl, rfl⟩ | ⟨row, isRow, rfl⟩)
    · exact .nil
    · induction isRow with
      | group h => exact .cons h .nil
      | bytes allowed h => cases allowed
      | cons first rest ih => simpa using IsClosed.cons first ih

/-- What a text adds to the part of an address that was read before. -/
inductive Continues (before : Partial) : List Char → Partial → Prop
  | side {cs : List Char} {ns : List Nat} (side : IsSide true cs ns)
      (room : (before.pieces ++ ns).length ≤ 8) :
      Continues before cs ⟨before.pieces ++ ns, before.gap⟩
  | gap {left right : List Char} {ns ms : List Nat} (no_gap : before.gap = none)
      (before_gap : IsClosed left ns) (after_gap : IsSide true right ms)
      (room : (before.pieces ++ ns ++ [0] ++ ms).length ≤ 8) :
      Continues before (left ++ ':' :: right)
        ⟨before.pieces ++ ns ++ [0] ++ ms, some ((before.pieces ++ ns).length + 1)⟩

/-- A row of groups starts with a hexadecimal digit. -/
theorem IsRow.starts {bytes : Bool} {cs : List Char} {ns : List Nat} (h : IsRow bytes cs ns) :
    ∃ c rest, cs = c :: rest ∧ isHex c = true := by
  have of_digits {digits : List Char} (ne_nil : digits ≠ []) (hex : digits.all isHex = true)
      (rest : List Char) : ∃ c rest', digits ++ rest = c :: rest' ∧ isHex c = true := by
    obtain ⟨c, digits, rfl⟩ := List.exists_cons_of_ne_nil ne_nil
    exact ⟨c, digits ++ rest, rfl, by simpa using (List.all_eq_true.mp hex) c (by simp)⟩
  cases h with
  | group h => simpa using of_digits h.ne_nil h.all_isHex []
  | bytes allowed h =>
    obtain ⟨isFirst, -, -, -⟩ := h
    exact of_digits isFirst.ne_nil isFirst.all_isHex _
  | cons first rest => exact of_digits first.ne_nil first.all_isHex _

/-- A row of groups is not empty. -/
theorem IsRow.ne_nil {bytes : Bool} {cs : List Char} {ns : List Nat} (h : IsRow bytes cs ns) :
    cs ≠ [] := by
  obtain ⟨c, rest, rfl, -⟩ := h.starts
  exact List.cons_ne_nil c rest

/-- A group and a colon before one side of a gap belong to the side. -/
theorem IsSide.cons {group cs : List Char} {n : Nat} {ns : List Nat} (ne_nil : cs ≠ [])
    (first : IsGroup group n) (h : IsSide true cs ns) :
    IsSide true (group ++ ':' :: cs) (n :: ns) := by
  cases h with
  | empty => exact absurd rfl ne_nil
  | row h => exact .row (.cons first h)

/-- A reading goes on behind a group and a colon. -/
theorem Continues.group_colon {before read : Partial} {group cs : List Char} {n : Nat}
    (isGroup : IsGroup group n) (ne_nil : cs ≠ [])
    (h : Continues ⟨before.pieces ++ [n], before.gap⟩ cs read) :
    Continues before (group ++ ':' :: cs) read := by
  cases h with
  | @side _ ns side room =>
    simpa using Continues.side (side.cons ne_nil isGroup) (by simpa using room)
  | @gap left right ns ms no_gap before_gap after_gap room =>
    have no_gap : before.gap = none := no_gap
    have step : IsClosed (group ++ ':' :: left) (n :: ns) := .cons isGroup before_gap
    simpa using Continues.gap no_gap step after_gap (by simpa using room)

/-- A reading goes on behind the second colon of a gap. -/
theorem Continues.colon {before read : Partial} {cs : List Char} (no_gap : before.gap = none)
    (h : Continues ⟨before.pieces ++ [0], some (before.pieces.length + 1)⟩ cs read) :
    Continues before (':' :: cs) read := by
  cases h with
  | @side _ ms side room =>
    simpa using Continues.gap no_gap .nil side (by simpa using room)
  | gap again => cases again

/-- What is read of a text is what it adds. -/
theorem Continues.of_readPieces {before read : Partial} {steps : Nat} {cs : List Char}
    (room : before.pieces.length ≤ 8) (h : readPieces before steps cs = some read) :
    Continues before cs read := by
  induction steps generalizing before cs with
  | zero => cases h
  | succ steps ih =>
    cases cs with
    | nil =>
      cases h
      have nothing : Continues read [] ⟨read.pieces ++ [], read.gap⟩ :=
        .side .empty (by simpa using room)
      simpa using nothing
    | cons c cs =>
      obtain ⟨not_full, parts⟩ := readPieces_cases (List.cons_ne_nil c cs) h
      have room' : before.pieces.length + 1 ≤ 8 := by omega
      rcases parts with ⟨rest, whole, no_gap, h⟩ | ⟨n, group, rfl⟩ |
        ⟨group, n, rest, whole, ne_nil, isGroup, h⟩ | ⟨room, ns, bytes, rfl⟩
      · rw [whole]
        exact .colon no_gap (ih (by simpa using room') h)
      · exact .side (.row (.group group)) (by simpa using room')
      · rw [whole]
        exact .group_colon isGroup ne_nil (ih (by simpa using room') h)
      · have := bytes.length_eq
        exact .side (.row (.bytes rfl bytes)) (by rw [List.length_append]; omega)

/-- A row of groups is read to its end if there is room for its pieces. -/
theorem readPieces_row {before : Partial} {steps : Nat} {cs : List Char} {ns : List Nat}
    (row : IsRow true cs ns) (room : (before.pieces ++ ns).length ≤ 8)
    (enough : cs.length < steps) :
    readPieces before steps cs = some ⟨before.pieces ++ ns, before.gap⟩ := by
  induction row generalizing before steps with
  | group h =>
    obtain ⟨steps, rfl⟩ := Nat.exists_eq_add_of_lt enough
    exact readPieces_group h (by simp at room; omega)
  | bytes _ h =>
    obtain ⟨steps, rfl⟩ := Nat.exists_eq_add_of_lt enough
    have := h.length_eq
    exact readPieces_bytes h (by simp at room; omega)
  | @cons group cs n ns first rest ih =>
    obtain ⟨steps, rfl⟩ := Nat.exists_eq_add_of_lt enough
    rw [readPieces_group_colon first rest.ne_nil (by simp at room; omega),
      ih (by simpa using room) (by simp; omega)]
    simp

/-- The two sides of a gap are read to the end if there is room for their pieces. -/
theorem readPieces_gap {before : Partial} {steps : Nat} {left right : List Char} {ns ms : List Nat}
    (no_gap : before.gap = none) (before_gap : IsClosed left ns) (after_gap : IsSide true right ms)
    (room : (before.pieces ++ ns ++ [0] ++ ms).length ≤ 8)
    (enough : (left ++ ':' :: right).length < steps) :
    readPieces before steps (left ++ ':' :: right) =
      some ⟨before.pieces ++ ns ++ [0] ++ ms, some ((before.pieces ++ ns).length + 1)⟩ := by
  induction before_gap generalizing before steps with
  | nil =>
    obtain ⟨steps, rfl⟩ := Nat.exists_eq_add_of_lt enough
    rw [List.nil_append, readPieces_colon (by simp at room; omega) no_gap]
    cases after_gap with
    | empty => simp [readPieces]
    | row row =>
      rw [readPieces_row row (by simpa using room) (by simp; omega)]
      simp
  | @cons group cs n ns first rest ih =>
    obtain ⟨steps, rfl⟩ := Nat.exists_eq_add_of_lt enough
    have ne_nil : cs ++ ':' :: right ≠ [] := by simp
    have next : (⟨before.pieces ++ [n], before.gap⟩ : Partial).gap = none := no_gap
    rw [List.append_assoc, List.cons_append,
      readPieces_group_colon first ne_nil (by simp at room; omega),
      ih next (by simpa using room) (by simp; omega)]
    simp

/-- Reading a text finds what it adds, and nothing else. -/
theorem readPieces_eq_some_iff {before read : Partial} {steps : Nat} {cs : List Char}
    (room : before.pieces.length ≤ 8) (enough : cs.length < steps) :
    readPieces before steps cs = some read ↔ Continues before cs read := by
  constructor
  · exact Continues.of_readPieces room
  · intro h
    cases h with
    | side side room =>
      cases side with
      | empty =>
        obtain ⟨steps, rfl⟩ := Nat.exists_eq_add_of_lt enough
        simp [readPieces]
      | row row => exact readPieces_row row room enough
    | gap no_gap before_gap after_gap room =>
      exact readPieces_gap no_gap before_gap after_gap room enough

/-- Zeros are put in for the groups that were left out. -/
theorem fill?_gap {ns ms : List Nat} (room : (ns ++ [0] ++ ms).length ≤ 8) :
    Partial.fill? ⟨ns ++ [0] ++ ms, some (ns.length + 1)⟩ =
      some ⟨ns ++ List.replicate (8 - (ns.length + ms.length)) 0 ++ ms⟩ := by
  have zeros : 8 - (ns.length + ms.length) = 8 - (ns ++ [0] ++ ms).length + 1 := by
    simp at room ⊢
    omega
  have kept : (ns ++ [0]).length = ns.length + 1 := by simp
  simp only [Partial.fill?]
  rw [zeros, ← kept, List.take_left, List.drop_left, List.replicate_succ]
  simp

/-- A row of groups does not start with a colon. -/
theorem IsRow.head?_append_ne {bytes : Bool} {cs : List Char} {ns : List Nat}
    (h : IsRow bytes cs ns) (rest : List Char) : (cs ++ rest).head? ≠ some ':' := by
  obtain ⟨c, tail, rfl, hex⟩ := h.starts
  rintro ⟨⟩
  revert hex
  simp [isHex, Text.hexValue?]

/-- A text that starts with a colon stands for an address if it starts with two of them and a side
follows. -/
theorem isAddress_colon_iff {cs : List Char} {address : Ipv6} :
    IsAddress (':' :: cs) address ↔
      ∃ right ns, cs = ':' :: right ∧ IsSide true right ns ∧ ns.length ≤ 7 ∧
        address = ⟨List.replicate (8 - ns.length) 0 ++ ns⟩ := by
  constructor
  · intro h
    generalize hw : ':' :: cs = whole at h
    cases h with
    | full row =>
      subst hw
      exact absurd rfl (row.head?_append_ne [])
    | @gapped left right ns ms before after length_le =>
      cases before with
      | empty =>
        obtain ⟨-, rfl⟩ := List.cons.inj hw
        exact ⟨right, ms, rfl, after, by simpa using length_le, by simp⟩
      | row row => exact absurd (hw ▸ rfl) (row.head?_append_ne (':' :: ':' :: right))
  · rintro ⟨right, ns, rfl, side, length_le, rfl⟩
    simpa using IsAddress.gapped .empty side (by simpa using length_le)

/-- A text that starts with no colon stands for an address if it is read to one. -/
theorem isAddress_iff {cs : List Char} {address : Ipv6} (h : cs.head? ≠ some ':') :
    IsAddress cs address ↔
      ∃ read, Continues ⟨[], none⟩ cs read ∧ read.fill? = some address := by
  constructor
  · intro whole
    cases whole with
    | full row length_eq =>
      have side : Continues ⟨[], none⟩ cs ⟨[] ++ _, none⟩ := .side (.row row) (by simp [length_eq])
      exact ⟨_, side, by simp [Partial.fill?, length_eq]⟩
    | @gapped left right ns ms before after length_le =>
      have closed : IsClosed (left ++ [':']) ns := by
        cases before with
        | empty => exact absurd rfl h
        | row row => exact isClosed_iff.mpr (.inr ⟨left, row, rfl⟩)
      have room : (ns ++ [0] ++ ms).length ≤ 8 := by simp; omega
      have gap : Continues ⟨[], none⟩ (left ++ [':'] ++ ':' :: right)
          ⟨ns ++ [0] ++ ms, some (ns.length + 1)⟩ := .gap rfl closed after room
      exact ⟨_, by simpa using gap, fill?_gap room⟩
  · rintro ⟨read, continues, filled⟩
    cases continues with
    | @side _ ns side room =>
      obtain ⟨length_eq, rfl⟩ : ns.length = 8 ∧ ⟨ns⟩ = address := by
        simpa [Partial.fill?] using filled
      cases side with
      | empty => cases length_eq
      | row row => exact .full row length_eq
    | @gap left right ns ms _ before after room =>
      have room : (ns ++ [0] ++ ms).length ≤ 8 := room
      obtain rfl : _ = address := by simpa using (fill?_gap room).symm.trans filled
      rcases isClosed_iff.mp before with ⟨rfl, rfl⟩ | ⟨row, isRow, rfl⟩
      · exact absurd rfl h
      · have length_le : ns.length + ms.length ≤ 7 := by simp at room; omega
        simpa using IsAddress.gapped (.row isRow) after length_le

/-- After two colons at the start a side follows, and zeros are put in front of it. -/
theorem continues_colons_iff {cs : List Char} {address : Ipv6} :
    (∃ read, Continues ⟨[0], some 1⟩ cs read ∧ read.fill? = some address) ↔
      ∃ ns, IsSide true cs ns ∧ ns.length ≤ 7 ∧
        address = ⟨List.replicate (8 - ns.length) 0 ++ ns⟩ := by
  have length_eq (ns : List Nat) : ([] ++ [0] ++ ns).length = ns.length + 1 := by
    rw [List.length_append, List.nil_append, List.length_singleton, Nat.add_comm]
  constructor
  · rintro ⟨read, continues, filled⟩
    cases continues with
    | @side _ ns side room =>
      have room : ([] ++ [0] ++ ns).length ≤ 8 := room
      refine ⟨ns, side, ?_, by simpa using filled.symm.trans (fill?_gap room)⟩
      rw [length_eq] at room
      exact Nat.le_of_succ_le_succ room
    | gap again => cases again
  · rintro ⟨ns, side, length_le, rfl⟩
    have room : ([] ++ [0] ++ ns).length ≤ 8 := by
      rw [length_eq]
      exact Nat.succ_le_succ length_le
    exact ⟨_, .side side room, by simpa using fill?_gap room⟩

/-- What is read of a text before the zeros are put in. -/
def readPartial (cs : List Char) : Option Partial :=
  match cs with
  | ':' :: ':' :: rest => readPieces ⟨[0], some 1⟩ (rest.length + 1) rest
  | ':' :: _ => none
  | cs => readPieces ⟨[], none⟩ (cs.length + 1) cs

/-- An address is read from pieces that are filled up to eight. -/
theorem parse_eq_ok_iff_readPartial {cs : List Char} {address : Ipv6} :
    parse cs = .ok address ↔ ∃ read, readPartial cs = some read ∧ read.fill? = some address := by
  rw [← Option.bind_eq_some_iff]
  unfold parse
  dsimp only
  split
  · rename_i found h
    have h : (readPartial cs).bind Partial.fill? = some found := h
    simp [h]
  · rename_i h
    have h : (readPartial cs).bind Partial.fill? = none := h
    simp [h]

/-- A text is read as an address exactly if it stands for it. -/
theorem parse_eq_ok_iff {cs : List Char} {address : Ipv6} :
    parse cs = .ok address ↔ IsAddress cs address := by
  rw [parse_eq_ok_iff_readPartial]
  unfold readPartial
  split
  · rename_i rest
    simp only [readPieces_eq_some_iff (show (⟨[0], some 1⟩ : Partial).pieces.length ≤ 8 by decide)
      (Nat.lt_succ_self rest.length)]
    rw [isAddress_colon_iff, continues_colons_iff]
    constructor
    · rintro ⟨ns, parts⟩
      exact ⟨rest, ns, rfl, parts⟩
    · rintro ⟨right, ns, h, parts⟩
      obtain ⟨-, rfl⟩ := List.cons.inj h
      exact ⟨ns, parts⟩
  · rename_i rest single
    simp only [reduceCtorEq, false_and, exists_false, false_iff]
    rw [isAddress_colon_iff]
    rintro ⟨right, ns, rfl, -⟩
    exact single right rfl
  · rename_i no_colon
    have starts : cs.head? ≠ some ':' := by
      cases cs with
      | nil => simp
      | cons c rest =>
        rintro ⟨⟩
        exact no_colon rest rfl
    simp only [isAddress_iff starts,
      readPieces_eq_some_iff (show (⟨[], none⟩ : Partial).pieces.length ≤ 8 by decide)
        (Nat.lt_succ_self cs.length)]

/-! ## The characters of an address -/

/-- Whether a character may stand in an address. -/
def isAddressChar (c : Char) : Bool :=
  isHex c || c == ':' || c == '.'

/-- A character of addresses differs from all that are none. -/
theorem ne_of_isAddressChar {c d : Char} (hc : isAddressChar c = true)
    (hd : isAddressChar d = false) : c ≠ d := by
  rintro rfl
  exact Bool.noConfusion (hc.symm.trans hd)

/-- Hexadecimal digits are characters of addresses. -/
theorem all_isAddressChar_of_isHex {cs : List Char} (h : cs.all isHex = true) :
    cs.all isAddressChar = true :=
  List.all_eq_true.mpr fun c hc => by simp [isAddressChar, List.all_eq_true.mp h c hc]

/-- Four bytes have only characters of addresses. -/
theorem IsBytes.all_isAddressChar {cs : List Char} {ns : List Nat} (h : IsBytes cs ns) :
    cs.all isAddressChar = true := by
  obtain ⟨isFirst, isSecond, isThird, isLast⟩ := h
  have dot : isAddressChar '.' = true := rfl
  have byte {cs : List Char} {n : Nat} (h : IsByte cs n) : cs.all isAddressChar = true :=
    all_isAddressChar_of_isHex h.all_isHex
  simp only [List.all_append, List.all_cons, byte isFirst, byte isSecond, byte isThird,
    byte isLast, dot, Bool.and_true]

/-- A row of groups has only characters of addresses. -/
theorem IsRow.all_isAddressChar {bytes : Bool} {cs : List Char} {ns : List Nat}
    (h : IsRow bytes cs ns) : cs.all isAddressChar = true := by
  induction h with
  | group h => exact all_isAddressChar_of_isHex h.all_isHex
  | bytes _ h => exact h.all_isAddressChar
  | cons first _ ih =>
    simpa [isAddressChar, all_isAddressChar_of_isHex first.all_isHex] using ih

/-- One side of a gap has only characters of addresses. -/
theorem IsSide.all_isAddressChar {bytes : Bool} {cs : List Char} {ns : List Nat}
    (h : IsSide bytes cs ns) : cs.all isAddressChar = true := by
  cases h with
  | empty => rfl
  | row h => exact h.all_isAddressChar

/-- Without a colon there are two numbers at most. -/
theorem IsRow.colon_mem {cs : List Char} {ns : List Nat} (h : IsRow true cs ns)
    (long : 2 < ns.length) : ':' ∈ cs := by
  cases h with
  | group => simp at long
  | bytes _ h =>
    have := h.length_eq
    omega
  | cons => simp

/-- An address is written with digits, colons and dots, and holds a colon. -/
theorem IsAddress.chars {cs : List Char} {address : Ipv6} (h : IsAddress cs address) :
    ':' ∈ cs ∧ cs.all isAddressChar = true := by
  cases h with
  | full row length_eq => exact ⟨row.colon_mem (by omega), row.all_isAddressChar⟩
  | gapped before after =>
    refine ⟨by simp, ?_⟩
    simp [before.all_isAddressChar, after.all_isAddressChar, show isAddressChar ':' = true by rfl]

end DirectorySignIn.Ipv6
