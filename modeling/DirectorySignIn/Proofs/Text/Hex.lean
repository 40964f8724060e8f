import DirectorySignIn.Text.Hex
import DirectorySignIn.Proofs.Text.LetterCase
import Mathlib.Data.List.Induction

/-!
# Hexadecimal numbers

A row of hexadecimal digits stands for a number, whatever the case of its letters.  Among the rows
of one width there is one in small letters for each number, and that is how the number is written.

Main results:

- `hexValue?_eq_some_iff`: what is read as a digit is the digit of a value in either case.
- `isHex_iff`: reading digits one after another computes the value of the row.
- `isHex_hexDigits`: the digits that a number is written with stand for it.
- `IsHex.map_toLower_eq`: in small letters, digits are those that their number is written with.
-/

namespace DirectorySignIn.Text

/-! ## Digits -/

/-- A character is the hexadecimal digit of a value, in a small letter or in a capital. -/
def IsHexDigit (c : Char) (d : Nat) : Prop :=
  d < 16 ∧ c.toLower = Nat.digitChar d

/-- Hexadecimal digits are ASCII characters. -/
theorem digitChar_lt : ∀ d < 16, (Nat.digitChar d).toNat < 128 := by
  decide

/-- Hexadecimal digits are written in small letters. -/
theorem toLower_digitChar : ∀ d < 16, (Nat.digitChar d).toLower = Nat.digitChar d := by
  decide

/-- No character beyond ASCII is a hexadecimal digit. -/
theorem hexValue?_of_le {c : Char} (h : 128 ≤ c.toNat) : hexValue? c = none := by
  have beyond {last : Char} (ascii : last.toNat < 128) : ¬ c ≤ last := by
    rw [Char.le_def, UInt32.le_iff_toNat_le, Nat.not_le]
    exact Nat.lt_of_lt_of_le ascii h
  simp [hexValue?, beyond]

/-- What is read as a digit is the digit of a value in either case. -/
theorem hexValue?_eq_some_iff {c : Char} {d : Nat} : hexValue? c = some d ↔ IsHexDigit c d := by
  by_cases ascii : c.toNat < 128
  · have small : ∀ value ∈ hexValue? c, value < 16 :=
      of_ascii (P := fun c => ∀ value ∈ hexValue? c, value < 16) (by decide +kernel) ascii
    have table : ∀ value < 16, hexValue? c = some value ↔ c.toLower = Nat.digitChar value :=
      of_ascii (P := fun c => ∀ value < 16,
        hexValue? c = some value ↔ c.toLower = Nat.digitChar value) (by decide +kernel) ascii
    constructor
    · intro read
      exact ⟨small d read, (table d (small d read)).mp read⟩
    · rintro ⟨lt, same⟩
      exact (table d lt).mpr same
  · have le : 128 ≤ c.toNat := Nat.le_of_not_lt ascii
    rw [hexValue?_of_le le, IsHexDigit, toLower_of_le le]
    constructor
    · nofun
    · rintro ⟨lt, rfl⟩
      exact absurd (digitChar_lt d lt) ascii

/-! ## Rows of digits -/

/-- A row of hexadecimal digits stands for a number. -/
inductive IsHex : List Char → Nat → Prop
  | nil : IsHex [] 0
  | snoc {front : List Char} {n : Nat} {c : Char} {d : Nat} (before : IsHex front n)
      (digit : IsHexDigit c d) : IsHex (front ++ [c]) (16 * n + d)

/-- Rows of digits are read one after the other. -/
theorem hexNumberFrom?_append (value : Nat) (front back : List Char) :
    hexNumberFrom? value (front ++ back) =
      (hexNumberFrom? value front).bind fun n => hexNumberFrom? n back := by
  induction front generalizing value with
  | nil => rfl
  | cons c rest ih =>
    rw [List.cons_append, hexNumberFrom?, hexNumberFrom?]
    cases hexValue? c with
    | none => rfl
    | some d => exact ih (16 * value + d)

/-- One more digit makes sixteen times the number and the digit. -/
theorem hexNumber?_concat (front : List Char) (c : Char) :
    hexNumber? (front ++ [c]) =
      (hexNumber? front).bind fun n => (hexValue? c).map fun d => 16 * n + d := by
  rw [hexNumber?, hexNumberFrom?_append, hexNumber?]
  congr 1
  funext n
  cases read : hexValue? c <;> simp [hexNumberFrom?, read]

/-- Reading digits one after another computes the value of the row. -/
theorem isHex_iff {cs : List Char} {n : Nat} : IsHex cs n ↔ hexNumber? cs = some n := by
  constructor
  · intro hex
    induction hex with
    | nil => rfl
    | snoc before digit ih => simp [hexNumber?_concat, ih, hexValue?_eq_some_iff.mpr digit]
  · intro read
    induction cs using List.reverseRecOn generalizing n with
    | nil =>
      obtain rfl : 0 = n := Option.some.inj read
      exact .nil
    | append_singleton front c ih =>
      rw [hexNumber?_concat] at read
      obtain ⟨value, front_read, read⟩ := Option.bind_eq_some_iff.mp read
      obtain ⟨d, digit, rfl⟩ := Option.map_eq_some_iff.mp read
      exact .snoc (ih front_read) (hexValue?_eq_some_iff.mp digit)

/-- All of a row are digits. -/
theorem IsHex.isSome_hexValue? {cs : List Char} {n : Nat} (hex : IsHex cs n) :
    ∀ c ∈ cs, (hexValue? c).isSome = true := by
  induction hex with
  | nil => nofun
  | snoc before digit ih =>
    rw [List.forall_mem_append, List.forall_mem_singleton, hexValue?_eq_some_iff.mpr digit]
    exact ⟨ih, rfl⟩

theorem pow_succ_width (width : Nat) : Nat.pow 16 (width + 1) = 16 * Nat.pow 16 width :=
  Nat.mul_comm _ 16

/-- A row of digits stands for a number of so many digits. -/
theorem IsHex.lt {cs : List Char} {n : Nat} (hex : IsHex cs n) : n < Nat.pow 16 cs.length := by
  induction hex with
  | nil => decide
  | snoc before digit ih =>
    have small := digit.1
    rw [List.length_append, List.length_singleton, pow_succ_width]
    omega

/-! ## The digits of a number -/

/-- The digits that a number is written with stand for it. -/
theorem isHex_hexDigits {width n : Nat} (h : n < Nat.pow 16 width) : IsHex (hexDigits width n) n := by
  induction width generalizing n with
  | zero =>
    obtain rfl : n = 0 := Nat.lt_one_iff.mp h
    exact .nil
  | succ width ih =>
    rw [pow_succ_width] at h
    have last : n % 16 < 16 := Nat.mod_lt n (by decide)
    have digits := (ih (n := n / 16) (by omega)).snoc ⟨last, toLower_digitChar _ last⟩
    rwa [Nat.div_add_mod] at digits

/-- In small letters, digits are those that their number is written with. -/
theorem IsHex.map_toLower_eq {cs : List Char} {n : Nat} (hex : IsHex cs n) :
    cs.map Char.toLower = hexDigits cs.length n := by
  induction hex with
  | nil => rfl
  | @snoc front n c d before digit ih =>
    obtain ⟨lt, same⟩ := digit
    have quotient : (16 * n + d) / 16 = n := by omega
    have remainder : (16 * n + d) % 16 = d := by omega
    rw [List.map_append, List.map_singleton, ih, same, List.length_append, List.length_singleton,
      hexDigits, quotient, remainder]

/-- What holds of each digit in a small letter holds of all that a number is written with. -/
theorem forall_mem_hexDigits {P : Char → Prop} (digits : ∀ d < 16, P (Nat.digitChar d))
    (width n : Nat) : ∀ c ∈ hexDigits width n, P c := by
  induction width generalizing n with
  | zero => nofun
  | succ width ih =>
    rw [hexDigits, List.forall_mem_append, List.forall_mem_singleton]
    exact ⟨ih (n / 16), digits (n % 16) (Nat.mod_lt n (by decide))⟩

end DirectorySignIn.Text
