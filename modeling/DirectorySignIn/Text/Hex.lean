/-!
# Hexadecimal digits

Reading a digit in either case, and writing a number with a fixed count of digits.
-/

namespace DirectorySignIn.Text

/-- The value of a hexadecimal digit in either case. -/
def hexValue? (c : Char) : Option Nat :=
  if '0' ≤ c ∧ c ≤ '9' then some (c.toNat - '0'.toNat)
  else if 'a' ≤ c ∧ c ≤ 'f' then some (c.toNat - 'a'.toNat + 10)
  else if 'A' ≤ c ∧ c ≤ 'F' then some (c.toNat - 'A'.toNat + 10)
  else none

/-- The number that a row of hexadecimal digits stands for, continuing from the digits before. -/
def hexNumberFrom? (value : Nat) : List Char → Option Nat
  | [] => some value
  | c :: rest =>
    match hexValue? c with
    | some d => hexNumberFrom? (16 * value + d) rest
    | none => none

/-- The number that a row of hexadecimal digits stands for. -/
def hexNumber? (digits : List Char) : Option Nat :=
  hexNumberFrom? 0 digits

/-- The last `width` hexadecimal digits of a number, in small letters. -/
def hexDigits : (width : Nat) → Nat → List Char
  | 0, _ => []
  | width + 1, n => hexDigits width (n / 16) ++ [Nat.digitChar (n % 16)]

/-- A number is written with as many digits as were asked for. -/
@[simp]
theorem length_hexDigits (width n : Nat) : (hexDigits width n).length = width := by
  induction width generalizing n with
  | zero => rfl
  | succ width ih => simp [hexDigits, ih]

end DirectorySignIn.Text
