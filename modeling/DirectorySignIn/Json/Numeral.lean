/-!
# JSON numbers as they are spelled

A number is kept as its digits, because an integer written with a fraction or an exponent is no
integer here, however round its value.  Three things can be asked of a spelling: whether it is a
number at all, whether its magnitude exceeds the greatest double, and which natural number of 64
bits it stands for.
-/

namespace DirectorySignIn.Json

/-- What keeps a text from being JSON text. -/
inductive Fault where
  /-- Something stands where it may not. -/
  | malformed
  /-- The text ends too early. -/
  | truncated
deriving DecidableEq

/-- A number as spelled. -/
structure Numeral where
  /-- A minus sign comes first. -/
  negative : Bool
  /-- The digits before the point. -/
  whole : List Char
  /-- The digits after the point, if there is one. -/
  fraction : Option (List Char)
  /-- Whether the exponent has a minus sign, and its digits, if there is one. -/
  exponent : Option (Bool × List Char)
  /-- Nothing follows in the text. -/
  isLast : Bool
deriving DecidableEq

namespace Numeral

/-- The spelling of a natural number. -/
def ofNat (n : Nat) : Numeral :=
  ⟨false, Nat.toDigits 10 n, none, none, false⟩

/-- What is reported where a digit is missing. -/
def missingDigit (n : Numeral) : Fault :=
  if n.isLast then .truncated else .malformed

/-- What is wrong with the spelling: a part without digits, or a zero before other digits. -/
def fault? (n : Numeral) : Option Fault :=
  match n.whole, n.fraction, n.exponent with
  | [], _, _ => some n.missingDigit
  | '0' :: _ :: _, _, _ => some .malformed
  | _, some [], _ => some n.missingDigit
  | _, _, some (_, []) => some n.missingDigit
  | _, _, _ => none

/-! ## Magnitude -/

/-- The greatest natural number of 64 bits. -/
def maxNatural : Nat := UInt64.size - 1

/-- Appends digits to a significand as long as it fits into 64 bits, and returns the digits that
were left over. -/
def gather (significand : Nat) : List Char → Nat × List Char
  | [] => (significand, [])
  | d :: rest =>
    let next := 10 * significand + (d.toNat - '0'.toNat)
    if next ≤ maxNatural then gather next rest else (significand, d :: rest)

/-- The nearest number with at most 53 significant binary digits, a tie going to the even one. -/
def roundToDouble (n : Nat) : Nat :=
  let bits := n.log2 + 1
  if bits ≤ 53 then n
  else
    let unit := Nat.pow 2 (bits - 53)
    let quotient := n / unit
    let remainder := n % unit
    if 2 * remainder > unit ∨ (2 * remainder = unit ∧ quotient % 2 = 1) then
      (quotient + 1) * unit
    else quotient * unit

/-- The least integer that rounds beyond the greatest double. -/
def infinityBound : Nat := (Nat.pow 2 54 - 1) * Nat.pow 2 970

/-- Whether the value is beyond the range of doubles, when the significand of 64 bits and the
power of ten are each rounded first. -/
def isOverflow (n : Numeral) : Bool :=
  let (whole, wholeRest) := gather 0 n.whole
  let fraction := n.fraction.getD []
  let (significand, fractionRest) := gather whole fraction
  let shift : Int := wholeRest.length - (fraction.length - fractionRest.length)
  let power : Int :=
    match n.exponent with
    | some (true, digits) => shift - Nat.ofDigitChars 10 digits 0
    | some (false, digits) => shift + Nat.ofDigitChars 10 digits 0
    | none => shift
  significand != 0 && 0 ≤ power &&
    (308 < power ||
      infinityBound ≤ roundToDouble significand * roundToDouble (Nat.pow 10 power.toNat))

/-- The natural number of 64 bits that the digits spell, if they spell one. -/
def natural? (n : Numeral) : Option Nat :=
  let value := Nat.ofDigitChars 10 n.whole 0
  if !n.negative && n.fraction.isNone && n.exponent.isNone && value ≤ maxNatural then some value
  else none

/-- Reads the spelling: a fault, or the natural number if it is one. -/
def read (n : Numeral) : Except Fault (Option Nat) :=
  match n.fault? with
  | some fault => .error fault
  | none => if n.isOverflow then .error .malformed else .ok n.natural?

end Numeral

end DirectorySignIn.Json
