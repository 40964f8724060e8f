import DirectorySignIn.Json.Decoder
import DirectorySignIn.Text.Blank

/-!
# Ports

A port is a number from 1 to 65535.  It is written in decimal, may be surrounded by white space
and may carry a plus sign and leading zeros.  In a document it is such a text or a number.

Main result:

- `ofNat?_eq_some_iff`: exactly the numbers in the range are ports.
-/

namespace DirectorySignIn

/-- A network port other than zero. -/
structure Port where
  number : Nat
  pos : 0 < number
  le_max : number ≤ 65535
deriving DecidableEq

namespace Port

/-- The port of a number, if the number is in the range. -/
def ofNat? (n : Nat) : Option Port :=
  if h : 0 < n ∧ n ≤ 65535 then some ⟨n, h.1, h.2⟩ else none

/-- A number is that of a port if the port has it. -/
theorem ofNat?_eq_some_iff (n : Nat) (port : Port) :
    ofNat? n = some port ↔ n = port.number := by
  cases port with
  | mk number pos le_max =>
    unfold ofNat?
    split
    · simp
    · constructor
      · intro h; simp at h
      · intro h; subst h; omega

/-- The characters of a number without its plus sign. -/
def unsigned : List Char → List Char
  | '+' :: rest => rest
  | cs => cs

/-- Reads a port from a text without white space around it. -/
def ofDigits? (cs : List Char) : Option Port :=
  let digits := unsigned cs
  if digits ≠ [] ∧ digits.all Char.isDigit then ofNat? (Nat.ofDigitChars 10 digits 0) else none

/-- Reads a port. -/
def parse (input : String) : Except Error Port :=
  match ofDigits? (Text.trimBlanks input.toList) with
  | some port => .ok port
  | none => .error (.validation ("invalid port: " ++ input))

/-- The decimal text of a port. -/
def text (port : Port) : String :=
  toString port.number

/-- A port is written in decimal digits. -/
theorem toList_text (port : Port) : port.text.toList = Nat.toDigits 10 port.number := by
  rw [text, Nat.toString_eq_ofList_toDigits, String.toList_ofList]

/-- There is nothing but digits in the text of a port. -/
theorem all_isDigit_text (port : Port) : port.text.toList.all Char.isDigit = true := by
  rw [toList_text]
  exact List.all_eq_true.mpr fun _ hc => Nat.isDigit_of_mem_toDigits (by decide) (by decide) hc

/-- The text of a port is not empty. -/
theorem text_ne_nil (port : Port) : port.text.toList ≠ [] := by
  rw [toList_text]
  exact Nat.toDigits_ne_nil

/-- The text of a port stands for its number. -/
theorem ofDigitChars_text (port : Port) : Nat.ofDigitChars 10 port.text.toList 0 = port.number := by
  rw [toList_text]
  exact Nat.ofDigitChars_ten_toDigits

/-- Decodes a port from a text or a number.  Whatever stands in its place is read to its end
before it is looked at. -/
def decode : Json.Decoder Port := fun origin doc => do
  Json.ofRead (doc.validate origin.levelsLeft)
  match doc with
  | .string literal => Json.Decoder.refine Json.Decoder.text parse origin (.string literal)
  | .number numeral =>
    match numeral.natural? with
    | none => Json.mismatched
    | some n =>
      match ofNat? n with
      | some port => return port
      | none => .error (.content (.invalidPort n))
  | _ => Json.mismatched

/-- A port as JSON is its decimal text. -/
def json (port : Port) : Json :=
  .string port.text

end Port

end DirectorySignIn
