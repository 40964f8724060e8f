import DirectorySignIn.Text.Hex

/-!
# Percent-encoding

Characters that a part of a URL cannot hold are replaced by the bytes of their UTF-8 form, each
written as a percent sign and two hexadecimal digits in capitals.
-/

namespace DirectorySignIn.Text

/-- The UTF-8 form of a character. -/
def utf8Bytes (c : Char) : List Nat :=
  let n := c.toNat
  if n < 0x80 then [n]
  else if n < 0x800 then [0xC0 + n / 0x40, 0x80 + n % 0x40]
  else if n < 0x10000 then [0xE0 + n / 0x1000, 0x80 + n / 0x40 % 0x40, 0x80 + n % 0x40]
  else [0xF0 + n / 0x40000, 0x80 + n / 0x1000 % 0x40, 0x80 + n / 0x40 % 0x40, 0x80 + n % 0x40]

/-- A byte as a percent sign and two digits. -/
def percentByte (byte : Nat) : List Char :=
  '%' :: (hexDigits 2 byte).map Char.toUpper

/-- Replaces the characters of a class by their percent-encoded bytes. -/
def percentEncode (replaced : Char → Bool) (cs : List Char) : List Char :=
  cs.flatMap fun c => if replaced c then (utf8Bytes c).flatMap percentByte else [c]

/-- The bytes of a text in which each percent sign with two digits stands for one byte. -/
def percentDecode : List Char → List Nat
  | [] => []
  | '%' :: a :: b :: rest =>
    match hexValue? a, hexValue? b with
    | some high, some low => (16 * high + low) :: percentDecode rest
    | _, _ => utf8Bytes '%' ++ percentDecode (a :: b :: rest)
  | c :: rest => utf8Bytes c ++ percentDecode rest

/-- Whether a character is a control character of ASCII or lies outside of ASCII. -/
def isControlOrForeign (c : Char) : Bool :=
  c.toNat < 0x20 || 0x7E < c.toNat

end DirectorySignIn.Text
