import DirectorySignIn.Text.Hex
import DirectorySignIn.Url.Ipv4

/-!
# IPv6 addresses

An address is eight numbers of sixteen bits.  Its text may leave out one row of zeros by a double
colon and may give the last two numbers as an IPv4 address.  The canonical text leaves out the
first of the longest rows of at least two zeros.
-/

namespace DirectorySignIn

/-- An IPv6 address by its eight numbers. -/
structure Ipv6 where
  pieces : List Nat
deriving DecidableEq

namespace Ipv6

/-! ## Reading -/

/-- A decimal number of one byte without leading zeros. -/
def byte? (cs : List Char) : Option Nat :=
  if cs = [] ∨ !cs.all Char.isDigit ∨ (cs.head? = some '0' ∧ cs.length ≠ 1) then none
  else
    let n := Nat.ofDigitChars 10 cs 0
    if n ≤ 255 then some n else none

/-- The two numbers of an IPv4 address at the end. -/
def tail? (cs : List Char) : Option (List Nat) :=
  match (Text.splitAt '.' cs).mapM byte? with
  | some [a, b, c, d] => some [256 * a + b, 256 * c + d]
  | _ => none

/-- What was read of an address: its numbers, and behind how many of them zeros were left out.
The place where they were left out holds one zero already. -/
structure Partial where
  pieces : List Nat
  gap : Option Nat

/-- Reads the numbers of an address after those that were read before. -/
def readPieces (before : Partial) : (steps : Nat) → List Char → Option Partial
  | 0, _ => none
  | _, [] => some before
  | steps + 1, cs =>
    let count := before.pieces.length
    if count = 8 then none
    else if cs.head? = some ':' then
      if before.gap.isSome then none
      else readPieces ⟨before.pieces ++ [0], some (count + 1)⟩ steps (cs.drop 1)
    else
      let digits := (cs.take 4).takeWhile fun c => (Text.hexValue? c).isSome
      match digits, Text.hexNumber? digits, cs.drop digits.length with
      | _ :: _, some value, [] => some { before with pieces := before.pieces ++ [value] }
      | _ :: _, some value, ':' :: c :: rest =>
        readPieces { before with pieces := before.pieces ++ [value] } steps (c :: rest)
      | _ :: _, _, '.' :: _ =>
        if count ≤ 6 then
          (tail? cs).map fun last => { before with pieces := before.pieces ++ last }
        else none
      | _, _, _ => none

/-- Puts in the zeros that were left out. -/
def Partial.fill? (read : Partial) : Option Ipv6 :=
  match read.gap with
  | some k =>
    some ⟨read.pieces.take k ++ List.replicate (8 - read.pieces.length) 0 ++ read.pieces.drop k⟩
  | none => if read.pieces.length = 8 then some ⟨read.pieces⟩ else none

/-- Reads an address. -/
def parse (cs : List Char) : Except UrlError Ipv6 :=
  let read :=
    match cs with
    | ':' :: ':' :: rest => readPieces ⟨[0], some 1⟩ (rest.length + 1) rest
    | ':' :: _ => none
    | cs => readPieces ⟨[], none⟩ (cs.length + 1) cs
  match read.bind Partial.fill? with
  | some address => .ok address
  | none => .error .badIpv6Address

/-! ## Writing -/

/-- The first of the longest rows of zeros, by its start and length. -/
def longestZeros (pieces : List Nat) : Nat × Nat :=
  (List.range pieces.length).foldl
    (fun best start =>
      let length := ((pieces.drop start).takeWhile (· == 0)).length
      if best.2 < length then (start, length) else best)
    (0, 0)

/-- Numbers in hexadecimal with colons between them. -/
def join (pieces : List Nat) : String :=
  String.intercalate ":" (pieces.map fun n => .ofList (Nat.toDigits 16 n))

/-- The canonical text of an address. -/
def text (address : Ipv6) : String :=
  let (start, length) := longestZeros address.pieces
  if 2 ≤ length then
    join (address.pieces.take start) ++ "::" ++ join (address.pieces.drop (start + length))
  else join address.pieces

end Ipv6

end DirectorySignIn
