import DirectorySignIn.Text.Hex
import DirectorySignIn.Text.Split
import DirectorySignIn.Url.Error

/-!
# IPv4 addresses

A web host whose last part looks like a number is an IPv4 address.  Its parts are decimal, octal
after a zero, or hexadecimal after `0x`; the last part fills all bytes that the others left.
-/

namespace DirectorySignIn.Ipv4

/-- Whether a character is an octal digit. -/
def isOctal (c : Char) : Bool :=
  '0' ≤ c && c ≤ '7'

/-- The number that a part of an address stands for. -/
def part? (cs : List Char) : Option Nat :=
  match cs with
  | [] => none
  | '0' :: 'x' :: digits | '0' :: 'X' :: digits => Text.hexNumber? digits
  | '0' :: c :: rest =>
    if (c :: rest).all isOctal then some (Nat.ofDigitChars 8 (c :: rest) 0) else none
  | digits => if digits.all Char.isDigit then some (Nat.ofDigitChars 10 digits 0) else none

/-- The parts of a host name, of which an empty one at the end is dropped. -/
def parts (cs : List Char) : List (List Char) :=
  let all := Text.splitAt '.' cs
  if all.getLast? = some [] then all.dropLast else all

/-- Whether a host name has to be an IPv4 address. -/
def endsInNumber (cs : List Char) : Bool :=
  match (parts cs).getLast? with
  | none => false
  | some last => (!last.isEmpty && last.all Char.isDigit) || (part? last).isSome

/-- Reads an address from a host name that has to be one. -/
def parse (cs : List Char) : Except UrlError Nat :=
  match (parts cs).mapM part? with
  | none => .error .badIpv4Address
  | some numbers =>
    match numbers.getLast? with
    | none => .error .badIpv4Address
    | some last =>
      let leading := numbers.dropLast
      let room := Nat.pow 256 (4 - leading.length)
      if numbers.length ≤ 4 ∧ leading.all (· ≤ 255) ∧ last < room then
        .ok (leading.foldl (fun value byte => 256 * value + byte) 0 * room + last)
      else .error .badIpv4Address

end DirectorySignIn.Ipv4
