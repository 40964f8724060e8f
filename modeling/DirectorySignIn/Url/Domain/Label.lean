import DirectorySignIn.Url.Domain.Fold
import DirectorySignIn.Url.Domain.Joiner
import DirectorySignIn.Url.Domain.Punycode

/-!
# Labels of domain names

A label is a part of a domain name between dots.  A label that starts with `xn--` stands for one
with characters outside of ASCII.

Main definitions:

- `Label.decode?` is the label that a folded one stands for;
- `Label.isAcceptable` says whether a label can be looked up;
- `Label.encode` writes a label in ASCII.
-/

namespace DirectorySignIn.Domain.Label

/-- What marks an encoded label. -/
def encodedMark : List Char := ['x', 'n', '-', '-']

/-- Whether a label has ASCII characters only. -/
def isAscii (label : List Char) : Bool :=
  label.all (·.toNat < 128)

/-- The label that a folded label stands for.  An encoded label has to be the encoding of a folded
one, and cannot be longer than any that needs to be looked up. -/
def decode? (label : List Char) : Option (List Char) :=
  match encodedMark.isPrefixOf? label with
  | none => some label
  | some encoded =>
    if isAscii encoded && encoded.length ≤ 2000 && label.getLast? != some '-' then
      (Punycode.decode? encoded).filter fun decoded => fold? decoded == some decoded
    else none

/-- Whether a decoded label can be looked up: it does not start with a mark, its joiners have an
effect, and it is not too long to be encoded. -/
def isAcceptable (label : List Char) : Bool :=
  !(label.head?.map Text.isMark).getD false && joinersFit [] label &&
    (isAscii label || label.length ≤ 1000)

/-- A decoded label in ASCII. -/
def encode (label : List Char) : List Char :=
  if isAscii label then label else encodedMark ++ Punycode.encode label

end DirectorySignIn.Domain.Label
