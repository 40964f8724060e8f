import DirectorySignIn.Url.Domain.Direction
import DirectorySignIn.Url.Domain.Label
import DirectorySignIn.Url.Error

/-!
# Names of web hosts

The name of a web host is given in bytes, which have to be UTF-8.  It is folded and split into
labels; each label has to be acceptable, and if there are scripts from right to left in the name,
all labels have to run in one direction.  The name is looked up in ASCII.

Main definitions:

- `Domain.labels?` gives the labels of a name with the characters that they stand for;
- `Domain.parse` gives the name in ASCII.
-/

namespace DirectorySignIn.Domain

/-- Whether an ASCII character separates or confuses and cannot stand in the name of a web host. -/
def isReserved (c : Char) : Bool :=
  c.toNat ≤ 0x20 || c.toNat == 0x7F ||
    ['%', '#', '/', ':', '<', '>', '?', '@', '[', '\\', ']', '^', '|'].contains c

/-- The bytes of a name as text. -/
def decodeUtf8? (bytes : List Nat) : Option (List Char) :=
  (String.fromUTF8? ⟨(bytes.map Nat.toUInt8).toArray⟩).map String.toList

/-- Whether the labels of a name run in one direction each, as far as that matters for the name. -/
def isReadable (labels : List (List Char)) : Bool :=
  !(labels.any fun label => label.any fun c => (Direction.ofChar c).isBinding) ||
    labels.all Direction.isConsistent

/-- The labels of the name of a web host, decoded. -/
def labels? (bytes : List Nat) : Option (List (List Char)) := do
  let folded ← fold? (← decodeUtf8? bytes)
  if folded.any isReserved then none
  else
    let labels ← (Text.splitAt '.' folded).mapM Label.decode?
    if labels.all Label.isAcceptable && isReadable labels then some labels else none

/-- Checks the name of a web host, given in bytes, and returns it in ASCII. -/
def parse (bytes : List Nat) : Except UrlError (List Char) :=
  match labels? bytes with
  | none => .error .badDomainName
  | some labels => .ok (['.'].intercalate (labels.map Label.encode))

end DirectorySignIn.Domain
