import DirectorySignIn.Json.Decoder
import DirectorySignIn.Text.Hex

/-!
# Identifiers

Tenants and users are identified by numbers of 128 bits.  The canonical text of one is its 32
hexadecimal digits in five groups with hyphens between them.  Three more spellings are read: the
digits without hyphens, and the canonical text in braces or after `urn:uuid:`.

Tenants and users have types of their own, so that one is never passed for the other.
-/

namespace DirectorySignIn

/-- A number of 128 bits that identifies something. -/
structure Uuid where
  bits : BitVec 128
deriving DecidableEq, Inhabited

namespace Uuid

/-! ## Text -/

/-- The lengths of the groups of digits. -/
def groupLengths : List Nat := [8, 4, 4, 4, 12]

/-- Splits digits into groups of the given lengths with hyphens between them. -/
def hyphenate : List Nat → List Char → List Char
  | [], _ => []
  | [n], ds => ds.take n
  | n :: ns, ds => ds.take n ++ '-' :: hyphenate ns (ds.drop n)

/-- The canonical text of an identifier. -/
def text (id : Uuid) : String :=
  .ofList (hyphenate groupLengths (Text.hexDigits 32 id.bits.toNat))

/-- The version that an identifier carries in its thirteenth digit. -/
def version (id : Uuid) : Nat :=
  (id.bits >>> 76).toNat % 16

/-! ## Reading -/

/-- Removes the hyphens that stand after groups of the given lengths. -/
def dehyphenate? : List Nat → List Char → Option (List Char)
  | [], _ => none
  | [n], cs => if cs.length = n then some cs else none
  | n :: ns, cs =>
    match cs.drop n with
    | '-' :: rest => (dehyphenate? ns rest).map (cs.take n ++ ·)
    | _ => none

/-- The identifier with the given 32 digits. -/
def ofDigits? (ds : List Char) : Option Uuid :=
  if ds.length = 32 then (Text.hexNumber? ds).map fun n => ⟨BitVec.ofNat 128 n⟩ else none

/-- The identifier with the given digits in groups. -/
def ofGroups? (cs : List Char) : Option Uuid :=
  (dehyphenate? groupLengths cs).bind ofDigits?

/-- What comes before the canonical text in its third spelling. -/
def urn : List Char := ['u', 'r', 'n', ':', 'u', 'u', 'i', 'd', ':']

/-- Reads one of the four spellings of an identifier. -/
def ofChars? (cs : List Char) : Option Uuid :=
  match cs.length with
  | 32 => ofDigits? cs
  | 36 => ofGroups? cs
  | 38 =>
    if cs.head? = some '\x7b' ∧ cs.getLast? = some '\x7d' then ofGroups? (cs.drop 1).dropLast
    else none
  | 45 => if (cs.take 9).map Char.toLower = urn then ofGroups? (cs.drop 9) else none
  | _ => none

/-- Reads an identifier. -/
def parse (input : String) : Except Error Uuid :=
  match ofChars? input.toList with
  | some id => .ok id
  | none => .error (.validation ("invalid identifier: " ++ input))

/-- Decodes an identifier from its text. -/
def decode : Json.Decoder Uuid := fun origin doc => do
  let input ← Json.Decoder.text origin doc
  match ofChars? input.toList with
  | some id => return id
  | none => Json.mismatched

end Uuid

/-! ## Identifiers of tenants and of users -/

/-- Types whose values are read from texts. -/
class OfText (α : Type) where
  /-- Reads a value from a text. -/
  ofText : String → Except Error α

/-- The identifier of a tenant. -/
structure TenantId where
  uuid : Uuid
deriving DecidableEq, Inhabited

/-- The identifier of a user account. -/
structure UserId where
  uuid : Uuid
deriving DecidableEq, Inhabited

namespace TenantId

/-- The canonical text of a tenant's identifier. -/
def text (id : TenantId) : String := id.uuid.text

/-- Reads the identifier of a tenant. -/
def parse (input : String) : Except Error TenantId :=
  (Uuid.parse input).map mk

instance : OfText TenantId where
  ofText := parse

/-- Decodes the identifier of a tenant. -/
def decode : Json.Decoder TenantId := fun origin doc =>
  (Uuid.decode origin doc).map mk

/-- The identifier of a tenant as JSON. -/
def json (id : TenantId) : Json := .string id.text

end TenantId

namespace UserId

/-- The canonical text of a user's identifier. -/
def text (id : UserId) : String := id.uuid.text

/-- Reads the identifier of a user. -/
def parse (input : String) : Except Error UserId :=
  (Uuid.parse input).map mk

instance : OfText UserId where
  ofText := parse

/-- Decodes the identifier of a user. -/
def decode : Json.Decoder UserId := fun origin doc =>
  (Uuid.decode origin doc).map mk

/-- The identifier of a user as JSON. -/
def json (id : UserId) : Json := .string id.text

end UserId

end DirectorySignIn
