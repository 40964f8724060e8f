import DirectorySignIn.Json.Decoder

/-!
# Roles

What a user may do in a tenant.  In a document a role is its name, or an object with the name as
its only key and `null` as the value.
-/

namespace DirectorySignIn

/-- What a user may do in a tenant. -/
inductive Role where
  | visitor
  | collaborator
  | administrator
deriving DecidableEq, Inhabited

namespace Role

/-- The name of a role. -/
def name : Role → String
  | visitor => "visitor"
  | collaborator => "collaborator"
  | administrator => "administrator"

/-- All roles. -/
def all : List Role := [visitor, collaborator, administrator]

/-- The role of a name. -/
def ofName (name : String) : Except Json.DecodeError Role :=
  match all.find? fun role => role.name == name with
  | some role => .ok role
  | none => .error (.content (.unknownVariant name (all.map Role.name)))

/-- A role is read from the name that it is written with. -/
theorem ofName_name (role : Role) : ofName role.name = .ok role := by
  cases role <;> rfl

/-- Decodes a role from its name. -/
def decodeName (literal : Json.Literal) : Except Json.DecodeError Role :=
  Json.ofRead literal.text >>= ofName

/-- Decodes the value that stands beside a role. -/
def decodeNothing : Json.Document → Except Json.DecodeError Unit
  | .null => .ok ()
  | doc => doc.unexpected

/-- Decodes a role from a text.  What is neither a string nor an object is no role, and neither is
an object whose key is no string or that goes on after the value. -/
def decodeFromText : Json.Document → Except Json.DecodeError Role
  | .absent => .error (.text .truncated)
  | .string literal => decodeName literal
  | .object ((.absent, _) :: _) _ => .error (.text .truncated)
  | .object ((.string literal, value) :: rest) fault => do
    let role ← decodeName literal
    decodeNothing value
    if rest.isEmpty then
      Json.ofRead (Json.Document.closing fault)
      return role
    else .error (.text .malformed)
  | _ => .error (.text .malformed)

/-- Decodes a role from a complete value. -/
def decodeFromValue : Json.Document → Except Json.DecodeError Role
  | .string literal => decodeName literal
  | .object [(.string literal, value)] _ => do
    let role ← decodeName literal
    decodeNothing value
    return role
  | _ => Json.mismatched

/-- Decodes a role. -/
def decode : Json.Decoder Role := fun origin doc =>
  match origin with
  | .text _ => decodeFromText doc
  | .value => decodeFromValue doc

/-- A role as JSON. -/
def json (role : Role) : Json := .string role.name

end Role

end DirectorySignIn
