import DirectorySignIn.Account.Role
import DirectorySignIn.Identifier
import DirectorySignIn.Json.Record

/-!
# Tenants, users and links

A user belongs to one tenant.  A link says under which id a directory knows the user.  Linking an
id under a provider key replaces the links of that key, so that the links in order of writing are
a last-write-wins map.

Main results:

- `linkedId_link_self`: the id linked last under a key is the one found.
- `linkedId_link_of_ne`: the other keys are left alone.
-/

namespace DirectorySignIn

/-- A tenant. -/
structure Tenant where
  id : TenantId
  name : String
  /-- Unknown users are not let in. -/
  isPrivate : Bool
deriving DecidableEq

/-- The id under which a directory knows a user. -/
structure Link where
  provider : String
  uid : String
deriving DecidableEq

/-- A user account of a tenant. -/
structure User where
  id : UserId
  tenant : TenantId
  name : String
  email : String
  role : Role
  links : List Link
deriving DecidableEq

namespace User

/-- Links an id under a provider key in place of all links of that key. -/
def link (user : User) (provider uid : String) : User :=
  { user with links := user.links.filter (·.provider != provider) ++ [⟨provider, uid⟩] }

/-- A user with an id linked under a provider key, as users are built step by step. -/
def withLink (user : User) (provider uid : String) : User :=
  user.link provider uid

/-- Whether the user has a link under a provider key. -/
def isLinked (user : User) (provider : String) : Bool :=
  user.links.any (·.provider == provider)

/-- The id linked under a provider key. -/
def linkedId? (user : User) (provider : String) : Option String :=
  (user.links.find? (·.provider == provider)).map (·.uid)

/-- Whether the user administers the tenant. -/
def isAdministrator (user : User) : Bool :=
  user.role == .administrator

@[simp]
theorem link_id (user : User) (provider uid : String) : (user.link provider uid).id = user.id :=
  rfl

@[simp]
theorem link_tenant (user : User) (provider uid : String) :
    (user.link provider uid).tenant = user.tenant :=
  rfl

@[simp]
theorem link_email (user : User) (provider uid : String) :
    (user.link provider uid).email = user.email :=
  rfl

/-- Under the key that was linked there is the id that it was linked with. -/
theorem linkedId_link_self (user : User) (provider uid : String) :
    (user.link provider uid).linkedId? provider = some uid := by
  have none_before :
      (user.links.filter (·.provider != provider)).find? (·.provider == provider) = none := by
    rw [List.find?_eq_none]
    intro l hl
    simpa using (List.mem_filter.mp hl).2
  simp [linkedId?, link, List.find?_append, none_before]

/-- What is linked under other keys is left alone. -/
theorem linkedId_link_of_ne (user : User) {provider other : String} (uid : String)
    (h : other ≠ provider) :
    (user.link provider uid).linkedId? other = user.linkedId? other := by
  have kept : ∀ links : List Link,
      (links.filter (·.provider != provider)).find? (·.provider == other) =
        links.find? (·.provider == other) := by
    intro links
    induction links with
    | nil => rfl
    | cons l rest ih =>
      by_cases hl : l.provider = provider
      · have : ¬ l.provider = other := fun h' => h (h'.symm.trans hl)
        simp_all
      · by_cases ho : l.provider = other <;> simp_all
  simp [linkedId?, link, List.find?_append, kept, Ne.symm h]

end User

/-! ## Documents -/

namespace Tenant

/-- The fields of a tenant in a document. -/
def fields : Json.Fields [TenantId, String, Bool] :=
  .cons (Json.required "id" TenantId.decode) <|
  .cons (Json.required "name" Json.Decoder.text) <|
  .cons (Json.optional "is_private" Json.Decoder.bool false) .nil

/-- Decodes a tenant. -/
def decode : Json.Decoder Tenant := fun origin doc => do
  let (id, name, isPrivate, ()) ← fields.decode origin doc
  return { id, name, isPrivate }

/-- A tenant as JSON. -/
def json (tenant : Tenant) : Json :=
  .object [
    ("id", tenant.id.json),
    ("name", .string tenant.name),
    ("is_private", .bool tenant.isPrivate)]

end Tenant

namespace Link

/-- The fields of a link in a document. -/
def fields : Json.Fields [String, String] :=
  .cons (Json.required "name" Json.Decoder.text) <|
  .cons (Json.required "uid" Json.Decoder.text) .nil

/-- Decodes a link. -/
def decode : Json.Decoder Link := fun origin doc => do
  let (provider, uid, ()) ← fields.decode origin doc
  return { provider, uid }

/-- A link as JSON. -/
def json (link : Link) : Json :=
  .object [("name", .string link.provider), ("uid", .string link.uid)]

end Link

namespace User

/-- The fields of a user in a document. -/
def fields : Json.Fields [UserId, TenantId, String, String, Role, List Link] :=
  .cons (Json.required "id" UserId.decode) <|
  .cons (Json.required "tenant_id" TenantId.decode) <|
  .cons (Json.required "name" Json.Decoder.text) <|
  .cons (Json.required "email" Json.Decoder.text) <|
  .cons (Json.required "role" Role.decode) <|
  .cons (Json.optional "providers" (Json.Decoder.list Link.decode) []) .nil

/-- Decodes a user. -/
def decode : Json.Decoder User := fun origin doc => do
  let (id, tenant, name, email, role, links, ()) ← fields.decode origin doc
  return { id, tenant, name, email, role, links }

/-- A user as JSON. -/
def json (user : User) : Json :=
  .object [
    ("id", user.id.json),
    ("tenant_id", user.tenant.json),
    ("name", .string user.name),
    ("email", .string user.email),
    ("role", user.role.json),
    ("providers", .list Link.json user.links)]

end User

end DirectorySignIn
