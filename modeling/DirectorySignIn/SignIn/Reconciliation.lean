import DirectorySignIn.Account.Registry
import DirectorySignIn.Directory.Profile

/-!
# Reconciliation

The account for someone whom a directory knows.  The account that holds the link to the directory's
id comes first, then the one with the same email address, which gets the link, and else a public
tenant takes in a visitor.  No way writes more than once.

Main results:

- `links_visitor`: a new account has one link, the one it was made for.
-/

namespace DirectorySignIn

/-- How the account of a user was found or made. -/
inductive Reconciliation where
  /-- The account was linked already. -/
  | existing (user : User)
  /-- The account was found by email and was linked. -/
  | linked (user : User)
  /-- The account is new. -/
  | registered (user : User)
deriving DecidableEq

namespace Reconciliation

/-- The account. -/
def user : Reconciliation → User
  | existing user | linked user | registered user => user

/-- The name of the way in which the account was found or made. -/
def kind : Reconciliation → String
  | existing _ => "existing"
  | linked _ => "linked"
  | registered _ => "registered"

/-- A reconciliation as JSON. -/
def json (reconciliation : Reconciliation) : Json :=
  .object [("kind", .string reconciliation.kind), ("user", reconciliation.user.json)]

end Reconciliation

namespace Profile

/-- The name of the account that is made for a profile. -/
def accountName (profile : Profile) : String :=
  if profile.name = "" then profile.id else profile.name

/-- The account that is made for a profile. -/
def visitor (profile : Profile) (id : UserId) (tenant : TenantId) (provider : String) : User :=
  { id, tenant
    name := profile.accountName
    email := profile.email
    role := .visitor
    links := [⟨provider, profile.id⟩] }

/-- A visitor has the link of the profile and no other. -/
@[simp]
theorem links_visitor (profile : Profile) (id : UserId) (tenant : TenantId) (provider : String) :
    (profile.visitor id tenant provider).links = [⟨provider, profile.id⟩] :=
  rfl

end Profile

namespace Reconciliation

/-- The account of a tenant with an email address.  Nobody is asked about the empty address. -/
def findEmail (tenant : TenantId) (email : String) : Task Error (Option User) :=
  if email = "" then pure none else Task.store (.findEmail tenant email)

/-- Tells the operator if an account is about to lose its link under a provider key. -/
def warnOfReplacement (user : User) (provider : String) : Task Error Unit :=
  match user.linkedId? provider with
  | some previous => Task.log (.identityReplaced provider user.id previous)
  | none => pure ()

/-- Links an account that was found by email. -/
def linkAccount (user : User) (provider uid : String) : Task Error Reconciliation := do
  warnOfReplacement user provider
  (Registry.attach user.id provider uid).adapt Error.asWriteFailure
  Task.log (.linkedByEmail provider user.id)
  return .linked (user.link provider uid)

/-- Makes an account for a profile. -/
def registerVisitor (tenant : TenantId) (provider : String) (profile : Profile) :
    Task Error Reconciliation := do
  let id ← ExceptT.lift Program.newUserId
  let user := profile.visitor id tenant provider
  (Registry.register user).adapt Error.asWriteFailure
  Task.log (.registeredFromProfile provider user.id)
  return .registered user

/-- Turns someone away from a private tenant. -/
def refuseStranger (tenant : TenantId) (provider : String) : Task Error Reconciliation := do
  Task.log (.strangerRefused provider tenant)
  throw .notInvited

/-- The account for a profile that was read through a provider. -/
def reconcile (tenant : Tenant) (provider : String) (profile : Profile) :
    Task Error Reconciliation := do
  match ← Task.store (.findIdentity tenant.id provider profile.id) with
  | some user =>
    Task.log (.identityKnown provider user.id)
    return .existing user
  | none =>
    match ← findEmail tenant.id profile.email with
    | some user => linkAccount user provider profile.id
    | none =>
      if tenant.isPrivate then refuseStranger tenant.id provider
      else registerVisitor tenant.id provider profile

end Reconciliation

end DirectorySignIn
