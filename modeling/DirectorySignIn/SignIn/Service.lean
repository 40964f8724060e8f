import DirectorySignIn.Provider.Catalog
import DirectorySignIn.SignIn.Reconciliation
import DirectorySignIn.SignIn.Request
import DirectorySignIn.SignIn.Session

/-!
# The sign-in service

What an application asks for: to check a provider, to verify a password, to read a profile, and
to sign a user in, which is all of that and the account besides.  The service keeps nothing but
its settings, which are valid from the start.

Main results:

- `create_eq_ok_iff`: a service exists for exactly the settings that are within bounds.
-/

namespace DirectorySignIn

/-- A sign-in service. -/
structure Service where
  settings : Settings
  valid : settings.ensureValid = .ok ()

/-- What is returned to someone who was signed in. -/
structure SignedIn where
  profile : Profile
  reconciliation : Reconciliation
deriving DecidableEq

/-- The account of someone who was signed in. -/
def SignedIn.user (signedIn : SignedIn) : User :=
  signedIn.reconciliation.user

/-- An unknown provider is not told apart from wrong credentials on a sign-in page. -/
def Error.hidingProvider : Error → Error
  | .configurationNotFound _ => .invalidCredentials
  | error => error

namespace Service

/-- The service with the given settings. -/
def create (settings : Settings) : Except Error Service :=
  match h : settings.ensureValid with
  | .ok () => .ok ⟨settings, h⟩
  | .error e => .error e

/-- A service is made from exactly the settings that are valid. -/
theorem create_eq_ok_iff (settings : Settings) :
    (∃ service, create settings = .ok service ∧ service.settings = settings) ↔
      settings.ensureValid = .ok () := by
  constructor
  · rintro ⟨service, -, rfl⟩
    exact service.valid
  · intro h
    refine ⟨⟨settings, h⟩, ?_, rfl⟩
    unfold create
    split
    · rfl
    · next h' => rw [h] at h'; cases h'

/-! ## Providers -/

/-- Opens a session, which the caller has to close. -/
def connect (service : Service) (context : Context) (provider : String) : Task Error Session :=
  Session.start service.settings context provider

/-- Checks that a provider can be reached and takes its service account. -/
def checkProvider (service : Service) (context : Context) (provider : String) :
    Task Error Unit := do
  Session.within service.settings context provider DirectoryError.toCheckFailure
    Session.bindService
  Task.log .providerReachable

/-- The providers through which users of the tenant may sign in. -/
def activeProviders (_service : Service) (context : Context) : Task Error (List ProviderOption) :=
  Catalog.active context.tenant.id

/-- Every provider of the tenant. -/
def allProviders (_service : Service) (context : Context) : Task Error (List ProviderOption) :=
  Catalog.all context.tenant.id

/-! ## Users -/

/-- The attribute list that asks for no attribute. -/
def noAttributes : List String := ["1.1"]

/-- Verifies a password in a session: the service account finds the only entry of the username,
and that entry has to take the password.  An empty password never gets as far as a bind. -/
def verifyWithin (username password : String) (session : Session) : Task DirectoryError Unit :=
  if password = "" then throw (.userBind "empty password")
  else do
    session.bindService
    let entry ← session.findUser username noAttributes
    session.bindUser entry password

/-- Verifies a password.  What is missing from the start is not sent anywhere, for a directory
takes an empty password for no bind at all. -/
def verify (service : Service) (context : Context) (provider username password : String) :
    Task Error Unit :=
  if Text.isBlankText username || password == "" then do
    Task.log .credentialsMissing
    throw .invalidCredentials
  else
    Session.within service.settings context provider DirectoryError.toPublic
      (verifyWithin username password)

/-- Reads a profile in a session. -/
def readProfileWithin (username : String) (session : Session) : Task DirectoryError Profile := do
  session.bindService
  let entry ← session.findUser username session.config.profileAttributes
  Task.ofExcept (Profile.ofEntry session.config entry)

/-- Reads the profile of a username. -/
def readProfile (service : Service) (context : Context) (provider username : String) :
    Task Error Profile :=
  Session.within service.settings context provider DirectoryError.toPublic
    (readProfileWithin username)

/-- Signs a user in: verifies the password, reads the profile, and finds or makes the account. -/
def signIn (service : Service) (context : Context) (request : SignInRequest) :
    Task Error SignedIn := do
  Task.ofExcept request.check
  (service.verify context request.provider request.username request.password).adapt
    Error.hidingProvider
  let profile ← (service.readProfile context request.provider request.username).adapt
    Error.hidingProvider
  let reconciliation ← Reconciliation.reconcile context.tenant request.provider profile
  return ⟨profile, reconciliation⟩

end Service

end DirectorySignIn
