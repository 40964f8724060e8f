import DirectorySignIn.Directory.Filter
import DirectorySignIn.SignIn.Budget

/-!
# Sessions

The work on a directory goes on in a session: the provider is looked up, its directory is
connected to, something is done there, and the session is closed whatever came of it.  What went
wrong is reported to the operator once and reduced to a public error.
-/

namespace DirectorySignIn

/-- An open session with the configuration that it was opened for. -/
structure Session where
  config : ProviderConfig
  target : Target
  budget : Budget

namespace Session

/-! ## Opening and closing -/

/-- Reports a failed step and reduces it to a public error. -/
def fail {α : Type} (reduce : DirectoryError → String → Error) (provider url : String)
    (error : DirectoryError) : Task Error α := do
  Task.log (.failure provider url error)
  throw (reduce error provider)

/-- The result of a step, or its public error after its failure was reported. -/
def settle {α : Type} (reduce : DirectoryError → String → Error) (provider url : String) :
    Except DirectoryError α → Task Error α
  | .ok a => pure a
  | .error e => fail reduce provider url e

/-- Looks up the configuration of a provider. -/
def findConfig (tenant : TenantId) (provider : String) : Task Error ProviderConfig := do
  match ← Task.store (.getConfig tenant provider) with
  | some config => return config
  | none => throw (.configurationNotFound provider)

/-- Opens a session. -/
def start (settings : Settings) (context : Context) (provider : String) : Task Error Session := do
  let config ← findConfig context.tenant.id provider
  let target ← settle DirectoryError.toPublic provider config.hostname
    (Target.ofConfig config settings)
  let budget : Budget := ⟨settings.operationTimeout, context.deadline⟩
  let connected ← ExceptT.lift (budget.call "connect" (.connect target)).run
  settle DirectoryError.toPublic provider target.url.text connected
  return ⟨config, target, budget⟩

/-- Closes a session.  A failure is of no consequence. -/
def close (session : Session) : Program Unit := do
  match ← (session.budget.call "unbind" .unbind).run with
  | .ok () => return ()
  | .error e => Program.log (.unbindFailed session.target.url.text e)

/-- Opens a session, works in it, closes it, and reports what went wrong in between. -/
def within {α : Type} (settings : Settings) (context : Context) (provider : String)
    (reduce : DirectoryError → String → Error) (work : Session → Task DirectoryError α) :
    Task Error α := do
  let session ← start settings context provider
  let outcome ← ExceptT.lift (work session).run
  ExceptT.lift session.close
  settle reduce provider session.target.url.text outcome

/-! ## Working -/

/-- Binds as the service account. -/
def bindService (session : Session) : Task DirectoryError Unit :=
  (session.budget.call "service bind"
    (.bind session.config.bindUsername session.config.bindPassword.reveal)).adapt
    DirectoryError.atServiceBind

/-- Binds as the user of an entry. -/
def bindUser (session : Session) (entry : Entry) (password : String) : Task DirectoryError Unit :=
  (session.budget.call "user bind" (.bind entry.dn password)).adapt DirectoryError.atUserBind

/-- The only entry among those that were found. -/
def unique : List Entry → Except DirectoryError Entry
  | [entry] => .ok entry
  | entries => .error (.userNotFound entries.length)

/-- Looks up the entry of a user. -/
def findUser (session : Session) (username : String) (attributes : List String) :
    Task DirectoryError Entry := do
  let entries ← session.budget.call "search" (.search session.config.rootDn session.config.scope
    (Filter.forUser session.config username) attributes)
  Task.ofExcept (unique entries)

end Session

end DirectorySignIn
