import DirectorySignIn.Directory.Error
import DirectorySignIn.Identifier

/-!
# The log

What the service tells its operator.  An event is recorded by its cause; the level, the text and
the fields with which it is shown follow from that.  No event holds a password, and none holds a
username as it was typed in.

Main results:

- `failure_fields_of_lookup`: a lookup without a unique entry and a wrong password are reported
  without the URL and without what the directory said.
-/

namespace DirectorySignIn

/-- How urgent an event is. -/
inductive LogLevel where
  | error
  | warn
  | info
  | debug
deriving DecidableEq

/-- The name of a level. -/
def LogLevel.name : LogLevel → String
  | error => "ERROR"
  | warn => "WARN"
  | info => "INFO"
  | debug => "DEBUG"

/-- Something an operator is told. -/
inductive LogEvent where
  /-- A user was found by the id that the directory gave. -/
  | identityKnown (provider : String) (user : UserId)
  /-- A user who was found by email has another id under the same key. -/
  | identityReplaced (provider : String) (user : UserId) (previousUid : String)
  /-- A user who was found by email was linked. -/
  | linkedByEmail (provider : String) (user : UserId)
  /-- A private tenant turned an unknown user away. -/
  | strangerRefused (provider : String) (tenant : TenantId)
  /-- An unknown user got an account. -/
  | registeredFromProfile (provider : String) (user : UserId)
  /-- The store took in a user. -/
  | userStored (user : UserId) (tenant : TenantId)
  /-- The store took in a link. -/
  | identityStored (user : UserId) (provider : String)
  /-- A username or a password was missing. -/
  | credentialsMissing
  /-- A provider passed its check. -/
  | providerReachable
  /-- A session could not be closed. -/
  | unbindFailed (url : String) (error : DirectoryError)
  /-- A step on a directory failed. -/
  | failure (provider url : String) (error : DirectoryError)
deriving DecidableEq

namespace DirectoryError

/-- How urgent a failed step is: what the operator has to mend is an error, what may pass by
itself is a warning, and what the user got wrong is neither. -/
def logLevel : DirectoryError → LogLevel
  | invalidUrl _ | dial _ | startTls _ | tls _ | transport _ | serviceBind _ | search _ => .error
  | timeout _ | deadline | bind _ | protocol _ => .warn
  | userNotFound _ | userBind _ => .debug

/-- The text of the report of a failed step. -/
def logMessage : DirectoryError → String
  | invalidUrl _ | dial _ | startTls _ | tls _ | transport _ => "directory connection failed"
  | serviceBind _ => "service account bind rejected"
  | search _ => "user search failed"
  | timeout _ | deadline => "directory did not answer in time"
  | userNotFound _ => "no unique directory entry for username"
  | userBind _ => "user bind rejected"
  | bind _ | protocol _ => "directory operation failed"

/-- The fields of the report of a failed step.  What concerns a single user is reported without
the server. -/
def logFields (error : DirectoryError) (provider url : String) : List (String × Json) :=
  match error with
  | userNotFound matchCount => [
      ("provider", .string provider),
      ("stage", .string error.stage),
      ("matches", .number matchCount)]
  | userBind _ => [
      ("provider", .string provider),
      ("stage", .string error.stage)]
  | _ => [
      ("provider", .string provider),
      ("url", .string url),
      ("stage", .string error.stage),
      ("error", .string error.message)]

end DirectoryError

namespace LogEvent

/-- The level of an event. -/
def level : LogEvent → LogLevel
  | identityReplaced _ _ _ => .warn
  | identityKnown _ _ | linkedByEmail _ _ | strangerRefused _ _ | registeredFromProfile _ _ => .info
  | userStored _ _ | identityStored _ _ | credentialsMissing | providerReachable
  | unbindFailed _ _ => .debug
  | failure _ _ error => error.logLevel

/-- The text of an event. -/
def message : LogEvent → String
  | identityKnown _ _ => "directory identity already linked"
  | identityReplaced _ _ _ => "replacing provider identity linked to the same email"
  | linkedByEmail _ _ => "linked directory identity by email"
  | strangerRefused _ _ => "unknown directory user on private tenant"
  | registeredFromProfile _ _ => "registered user from directory profile"
  | userStored _ _ => "user registered"
  | identityStored _ _ => "provider identity attached"
  | credentialsMissing => "empty username or password"
  | providerReachable => "directory provider reachable"
  | unbindFailed _ _ => "unbind failed"
  | failure _ _ error => error.logMessage

/-- The fields of an event. -/
def fields : LogEvent → List (String × Json)
  | identityKnown provider user | linkedByEmail provider user
  | registeredFromProfile provider user | identityStored user provider =>
    [("provider", .string provider), ("user_id", user.json)]
  | identityReplaced provider user previousUid =>
    [("provider", .string provider), ("user_id", user.json), ("previous_uid", .string previousUid)]
  | strangerRefused provider tenant => [("provider", .string provider), ("tenant", tenant.json)]
  | userStored user tenant => [("user_id", user.json), ("tenant", tenant.json)]
  | credentialsMissing | providerReachable => []
  | unbindFailed url error => [("url", .string url), ("error", .string error.message)]
  | failure provider url error => error.logFields provider url

/-- An event as JSON. -/
def json (event : LogEvent) : Json :=
  .object [
    ("level", .string event.level.name),
    ("message", .string event.message),
    ("fields", .object event.fields)]

/-- A failure at the lowest level is reported without the URL. -/
theorem failure_fields_of_lookup {provider url other : String} {error : DirectoryError}
    (h : error.logLevel = .debug) :
    (failure provider url error).fields = (failure provider other error).fields := by
  cases error <;> simp_all [DirectoryError.logLevel, fields, DirectoryError.logFields]

end LogEvent

end DirectorySignIn
