import DirectorySignIn.Error

/-!
# Directory errors

What went wrong between the service and a directory server, with the detail that an operator
needs.  These errors are logged and then reduced to public ones.

Main results:

- `toPublic_eq`: the public error depends on nothing but the kind of failure and the provider.
- `atServiceBind_ne_bind`, `atUserBind_ne_bind`: after relabelling no rejected bind is left whose
  purpose is unknown.
-/

namespace DirectorySignIn

/-- Why a step on a directory failed. -/
inductive DirectoryError where
  | invalidUrl (detail : String)
  | dial (detail : String)
  | startTls (detail : String)
  | transport (detail : String)
  | tls (detail : String)
  /-- A bind was rejected, for whichever account. -/
  | bind (detail : String)
  /-- The service account was rejected. -/
  | serviceBind (detail : String)
  | search (detail : String)
  /-- Not exactly one entry was found for a user. -/
  | userNotFound (matchCount : Nat)
  /-- The user's own password was rejected. -/
  | userBind (detail : String)
  | timeout (operation : String)
  | deadline
  | protocol (detail : String)
deriving DecidableEq, Inhabited

namespace DirectoryError

/-- The text of a directory error. -/
def message : DirectoryError → String
  | invalidUrl detail => "invalid directory URL: " ++ detail
  | dial detail => "dial failed: " ++ detail
  | startTls detail => "STARTTLS negotiation failed: " ++ detail
  | transport detail => "connection lost: " ++ detail
  | tls detail => "TLS setup failed: " ++ detail
  | bind detail => "bind rejected: " ++ detail
  | serviceBind detail => "service bind rejected: " ++ detail
  | search detail => "search failed: " ++ detail
  | userNotFound matchCount =>
    "expected one directory entry, found " ++ toString matchCount
  | userBind detail => "user bind rejected: " ++ detail
  | timeout operation => operation ++ " timed out"
  | deadline => "request deadline exceeded"
  | protocol detail => "directory protocol error: " ++ detail

/-- The stage at which an error arose. -/
def stage : DirectoryError → String
  | invalidUrl _ | dial _ => "dial"
  | startTls _ => "starttls"
  | tls _ => "tls"
  | transport _ => "transport"
  | bind _ => "bind"
  | serviceBind _ => "service_bind"
  | search _ => "search"
  | userNotFound _ => "user_lookup"
  | userBind _ => "user_bind"
  | timeout _ => "timeout"
  | deadline => "deadline"
  | protocol _ => "protocol"

/-- Whether the directory could not be reached in time. -/
def isConnectionFailure : DirectoryError → Bool
  | invalidUrl _ | dial _ | startTls _ | tls _ | transport _ | timeout _ | deadline => true
  | _ => false

/-! ## Relabelling -/

/-- A rejected bind, known to be the one of the service account. -/
def atServiceBind : DirectoryError → DirectoryError
  | bind detail => serviceBind detail
  | error => error

/-- A rejected bind, known to be the one of the user. -/
def atUserBind : DirectoryError → DirectoryError
  | bind detail => userBind detail
  | error => error

/-- An error at the bind of the service account says whose bind was rejected. -/
theorem atServiceBind_ne_bind (error : DirectoryError) (detail : String) :
    error.atServiceBind ≠ bind detail := by
  cases error <;> simp [atServiceBind]

/-- An error at the bind of a user says whose bind was rejected. -/
theorem atUserBind_ne_bind (error : DirectoryError) (detail : String) :
    error.atUserBind ≠ bind detail := by
  cases error <;> simp [atUserBind]

/-! ## Public errors -/

/-- The public error of a failed sign-in step. -/
def toPublic (error : DirectoryError) (provider : String) : Error :=
  if error.isConnectionFailure then .connectionFailed provider else .invalidCredentials

/-- The public error of a failed check of a provider: a rejected service account and a broken
protocol count as a failed connection too. -/
def toCheckFailure (error : DirectoryError) (provider : String) : Error :=
  match error with
  | bind _ | serviceBind _ | protocol _ => .connectionFailed provider
  | error => error.toPublic provider

/-- In public a directory is out of reach or the credentials are invalid; there is nothing else. -/
theorem toPublic_eq (error : DirectoryError) (provider : String) :
    error.toPublic provider = .connectionFailed provider ∨
      error.toPublic provider = .invalidCredentials := by
  unfold toPublic
  split
  · exact .inl rfl
  · exact .inr rfl

end DirectoryError

end DirectorySignIn
