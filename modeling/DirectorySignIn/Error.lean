/-!
# Public errors

What an operation reports to its caller.  The causes are coarse on purpose: what a directory
server said stays in the log, and no error carries a host name or a distinguished name.
-/

namespace DirectorySignIn

/-- Why an operation failed, as its caller is told. -/
inductive Error where
  /-- The tenant has no provider of this key. -/
  | configurationNotFound (provider : String)
  /-- The directory of this provider could not be reached in time. -/
  | connectionFailed (provider : String)
  /-- The credentials were not accepted. -/
  | invalidCredentials
  /-- A private tenant does not know the user. -/
  | notInvited
  /-- An account could not be written. -/
  | persistenceFailure (detail : String)
  /-- An input is out of its form. -/
  | validation (detail : String)
  /-- The service was set up wrongly. -/
  | configuration (detail : String)
  /-- A store could not be read. -/
  | store (detail : String)
deriving DecidableEq, Inhabited

/-- How a caller that speaks HTTP would classify an error. -/
inductive StatusClass where
  | badRequest
  | notFound
  | gatewayTimeout
  | redirect
  | internal
deriving DecidableEq

/-- The name of a status class. -/
def StatusClass.name : StatusClass → String
  | badRequest => "bad_request"
  | notFound => "not_found"
  | gatewayTimeout => "gateway_timeout"
  | redirect => "redirect"
  | internal => "internal"

namespace Error

/-- The text of an error. -/
def message : Error → String
  | configurationNotFound provider => "Provider configuration not found: " ++ provider
  | connectionFailed provider => "Could not connect to directory provider: " ++ provider
  | invalidCredentials => "Username or password is invalid."
  | notInvited => "User is not invited to this tenant"
  | persistenceFailure detail => "Persistence failure: " ++ detail
  | validation detail => "Validation error: " ++ detail
  | configuration detail => "Configuration error: " ++ detail
  | store detail => "Store error: " ++ detail

/-- The stable code of an error. -/
def code : Error → String
  | configurationNotFound _ => "CONFIGURATION_NOT_FOUND"
  | connectionFailed _ => "CONNECTION_FAILED"
  | invalidCredentials => "INVALID_CREDENTIALS"
  | notInvited => "NOT_INVITED"
  | persistenceFailure _ => "PERSISTENCE_FAILURE"
  | validation _ => "VALIDATION_ERROR"
  | configuration _ => "CONFIG_ERROR"
  | store _ => "STORE_ERROR"

/-- The status class of an error. -/
def statusClass : Error → StatusClass
  | configurationNotFound _ => .notFound
  | invalidCredentials | validation _ => .badRequest
  | connectionFailed _ => .gatewayTimeout
  | notInvited => .redirect
  | persistenceFailure _ | configuration _ | store _ => .internal

/-- Whether the same request may succeed later. -/
def isRetryable : Error → Bool
  | connectionFailed _ => true
  | _ => false

/-- Whether the error is the operator's concern and not the user's. -/
def isOperational (error : Error) : Bool :=
  error.statusClass == .internal

/-- Only an unreachable directory is worth another attempt. -/
theorem isRetryable_iff (error : Error) :
    error.isRetryable = true ↔ ∃ provider, error = connectionFailed provider := by
  cases error <;> simp [isRetryable]

end Error

end DirectorySignIn
