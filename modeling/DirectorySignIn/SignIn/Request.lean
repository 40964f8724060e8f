import DirectorySignIn.Json.Record
import DirectorySignIn.Text.Quoted

/-!
# Sign-in requests

What was typed into a sign-in form.  No field may be left empty, and a form with several empty
fields is answered with the first one in the order of the form.  The password is never shown.

Main results:

- `check_eq_ok_iff`: a request passes if no field is empty.
- `describe_congr`: the diagnostic text does not depend on the password.
-/

namespace DirectorySignIn

/-- A submitted sign-in form. -/
structure SignInRequest where
  provider : String
  username : String
  password : String
deriving DecidableEq

namespace SignInRequest

/-! ## Empty fields -/

/-- The complaint about a field that is empty. -/
def complaintOf (label text : String) : List String :=
  if text = "" then [label ++ " is required."] else []

/-- The complaint about the username. -/
def usernameComplaint (request : SignInRequest) : List String :=
  complaintOf "Username" request.username

/-- The complaint about the password. -/
def passwordComplaint (request : SignInRequest) : List String :=
  complaintOf "Password" request.password

/-- The complaint about the provider. -/
def providerComplaint (request : SignInRequest) : List String :=
  complaintOf "Provider" request.provider

/-- All complaints, in the order in which a user fills in the form. -/
def complaints (request : SignInRequest) : List String :=
  request.usernameComplaint ++ request.passwordComplaint ++ request.providerComplaint

/-- Refuses a request with an empty field, naming the first. -/
def check (request : SignInRequest) : Except Error Unit :=
  match request.complaints with
  | [] => .ok ()
  | first :: _ => .error (.validation first)

/-- The error for a request that is looked at as any other form: it names the first empty field
in alphabetical order. -/
def formError? (request : SignInRequest) : Option Error :=
  (request.passwordComplaint ++ request.providerComplaint ++ request.usernameComplaint).head?.map
    .validation

/-- There is a complaint about a field exactly if it is empty. -/
theorem complaintOf_eq_nil_iff (label text : String) : complaintOf label text = [] ↔ text ≠ "" := by
  simp [complaintOf]

/-- A request passes its check exactly if no field of it is empty. -/
theorem check_eq_ok_iff (request : SignInRequest) :
    request.check = .ok () ↔
      request.username ≠ "" ∧ request.password ≠ "" ∧ request.provider ≠ "" := by
  have complete : request.complaints = [] ↔
      request.username ≠ "" ∧ request.password ≠ "" ∧ request.provider ≠ "" := by
    simp [complaints, usernameComplaint, passwordComplaint, providerComplaint,
      complaintOf_eq_nil_iff]
  rw [← complete]
  unfold check
  split <;> simp_all

/-! ## Documents and diagnostics -/

/-- The fields of a request in a document. -/
def fields : Json.Fields [String, String, String] :=
  .cons (Json.optional "provider" Json.Decoder.text "") <|
  .cons (Json.optional "username" Json.Decoder.text "") <|
  .cons (Json.optional "password" Json.Decoder.text "") .nil

/-- Decodes a request. -/
def decode : Json.Decoder SignInRequest := fun origin doc => do
  let (provider, username, password, ()) ← fields.decode origin doc
  return { provider, username, password }

/-- A request as JSON. -/
def json (request : SignInRequest) : Json :=
  .object [
    ("provider", .string request.provider),
    ("username", .string request.username),
    ("password", .string request.password)]

/-- The diagnostic text of a request, its password redacted. -/
def describe (request : SignInRequest) : String :=
  Text.describeRecord "SignInRequest" [
    ("provider", Text.quote request.provider),
    ("username", Text.quote request.username),
    ("password", Text.quote "[REDACTED]")]

/-- A request is described without its password. -/
theorem describe_congr {request other : SignInRequest} (provider : request.provider = other.provider)
    (username : request.username = other.username) : request.describe = other.describe := by
  simp [describe, provider, username]

end SignInRequest

end DirectorySignIn
