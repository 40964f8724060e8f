import DirectorySignIn.Error
import DirectorySignIn.Json.Value

/-!
# Error responses

The document by which an error is answered: its code and its text, and the id of the request if
the request has one.
-/

namespace DirectorySignIn

/-- What is answered for an error. -/
structure ErrorResponse where
  code : String
  message : String
  requestId : Option String
deriving DecidableEq

namespace ErrorResponse

/-- The response to an error. -/
def ofError (error : Error) (requestId : Option String) : ErrorResponse :=
  { code := error.code, message := error.message, requestId }

/-- The member for the id of the request, which is left out if there is none. -/
def requestIdMember : Option String → List (String × Json)
  | some id => [("request_id", .string id)]
  | none => []

/-- A response as JSON. -/
def json (response : ErrorResponse) : Json :=
  .object (("error", .object [
    ("code", .string response.code),
    ("message", .string response.message)]) :: requestIdMember response.requestId)

end ErrorResponse

end DirectorySignIn
