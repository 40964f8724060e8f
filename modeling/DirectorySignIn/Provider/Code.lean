import DirectorySignIn.Json.Decoder

/-!
# Stored codes

Status, protocol and search scope of a provider are stored as small numbers.  Each number is
looked up in the list of the known values, so that an unknown one is refused and never taken for
a neighbour.

Main results:

- `ofCode_code`: every value is found by its own code, for each of the three types.
-/

namespace DirectorySignIn

/-- The value with a given code among those listed. -/
def lookUpCode {α : Type} (what : String) (all : List α) (code : α → Nat) (n : Nat) :
    Except Error α :=
  match all.find? fun a => code a == n with
  | some a => .ok a
  | none => .error (.validation ("invalid " ++ what ++ " code: " ++ toString n))

/-- Decodes a natural number of one byte. -/
def decodeByte : Json.Decoder Nat := fun origin doc =>
  Json.Decoder.natural origin doc >>= fun n =>
    if n ≤ 255 then .ok n else Json.mismatched

/-! ## Status -/

/-- Whether users may sign in through a provider. -/
inductive ProviderStatus where
  | disabled
  | enabled
deriving DecidableEq

namespace ProviderStatus

/-- The stored code of a status. -/
def code : ProviderStatus → Nat
  | disabled => 1
  | enabled => 2

/-- The name of a status in diagnostics. -/
def name : ProviderStatus → String
  | disabled => "Disabled"
  | enabled => "Enabled"

/-- The status with a stored code. -/
def ofCode (n : Nat) : Except Error ProviderStatus :=
  lookUpCode "provider status" [disabled, enabled] code n

/-- A status is read from its code. -/
theorem ofCode_code (status : ProviderStatus) : ofCode status.code = .ok status := by
  cases status <;> rfl

/-- Decodes a status from its code. -/
def decode : Json.Decoder ProviderStatus :=
  Json.Decoder.refine decodeByte ofCode

/-- The code of a status as JSON. -/
def json (status : ProviderStatus) : Json := .number status.code

end ProviderStatus

/-! ## Protocol -/

/-- How the connection to a directory server is secured. -/
inductive Protocol where
  /-- No encryption. -/
  | plain
  /-- Encryption is negotiated after connecting. -/
  | startTls
  /-- The connection is encrypted from its start. -/
  | ldaps
deriving DecidableEq

namespace Protocol

/-- The stored code of a protocol. -/
def code : Protocol → Nat
  | plain => 1
  | startTls => 2
  | ldaps => 3

/-- The name of a protocol in diagnostics. -/
def name : Protocol → String
  | plain => "Plain"
  | startTls => "StartTls"
  | ldaps => "Ldaps"

/-- The URL scheme of a protocol. -/
def scheme : Protocol → String
  | plain | startTls => "ldap"
  | ldaps => "ldaps"

/-- The protocol with a stored code. -/
def ofCode (n : Nat) : Except Error Protocol :=
  lookUpCode "protocol" [plain, startTls, ldaps] code n

/-- A protocol is read from its code. -/
theorem ofCode_code (protocol : Protocol) : ofCode protocol.code = .ok protocol := by
  cases protocol <;> rfl

/-- Decodes a protocol from its code. -/
def decode : Json.Decoder Protocol :=
  Json.Decoder.refine decodeByte ofCode

/-- The code of a protocol as JSON. -/
def json (protocol : Protocol) : Json := .number protocol.code

end Protocol

/-! ## Search scope -/

/-- How far below its base a search reaches. -/
inductive SearchScope where
  | baseObject
  | singleLevel
  | wholeSubtree
deriving DecidableEq

namespace SearchScope

/-- The stored code of a scope. -/
def code : SearchScope → Nat
  | baseObject => 1
  | singleLevel => 2
  | wholeSubtree => 3

/-- The name of a scope in diagnostics. -/
def name : SearchScope → String
  | baseObject => "BaseObject"
  | singleLevel => "SingleLevel"
  | wholeSubtree => "WholeSubtree"

/-- The scope with a stored code. -/
def ofCode (n : Nat) : Except Error SearchScope :=
  lookUpCode "search scope" [baseObject, singleLevel, wholeSubtree] code n

/-- A scope of searches is read from its code. -/
theorem ofCode_code (scope : SearchScope) : ofCode scope.code = .ok scope := by
  cases scope <;> rfl

/-- Decodes a scope from its code. -/
def decode : Json.Decoder SearchScope :=
  Json.Decoder.refine decodeByte ofCode

/-- The code of a scope as JSON. -/
def json (scope : SearchScope) : Json := .number scope.code

end SearchScope

end DirectorySignIn
