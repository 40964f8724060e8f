import DirectorySignIn.Json.Record
import DirectorySignIn.Provider.Config

/-!
# Settings

How long connecting to a directory and each further call on it may take.  A service accepts only
settings within fixed bounds.
-/

namespace DirectorySignIn

/-- The time limits of directory calls. -/
structure Settings where
  connectTimeoutSecs : UInt64 := 5
  operationTimeoutSecs : UInt64 := 10
deriving DecidableEq

namespace Settings

/-- The settings of a service that was told nothing else. -/
def standard : Settings := {}

/-- The time limit of connecting, in milliseconds. -/
def connectTimeout (settings : Settings) : Nat :=
  settings.connectTimeoutSecs.toNat * 1000

/-- The time limit of a call, in milliseconds. -/
def operationTimeout (settings : Settings) : Nat :=
  settings.operationTimeoutSecs.toNat * 1000

/-! ## Bounds -/

/-- The fields that are out of bounds, by name: connecting has 1 to 60 seconds, a call 1 to 300. -/
def violations (settings : Settings) : List String :=
  (if 1 ≤ settings.connectTimeoutSecs ∧ settings.connectTimeoutSecs ≤ 60 then []
    else ["connect_timeout_secs"]) ++
  (if 1 ≤ settings.operationTimeoutSecs ∧ settings.operationTimeoutSecs ≤ 300 then []
    else ["operation_timeout_secs"])

/-- Refuses settings that are out of bounds. -/
def ensureValid (settings : Settings) : Except Error Unit :=
  match settings.violations with
  | [] => .ok ()
  | names =>
    .error (.configuration ("Invalid directory settings: " ++ String.intercalate ", " names))

/-- The error for settings that were sent in as a form. -/
def formError? (settings : Settings) : Option Error :=
  match settings.violations with
  | [] => none
  | names => some (.validation (String.intercalate ", " names))

/-! ## Documents -/

/-- The fields of settings in a document. -/
def fields : Json.Fields [UInt64, UInt64] :=
  .cons (Json.optional "connect_timeout_secs" ProviderConfig.decodeWord
    standard.connectTimeoutSecs) <|
  .cons (Json.optional "operation_timeout_secs" ProviderConfig.decodeWord
    standard.operationTimeoutSecs) .nil

/-- Decodes settings. -/
def decode : Json.Decoder Settings := fun origin doc => do
  let (connectTimeoutSecs, operationTimeoutSecs, ()) ← fields.decode origin doc
  return { connectTimeoutSecs, operationTimeoutSecs }

/-- Settings as JSON. -/
def json (settings : Settings) : Json :=
  .object [
    ("connect_timeout_secs", .number settings.connectTimeoutSecs.toNat),
    ("operation_timeout_secs", .number settings.operationTimeoutSecs.toNat)]

end Settings

end DirectorySignIn
