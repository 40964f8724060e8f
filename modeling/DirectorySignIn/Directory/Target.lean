import DirectorySignIn.Directory.Error
import DirectorySignIn.Settings
import DirectorySignIn.Text.Blank
import DirectorySignIn.Url.Basic

/-!
# Connection targets

Where and how to connect to the directory of a provider.  The URL is built from the scheme of the
protocol, the host name and the port; a host name with a colon is put in brackets.
-/

namespace DirectorySignIn

/-- Where and how to connect to a directory. -/
structure Target where
  provider : String
  url : Url
  /-- Encryption is negotiated after connecting. -/
  startTls : Bool
  /-- The certificate of the server is checked. -/
  tlsVerify : Bool
  /-- The time limit of connecting, in milliseconds. -/
  connectTimeout : Nat
deriving DecidableEq

namespace Target

/-- A host name as it stands in a URL. -/
def bracket (host : String) : String :=
  if ':' ∈ host.toList ∧ host.toList.head? ≠ some '[' then "[" ++ host ++ "]" else host

/-- The text of the URL of a provider's directory, before it is read. -/
def rawUrl (config : ProviderConfig) : String :=
  config.protocol.scheme ++ "://" ++ bracket (Text.trim config.hostname) ++ ":" ++
    config.port.text

/-- The URL of a provider's directory. -/
def urlOf (config : ProviderConfig) : Except DirectoryError Url :=
  if Text.trim config.hostname = "" then .error (.invalidUrl "hostname is empty")
  else
    match Url.parse (rawUrl config) with
    | .ok url => .ok url
    | .error e => .error (.invalidUrl (rawUrl config ++ ": " ++ e.message))

/-- The target of a provider. -/
def ofConfig (config : ProviderConfig) (settings : Settings) : Except DirectoryError Target :=
  (urlOf config).map fun url =>
    { provider := config.provider
      url
      startTls := config.protocol == .startTls
      tlsVerify := config.certCheck
      connectTimeout := settings.connectTimeout }

/-- The same target with another time limit of connecting. -/
def withConnectTimeout (target : Target) (milliseconds : Nat) : Target :=
  { target with connectTimeout := milliseconds }

end Target

/-- The public error for a text that is no URL. -/
def UrlError.toPublic (error : UrlError) : Error :=
  .configuration ("invalid directory URL: " ++ error.message)

end DirectorySignIn
