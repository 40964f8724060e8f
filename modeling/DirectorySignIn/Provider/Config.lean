import DirectorySignIn.Json.Record
import DirectorySignIn.Provider.Code
import DirectorySignIn.Provider.Port
import DirectorySignIn.Text.Quoted

/-!
# Provider configurations

What an operator has stored about one directory: where it is, how to bind to it, and where and
how to look for a user.  The password of the service account is a secret: neither the JSON nor
the diagnostic text of a configuration shows it.
-/

namespace DirectorySignIn

/-- A text that is shown nowhere. -/
structure Secret where
  reveal : String
deriving DecidableEq

namespace Secret

/-- What is shown in place of a secret. -/
def redacted : String := "password will remain secret"

/-- Decodes a secret from its text. -/
def decode : Json.Decoder Secret := fun origin doc =>
  (Json.Decoder.text origin doc).map mk

end Secret

/-- The configuration of one directory of a tenant. -/
structure ProviderConfig where
  id : UInt64
  /-- The key by which users and links name the provider. -/
  provider : String
  displayName : String
  status : ProviderStatus
  protocol : Protocol
  /-- Whether the certificate of the server is checked. -/
  certCheck : Bool
  hostname : String
  port : Port
  /-- The distinguished name of the service account. -/
  bindUsername : String
  bindPassword : Secret
  /-- The entry below which users are searched. -/
  rootDn : String
  scope : SearchScope
  /-- A filter that every user has to meet. -/
  userSearchFilter : String
  usernameAttribute : String
  nameAttribute : String
  mailAttribute : String
deriving DecidableEq

/-- What a sign-in page or an administrator is shown of a provider. -/
structure ProviderOption where
  provider : String
  displayName : String
  isEnabled : Bool
deriving DecidableEq

namespace ProviderOption

/-- The fields of an option in a document. -/
def fields : Json.Fields [String, String, Bool] :=
  .cons (Json.required "provider" Json.Decoder.text) <|
  .cons (Json.required "displayName" Json.Decoder.text) <|
  .cons (Json.required "isEnabled" Json.Decoder.bool) .nil

/-- Decodes an option. -/
def decode : Json.Decoder ProviderOption := fun origin doc => do
  let (provider, displayName, isEnabled, ()) ← fields.decode origin doc
  return ⟨provider, displayName, isEnabled⟩

/-- An option as JSON. -/
def json (option : ProviderOption) : Json :=
  .object [
    ("provider", .string option.provider),
    ("displayName", .string option.displayName),
    ("isEnabled", .bool option.isEnabled)]

end ProviderOption

namespace ProviderConfig

/-- Whether users may sign in through the provider. -/
def isEnabled (config : ProviderConfig) : Bool :=
  config.status == .enabled

/-- The attributes that a profile is made of: username, name and mail. -/
def profileAttributes (config : ProviderConfig) : List String :=
  [config.usernameAttribute, config.nameAttribute, config.mailAttribute]

/-- What is shown of a configuration. -/
def option (config : ProviderConfig) : ProviderOption :=
  ⟨config.provider, config.displayName, config.isEnabled⟩

/-- A copy of a configuration, made field by field.  The password is copied too. -/
def copy (config : ProviderConfig) : ProviderConfig where
  id := config.id
  provider := config.provider
  displayName := config.displayName
  status := config.status
  protocol := config.protocol
  certCheck := config.certCheck
  hostname := config.hostname
  port := config.port
  bindUsername := config.bindUsername
  bindPassword := ⟨config.bindPassword.reveal⟩
  rootDn := config.rootDn
  scope := config.scope
  userSearchFilter := config.userSearchFilter
  usernameAttribute := config.usernameAttribute
  nameAttribute := config.nameAttribute
  mailAttribute := config.mailAttribute

/-! ## Documents -/

/-- Decodes a number of 64 bits. -/
def decodeWord : Json.Decoder UInt64 := fun origin doc =>
  (Json.Decoder.natural origin doc).map UInt64.ofNat

/-- The fields of a configuration in a document. -/
def fields : Json.Fields [UInt64, String, String, ProviderStatus, Protocol, Bool, String, Port,
    String, Secret, String, SearchScope, String, String, String, String] :=
  .cons (Json.required "id" decodeWord) <|
  .cons (Json.required "provider" Json.Decoder.text) <|
  .cons (Json.required "displayName" Json.Decoder.text) <|
  .cons (Json.required "status" ProviderStatus.decode) <|
  .cons (Json.required "protocol" Protocol.decode) <|
  .cons (Json.required "certCheck" Json.Decoder.bool) <|
  .cons (Json.required "hostname" Json.Decoder.text) <|
  .cons (Json.required "port" Port.decode) <|
  .cons (Json.required "bindUsername" Json.Decoder.text) <|
  .cons (Json.required "bindPassword" Secret.decode) <|
  .cons (Json.required "rootDN" Json.Decoder.text) <|
  .cons (Json.required "scope" SearchScope.decode) <|
  .cons (Json.required "userSearchFilter" Json.Decoder.text) <|
  .cons (Json.required "usernameLdapAttribute" Json.Decoder.text) <|
  .cons (Json.required "nameLdapAttribute" Json.Decoder.text) <|
  .cons (Json.required "mailLdapAttribute" Json.Decoder.text) .nil

/-- Decodes a configuration. -/
def decode : Json.Decoder ProviderConfig := fun origin doc => do
  let (id, provider, displayName, status, protocol, certCheck, hostname, port, bindUsername,
    bindPassword, rootDn, scope, userSearchFilter, usernameAttribute, nameAttribute,
    mailAttribute, ()) ← fields.decode origin doc
  return ⟨id, provider, displayName, status, protocol, certCheck, hostname, port, bindUsername,
    bindPassword, rootDn, scope, userSearchFilter, usernameAttribute, nameAttribute,
    mailAttribute⟩

/-- A configuration as JSON, its password redacted. -/
def json (config : ProviderConfig) : Json :=
  .object [
    ("id", .number config.id.toNat),
    ("provider", .string config.provider),
    ("displayName", .string config.displayName),
    ("status", config.status.json),
    ("protocol", config.protocol.json),
    ("certCheck", .bool config.certCheck),
    ("hostname", .string config.hostname),
    ("port", config.port.json),
    ("bindUsername", .string config.bindUsername),
    ("bindPassword", .string Secret.redacted),
    ("rootDN", .string config.rootDn),
    ("scope", config.scope.json),
    ("userSearchFilter", .string config.userSearchFilter),
    ("usernameLdapAttribute", .string config.usernameAttribute),
    ("nameLdapAttribute", .string config.nameAttribute),
    ("mailLdapAttribute", .string config.mailAttribute)]

/-! ## Diagnostics -/

/-- The diagnostic text of a configuration, its password redacted. -/
def describe (config : ProviderConfig) : String :=
  Text.describeRecord "ProviderConfig" [
    ("id", toString config.id.toNat),
    ("provider", Text.quote config.provider),
    ("display_name", Text.quote config.displayName),
    ("status", config.status.name),
    ("protocol", config.protocol.name),
    ("cert_check", toString config.certCheck),
    ("hostname", Text.quote config.hostname),
    ("port", config.port.text),
    ("bind_username", Text.quote config.bindUsername),
    ("bind_password", Text.quote Secret.redacted),
    ("root_dn", Text.quote config.rootDn),
    ("scope", config.scope.name),
    ("user_search_filter", Text.quote config.userSearchFilter),
    ("username_attribute", Text.quote config.usernameAttribute),
    ("name_attribute", Text.quote config.nameAttribute),
    ("mail_attribute", Text.quote config.mailAttribute)]

end ProviderConfig

end DirectorySignIn
