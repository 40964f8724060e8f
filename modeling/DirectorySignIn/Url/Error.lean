/-!
# What is wrong with a URL

The reasons for refusing a text as a URL, with their wording.
-/

namespace DirectorySignIn

/-- Why a text is no URL. -/
inductive UrlError where
  | noScheme
  | emptyHost
  /-- The name of a web host cannot be looked up. -/
  | badDomainName
  /-- The name of a host holds a character that separates or confuses. -/
  | badHostCharacter
  | badIpv4Address
  | badIpv6Address
  | badPort
deriving DecidableEq

/-- The text of a URL error. -/
def UrlError.message : UrlError → String
  | noScheme => "relative URL without a base"
  | emptyHost => "empty host"
  | badDomainName => "invalid international domain name"
  | badHostCharacter => "invalid domain character"
  | badIpv4Address => "invalid IPv4 address"
  | badIpv6Address => "invalid IPv6 address"
  | badPort => "invalid port number"

end DirectorySignIn
