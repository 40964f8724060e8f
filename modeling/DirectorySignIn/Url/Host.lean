import DirectorySignIn.Text.Percent
import DirectorySignIn.Url.Domain
import DirectorySignIn.Url.Ipv6

/-!
# Hosts

A host is an IPv6 address in brackets, an IPv4 address, or a name.  For schemes of the web a name
is a domain and may be an IPv4 address.  For all other schemes a name is kept as it is, except
that its control characters and its characters outside of ASCII are percent-encoded.
-/

namespace DirectorySignIn

/-- The host of a URL. -/
inductive Host where
  | name (text : String)
  | ipv4 (address : Nat)
  | ipv6 (address : Ipv6)
deriving DecidableEq

namespace Host

/-- The four bytes of an IPv4 address with dots between them. -/
def ipv4Text (address : Nat) : String :=
  String.intercalate "." ([3, 2, 1, 0].map fun i => toString (address / Nat.pow 256 i % 256))

/-- The text of a host. -/
def text : Host → String
  | name text => text
  | ipv4 address => ipv4Text address
  | ipv6 address => "[" ++ address.text ++ "]"

/-- Whether a character cannot stand in a host name of a scheme that is none of the web's. -/
def isForbidden (c : Char) : Bool :=
  ['\x00', '\t', '\n', '\r', ' ', '#', '/', ':', '<', '>', '?', '@', '[', '\\', ']', '^',
    '|'].contains c

/-- Reads an address in brackets. -/
def parseBracketed (cs : List Char) : Except UrlError Host :=
  if cs.getLast? = some ']' then (Ipv6.parse (cs.drop 1).dropLast).map ipv6
  else .error .badIpv6Address

/-- Reads a host of a scheme that is none of the web's. -/
def parsePlain (cs : List Char) : Except UrlError Host :=
  if cs.head? = some '[' then parseBracketed cs
  else if cs.any isForbidden then .error .badHostCharacter
  else .ok (name (.ofList (Text.percentEncode Text.isControlOrForeign cs)))

/-- Reads a host of a scheme of the web. -/
def parseWeb (cs : List Char) : Except UrlError Host :=
  if cs.head? = some '[' then parseBracketed cs
  else
    match Domain.parse (Text.percentDecode cs) with
    | .error e => .error e
    | .ok [] => .error .emptyHost
    | .ok domain =>
      if Ipv4.endsInNumber domain then (Ipv4.parse domain).map ipv4
      else .ok (name (.ofList domain))

end Host

end DirectorySignIn
