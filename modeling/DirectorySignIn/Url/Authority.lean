import DirectorySignIn.Url.Host

/-!
# Authorities

The part of a URL between the two slashes and its path: a user name and a password before the
last `@`, a host, and a port.
-/

namespace DirectorySignIn

/-- What the scheme of a URL says about its form. -/
inductive SchemeKind where
  /-- A scheme of the web, with its usual port. -/
  | web (usualPort : Nat)
  /-- Local files. -/
  | file
  /-- Any other scheme. -/
  | other
deriving DecidableEq

namespace SchemeKind

/-- The kind of a scheme. -/
def ofScheme (scheme : String) : SchemeKind :=
  if scheme = "http" ∨ scheme = "ws" then web 80
  else if scheme = "https" ∨ scheme = "wss" then web 443
  else if scheme = "ftp" then web 21
  else if scheme = "file" then file
  else other

/-- Whether a backslash separates like a slash. -/
def takesBackslash (kind : SchemeKind) : Bool :=
  kind != other

/-- Whether a character separates the parts of a path. -/
def isSlash (kind : SchemeKind) (c : Char) : Bool :=
  c == '/' || (c == '\\' && kind.takesBackslash)

/-- Whether a character ends an authority. -/
def endsAuthority (kind : SchemeKind) (c : Char) : Bool :=
  kind.isSlash c || c == '?' || c == '#'

end SchemeKind

/-- The authority of a URL; an empty host is no host. -/
structure Authority where
  username : String
  password : Option String
  host : Option Host
  port : Option Nat
deriving DecidableEq

namespace Authority

/-- Whether a user name or a password is given. -/
def hasCredentials (authority : Authority) : Bool :=
  authority.username != "" || authority.password.isSome

/-! ## Credentials -/

/-- Whether a user name or a password holds a character in percent-encoded form. -/
def isCredentialEncoded (c : Char) : Bool :=
  Text.isControlOrForeign c ||
    [' ', '"', '<', '>', '\x60', '#', '?', '\x7b', '\x7d', '/', ':', ';', '=', '@', '[', '\\',
      ']', '^', '|'].contains c

/-- Credentials in percent-encoded form. -/
def encodeCredential (cs : List Char) : String :=
  .ofList (Text.percentEncode isCredentialEncoded cs)

/-- The user name and the password before the last `@`; an empty password is none. -/
def credentials (cs : List Char) : String × Option String :=
  let password := (cs.dropWhile (· != ':')).drop 1
  (encodeCredential (cs.takeWhile (· != ':')),
    if password.isEmpty then none else some (encodeCredential password))

/-- Splits what stands before the last `@` of the authority from what follows it. -/
def splitCredentials (kind : SchemeKind) (cs : List Char) : Option (List Char × List Char) :=
  let region := cs.takeWhile (!kind.endsAuthority ·)
  (Punycode.splitLast? '@' region).map fun (before, after) =>
    (before, after ++ cs.dropWhile (!kind.endsAuthority ·))

/-! ## Host and port -/

/-- Splits the host from what follows it.  A colon inside of brackets belongs to the host. -/
def splitHost (kind : SchemeKind) (inBrackets : Bool) : List Char → List Char × List Char
  | [] => ([], [])
  | c :: rest =>
    if (c == ':' && !inBrackets) || kind.endsAuthority c then ([], c :: rest)
    else
      let inBrackets := if c == '[' then true else if c == ']' then false else inBrackets
      let (host, rest) := splitHost kind inBrackets rest
      (c :: host, rest)

/-- Reads a host; `none` for the empty one, which the schemes of the web do not have. -/
def parseHost (kind : SchemeKind) (cs : List Char) : Except UrlError (Option Host) :=
  if cs.isEmpty then
    match kind with
    | .web _ => .error .emptyHost
    | _ => .ok none
  else
    match kind with
    | .other => (Host.parsePlain cs).map some
    | _ => (Host.parseWeb cs).map some

/-- Reads the digits of a port, after which the authority has to end.  The usual port of a scheme
is not kept. -/
def parsePort (kind : SchemeKind) (cs : List Char) : Except UrlError (Option Nat × List Char) :=
  let digits := cs.takeWhile Char.isDigit
  let rest := cs.dropWhile Char.isDigit
  let number := Nat.ofDigitChars 10 digits 0
  let ends := (rest.take 1).all fun c => c == '/' || c == '\\' || c == '?' || c == '#'
  if 65535 < number ∨ !ends then .error .badPort
  else
    let isUsual := match kind with
      | .web usual => number == usual
      | _ => false
    .ok (if digits.isEmpty || isUsual then none else some number, rest)

/-- Reads a host and, after a colon, a port. -/
def parseEndpoint (kind : SchemeKind) (username : String) (password : Option String)
    (cs : List Char) : Except UrlError (Authority × List Char) := do
  let (host, rest) := splitHost kind false cs
  let host ← parseHost kind host
  match rest with
  | ':' :: rest =>
    if host.isNone then throw .emptyHost
    let (port, rest) ← parsePort kind rest
    return (⟨username, password, host, port⟩, rest)
  | rest =>
    if host.isNone && (username != "" || password.isSome) then throw .emptyHost
    return (⟨username, password, host, none⟩, rest)

/-- Reads an authority and returns what follows it. -/
def parse (kind : SchemeKind) (cs : List Char) : Except UrlError (Authority × List Char) :=
  match splitCredentials kind cs with
  | none => parseEndpoint kind "" none cs
  | some ([], rest) =>
    if rest.head?.any kind.endsAuthority then .error .emptyHost
    else parseEndpoint kind "" none rest
  | some (userinfo, rest) =>
    let (username, password) := credentials userinfo
    parseEndpoint kind username password rest

/-- The text of an authority. -/
def text (authority : Authority) : String :=
  let credentials :=
    if authority.hasCredentials then
      authority.username ++ (authority.password.elim "" (":" ++ ·)) ++ "@"
    else ""
  credentials ++ authority.host.elim "" Host.text ++
    authority.port.elim "" fun n => ":" ++ toString n

end Authority

end DirectorySignIn
