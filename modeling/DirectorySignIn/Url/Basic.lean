import DirectorySignIn.Url.Authority

/-!
# URLs

Reading a text as a URL and writing a URL.  Tabs and line ends inside the text are dropped, and
so are control characters and spaces around it.  A path loses its segments of one and two dots;
path, query and fragment are percent-encoded where they have to be.

Main definitions:

- `Url.parse` reads a URL of any scheme;
- `Url.text` is the text of a URL.
-/

namespace DirectorySignIn

/-- A URL by its parts. -/
structure Url where
  scheme : String
  authority : Option Authority
  path : String
  query : Option String
  fragment : Option String
deriving DecidableEq

namespace Url

/-! ## Scheme -/

/-- Whether a character may stand in a scheme behind its first letter. -/
def isSchemeChar (c : Char) : Bool :=
  c.isAlphanum || c == '+' || c == '-' || c == '.'

/-- Splits the scheme, in small letters, from what follows its colon. -/
def splitScheme (cs : List Char) : Except UrlError (String × List Char) :=
  match cs.takeWhile isSchemeChar, cs.dropWhile isSchemeChar with
  | c :: scheme, ':' :: rest =>
    if c.isAlpha then .ok (.ofList ((c :: scheme).map Char.toLower), rest) else .error .noScheme
  | _, _ => .error .noScheme

/-! ## Path -/

/-- Whether a path holds a character in percent-encoded form. -/
def isPathEncoded (c : Char) : Bool :=
  Text.isControlOrForeign c ||
    [' ', '"', '<', '>', '\x60', '#', '?', '\x7b', '\x7d'].contains c

/-- A segment with its encoded dots decoded. -/
def decodeDots : List Char → List Char
  | '%' :: '2' :: 'e' :: rest | '%' :: '2' :: 'E' :: rest => '.' :: decodeDots rest
  | c :: rest => c :: decodeDots rest
  | [] => []

/-- Whether a segment is the letter of a drive.  Going up does not remove it. -/
def isDrive : List Char → Bool
  | [c, mark] => c.isAlpha && (mark == ':' || mark == '|')
  | _ => false

/-- The segments that are left after going up from the last one, which comes first. -/
def goUp : List (List Char) → List (List Char)
  | [] => []
  | last :: rest => if isDrive last then last :: rest else rest

/-- Resolves segments of dots.  The segments before come in reverse order; the result is in
reverse order too and starts with the last segment of the path. -/
def resolveDots (before : List (List Char)) : List (List Char) → List (List Char)
  | [] => before
  | [last] =>
    if decodeDots last = ['.', '.'] then [] :: goUp before
    else if decodeDots last = ['.'] then [] :: before
    else last :: before
  | segment :: rest =>
    if decodeDots segment = ['.', '.'] then resolveDots (goUp before) rest
    else if decodeDots segment = ['.'] then resolveDots before rest
    else resolveDots (segment :: before) rest

/-- A path, which starts with a slash unless there is none at all. -/
def parsePath (kind : SchemeKind) (cs : List Char) : String :=
  let slashed := cs.map fun c => if kind.isSlash c then '/' else c
  match slashed with
  | [] => if kind.takesBackslash then "/" else ""
  | c :: rest =>
    let segments := Text.splitAt '/' (if c = '/' then rest else c :: rest)
    let resolved := resolveDots [] (segments.map (Text.percentEncode isPathEncoded))
    .ofList (resolved.reverse.flatMap ('/' :: ·))

/-! ## Query and fragment -/

/-- Whether a query holds a character in percent-encoded form. -/
def isQueryEncoded (kind : SchemeKind) (c : Char) : Bool :=
  Text.isControlOrForeign c || [' ', '"', '#', '<', '>'].contains c ||
    (c == '\'' && kind.takesBackslash)

/-- Whether a fragment holds a character in percent-encoded form. -/
def isFragmentEncoded (c : Char) : Bool :=
  Text.isControlOrForeign c || [' ', '"', '<', '>', '\x60'].contains c

/-- Reads the path, the query and the fragment of a URL. -/
def parseRest (kind : SchemeKind) (scheme : String) (authority : Option Authority)
    (path : List Char → String) (cs : List Char) : Url :=
  let beforeFragment := cs.takeWhile (· != '#')
  let fragment := (cs.dropWhile (· != '#')).tail?
  let query := (beforeFragment.dropWhile (· != '?')).tail?
  { scheme
    authority
    path := path (beforeFragment.takeWhile (· != '?'))
    query := query.map fun q => .ofList (Text.percentEncode (isQueryEncoded kind) q)
    fragment := fragment.map fun f => .ofList (Text.percentEncode isFragmentEncoded f) }

/-! ## URLs of each kind -/

/-- Reads a URL of the web after its scheme.  Any number of slashes is as good as two. -/
def parseWeb (kind : SchemeKind) (scheme : String) (cs : List Char) : Except UrlError Url := do
  let (authority, rest) ← Authority.parse kind (cs.dropWhile kind.isSlash)
  return parseRest kind scheme (some authority) (parsePath kind) rest

/-- Reads the URL of a file after its scheme.  A drive and the name of this computer are no
host. -/
def parseFile (scheme : String) (cs : List Char) : Except UrlError Url := do
  let slashes := (cs.take 2).takeWhile SchemeKind.file.isSlash
  if slashes.length = 2 then
    let afterSlashes := cs.drop 2
    let host := afterSlashes.takeWhile (!SchemeKind.file.endsAuthority ·)
    if isDrive host then
      return parseRest .file scheme (some ⟨"", none, none, none⟩) (parsePath .file) afterSlashes
    else
      let host ← Authority.parseHost .file host
      let host := if host = some (.name "localhost") then none else host
      return parseRest .file scheme (some ⟨"", none, host, none⟩) (parsePath .file)
        (afterSlashes.dropWhile (!SchemeKind.file.endsAuthority ·))
  else
    return parseRest .file scheme (some ⟨"", none, none, none⟩) (parsePath .file) cs

/-- Reads a URL of any other scheme after the scheme. -/
def parseOther (scheme : String) (cs : List Char) : Except UrlError Url :=
  match cs with
  | '/' :: '/' :: rest => do
    let (authority, rest) ← Authority.parse .other rest
    return parseRest .other scheme (some authority) (parsePath .other) rest
  | '/' :: rest => .ok (parseRest .other scheme none (parsePath .other) ('/' :: rest))
  | cs =>
    .ok (parseRest .other scheme none
      (fun path => .ofList (Text.percentEncode Text.isControlOrForeign path)) cs)

/-- Whether a character is dropped around a URL. -/
def isDroppedAround (c : Char) : Bool :=
  c.toNat ≤ 0x20

/-- Whether a character is dropped inside of a URL. -/
def isDroppedInside (c : Char) : Bool :=
  c == '\t' || c == '\n' || c == '\r'

/-- The characters of a text that count when it is read as a URL. -/
def strip (cs : List Char) : List Char :=
  (((cs.dropWhile isDroppedAround).reverse.dropWhile isDroppedAround).reverse).filter
    (!isDroppedInside ·)

/-- Reads a URL. -/
def parse (input : String) : Except UrlError Url := do
  let (scheme, rest) ← splitScheme (strip input.toList)
  match SchemeKind.ofScheme scheme with
  | .web port => parseWeb (.web port) scheme rest
  | .file => parseFile scheme rest
  | .other => parseOther scheme rest

/-! ## Writing -/

/-- The text of a URL. -/
def text (url : Url) : String :=
  url.scheme ++ ":" ++ url.authority.elim "" (fun a => "//" ++ a.text) ++ url.path ++
    url.query.elim "" ("?" ++ ·) ++ url.fragment.elim "" ("#" ++ ·)

/-- The host of a URL. -/
def host (url : Url) : Option Host :=
  url.authority.bind (·.host)

/-- The port of a URL. -/
def port (url : Url) : Option Nat :=
  url.authority.bind (·.port)

end Url

end DirectorySignIn
