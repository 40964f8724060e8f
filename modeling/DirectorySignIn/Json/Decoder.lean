import DirectorySignIn.Error
import DirectorySignIn.Json.Reader

/-!
# Decoding documents

A decoder takes a document apart in order of its text and reports the first thing that is wrong
with it, in the text or in its content.

Main definitions:

- `DecodeError`, with the content errors by cause and their messages;
- decoders for texts, natural numbers, truth values and lists;
- `decodeText`, which decodes a whole text.
-/

namespace DirectorySignIn.Json

/-- What is wrong with the content of a well-formed document. -/
inductive ContentError where
  /-- A value is of another kind or outside of its range. -/
  | mismatch
  /-- A member that has to be there is not. -/
  | missingField (name : String)
  /-- A member that is known is there twice. -/
  | duplicateField (name : String)
  /-- A name is none of the known ones. -/
  | unknownVariant (name : String) (known : List String)
  /-- A value is refused by the rule of its type. -/
  | refused (error : Error)
  /-- A port is given by a number outside of the range of ports. -/
  | invalidPort (number : Nat)
deriving DecidableEq

/-- Names in backticks with commas between them. -/
def quoteNames (names : List String) : String :=
  String.intercalate ", " (names.map fun name => "`" ++ name ++ "`")

/-- The wording of a content error; a mere mismatch has none that is the same for all decoders. -/
def ContentError.wording? : ContentError → Option String
  | .mismatch => none
  | .missingField name => some ("missing field `" ++ name ++ "`")
  | .duplicateField name => some ("duplicate field `" ++ name ++ "`")
  | .unknownVariant name known =>
    some ("unknown variant `" ++ name ++ "`, expected one of " ++ quoteNames known)
  | .refused error => some error.message
  | .invalidPort n => some ("invalid port: " ++ toString n)

/-- What comes before the number that ends a text, both from the end of the text backwards.  The
number has to fit into 64 bits. -/
def beforeNumber? (reversed : List Char) : Option (List Char) :=
  let digits := reversed.takeWhile Char.isDigit
  if !digits.isEmpty && Nat.ofDigitChars 10 digits.reverse 0 < 18446744073709551616 then
    some (reversed.dropWhile Char.isDigit)
  else none

/-- What comes before the position in a text that ends a message. -/
def beforePosition? (message : List Char) : Option (List Char) := do
  let rest ← beforeNumber? message.reverse
  let rest ← " column ".toList.reverse.isPrefixOf? rest
  let rest ← beforeNumber? rest
  let rest ← " at line ".toList.reverse.isPrefixOf? rest
  return rest.reverse

/-- A message without the position that ends it. -/
def withoutPosition (message : String) : String :=
  match beforePosition? message.toList with
  | some kept => .ofList kept
  | none => message

/-- The message of a content error.  A wording that ends like a position in the text is taken for
one that comes with its position, which is no part of the message. -/
def ContentError.message? (cause : ContentError) : Option String :=
  cause.wording?.map withoutPosition

/-- Why a document cannot be decoded. -/
inductive DecodeError where
  /-- The text is no JSON text. -/
  | text (fault : Fault)
  /-- The text is well-formed up to a content that does not fit. -/
  | content (cause : ContentError)
deriving DecidableEq

/-- Where a document comes from. -/
inductive Origin where
  /-- From a text, inside so many arrays and objects. -/
  | text (depth : Nat)
  /-- From a value that is complete already. -/
  | value
deriving DecidableEq

namespace Origin

/-- Inside one more array or object. -/
def inside : Origin → Origin
  | text depth => text (depth + 1)
  | value => value

/-- How many arrays and objects of a text may be nested in one another. -/
def maxDepth : Nat := 127

/-- How many more arrays and objects may be nested here, if that is limited. -/
def levelsLeft : Origin → Option Nat
  | text depth => some (maxDepth - depth)
  | value => none

end Origin

/-- A decoder for a type. -/
abbrev Decoder (α : Type) : Type :=
  Origin → Document → Except DecodeError α

/-- The outcome of reading a part of the text, as a step of decoding it. -/
def ofRead {α : Type} : Except Fault α → Except DecodeError α
  | .ok a => .ok a
  | .error fault => .error (.text fault)

/-- A content that does not fit. -/
def mismatched {α : Type} : Except DecodeError α :=
  .error (.content .mismatch)

/-- What decoding a value of another kind reports: what is wrong with its text if it is a single
word, number or string, and else that it does not fit. -/
def Document.unexpected {α : Type} : Document → Except DecodeError α
  | absent => .error (.text .truncated)
  | broken fault => .error (.text fault)
  | number numeral => ofRead numeral.read >>= fun _ => mismatched
  | string literal => ofRead literal.text >>= fun _ => mismatched
  | null | bool _ | array _ _ | object _ _ => mismatched

namespace Decoder

/-- Decodes a text. -/
def text : Decoder String := fun _ doc =>
  match doc with
  | .string literal => ofRead literal.text
  | doc => doc.unexpected

/-- Decodes a natural number of 64 bits. -/
def natural : Decoder Nat := fun _ doc =>
  match doc with
  | .number numeral =>
    ofRead numeral.read >>= fun
      | some n => .ok n
      | none => mismatched
  | doc => doc.unexpected

/-- Decodes a truth value. -/
def bool : Decoder Bool := fun _ doc =>
  match doc with
  | .bool b => .ok b
  | doc => doc.unexpected

/-- Decodes the items of an array. -/
def items {α : Type} (item : Decoder α) (origin : Origin) :
    List Document → Except DecodeError (List α)
  | [] => .ok []
  | doc :: rest => do
    let a ← item origin doc
    let as ← items item origin rest
    return a :: as

/-- Decodes an array of any length. -/
def list {α : Type} (item : Decoder α) : Decoder (List α) := fun origin doc =>
  match doc with
  | .array docs fault => do
    let as ← items item origin.inside docs
    ofRead (Document.closing fault)
    return as
  | doc => doc.unexpected

/-- Refuses what a decoder returns by a rule of the type. -/
def refine {α β : Type} (decoder : Decoder α) (rule : α → Except Error β) : Decoder β :=
  fun origin doc =>
    decoder origin doc >>= fun a =>
      match rule a with
      | .ok b => .ok b
      | .error e => .error (.content (.refused e))

end Decoder

/-- Decodes a whole text, after which only space may follow. -/
def decodeText {α : Type} (decoder : Decoder α) (text : String) : Except DecodeError α :=
  let (doc, rest) := Document.read text
  decoder (.text 0) doc >>= fun a =>
    if rest.all isSpace then .ok a else .error (.text .malformed)

/-- Decodes a complete value. -/
def decodeValue {α : Type} (decoder : Decoder α) (doc : Document) : Except DecodeError α :=
  decoder .value doc

end DirectorySignIn.Json
