import DirectorySignIn.Json.Document
import DirectorySignIn.Text.Hex

/-!
# Reading JSON text

The document of a text.  Reading never fails: what is wrong with the text is recorded where it
stands, and nothing after it is read.
-/

namespace DirectorySignIn.Json

/-- Whether a character may stand between the parts of a JSON text. -/
def isSpace (c : Char) : Bool :=
  c == ' ' || c == '\n' || c == '\r' || c == '\t'

/-- A text without the space it starts with. -/
def skipSpace (cs : List Char) : List Char :=
  cs.dropWhile isSpace

/-! ## Strings -/

/-- The character that a short escape stands for. -/
def shortEscape? : Char → Option Char
  | '"' => some '"'
  | '\\' => some '\\'
  | '/' => some '/'
  | 'b' => some '\x08'
  | 'f' => some '\x0c'
  | 'n' => some '\n'
  | 'r' => some '\r'
  | 't' => some '\t'
  | _ => none

/-- Reads a string after its opening quote.  A numbered escape takes the next four bytes of the
text, whatever they are. -/
def readString : List Char → Literal × List Char
  | [] => (⟨[], some .truncated⟩, [])
  | '"' :: rest => (⟨[], none⟩, rest)
  | '\\' :: 'u' :: a :: b :: c :: d :: rest =>
    match Text.hexNumber? [a, b, c, d] with
    | some unit =>
      let (literal, rest) := readString rest
      ({ literal with units := .code unit :: literal.units }, rest)
    | none => (⟨[], some .malformed⟩, [])
  | '\\' :: 'u' :: rest =>
    let bytes := (String.ofList rest).utf8ByteSize
    (⟨[], some (if bytes < 4 then .truncated else .malformed)⟩, [])
  | '\\' :: e :: rest =>
    match shortEscape? e with
    | some c =>
      let (literal, rest) := readString rest
      ({ literal with units := .char c :: literal.units }, rest)
    | none => (⟨[], some .malformed⟩, [])
  | '\\' :: [] => (⟨[], some .truncated⟩, [])
  | c :: rest =>
    if c.toNat < 0x20 then (⟨[], some .malformed⟩, [])
    else
      let (literal, rest) := readString rest
      ({ literal with units := .char c :: literal.units }, rest)

/-! ## Numbers and words -/

/-- Reads a fraction, if one stands here. -/
def readFraction : List Char → Option (List Char) × List Char
  | '.' :: rest => (some (rest.takeWhile Char.isDigit), rest.dropWhile Char.isDigit)
  | cs => (none, cs)

/-- Reads the sign of an exponent. -/
def readSign : List Char → Bool × List Char
  | '-' :: rest => (true, rest)
  | '+' :: rest => (false, rest)
  | cs => (false, cs)

/-- Reads an exponent, if one stands here. -/
def readExponent : List Char → Option (Bool × List Char) × List Char
  | 'e' :: rest | 'E' :: rest =>
    let (negative, rest) := readSign rest
    (some (negative, rest.takeWhile Char.isDigit), rest.dropWhile Char.isDigit)
  | cs => (none, cs)

/-- Reads a number.  A part without digits ends it. -/
def readNumeral (cs : List Char) : Numeral × List Char :=
  let negative := cs.head? == some '-'
  let cs := if negative then cs.drop 1 else cs
  let whole := cs.takeWhile Char.isDigit
  let afterWhole := cs.dropWhile Char.isDigit
  let (fraction, afterFraction) :=
    if whole.isEmpty then (none, afterWhole) else readFraction afterWhole
  let (exponent, rest) :=
    if whole.isEmpty || fraction == some [] then (none, afterFraction)
    else readExponent afterFraction
  (⟨negative, whole, fraction, exponent, rest.isEmpty⟩, rest)

/-- Reads the rest of a word of which the first letter was seen. -/
def readWord (value : Document) : (letters : List Char) → List Char → Document × List Char
  | [], cs => (value, cs)
  | _ :: _, [] => (.broken .truncated, [])
  | l :: letters, c :: rest =>
    if c = l then readWord value letters rest else (.broken .malformed, [])

/-! ## Values -/

/-- Whether the text can be read on after this name of a member. -/
def isCompleteName : Document → Bool
  | .string literal => literal.fault.isNone
  | _ => false

mutual

/-- Reads a value.  The bound on the number of steps is never reached by a caller that gives at
least three for each character. -/
def readValue : (steps : Nat) → List Char → Document × List Char
  | 0, _ => (.absent, [])
  | steps + 1, cs =>
    match skipSpace cs with
    | [] => (.absent, [])
    | '"' :: rest =>
      let (literal, rest) := readString rest
      (.string literal, rest)
    | '[' :: rest =>
      let (items, fault, rest) := readItems steps rest
      (.array items fault, rest)
    | '\x7b' :: rest =>
      let (members, fault, rest) := readMembers steps rest
      (.object members fault, rest)
    | 'n' :: rest => readWord .null ['u', 'l', 'l'] rest
    | 't' :: rest => readWord (.bool true) ['r', 'u', 'e'] rest
    | 'f' :: rest => readWord (.bool false) ['a', 'l', 's', 'e'] rest
    | c :: rest =>
      if c == '-' || c.isDigit then
        let (numeral, rest) := readNumeral (c :: rest)
        (.number numeral, rest)
      else (.broken .malformed, [])

/-- Reads the items of an array after its opening bracket. -/
def readItems : (steps : Nat) → List Char → List Document × Option Fault × List Char
  | 0, _ => ([], some .truncated, [])
  | steps + 1, cs =>
    match skipSpace cs with
    | [] => ([], some .truncated, [])
    | ']' :: rest => ([], none, rest)
    | cs => readItem steps cs

/-- Reads an item of an array and those after it. -/
def readItem : (steps : Nat) → List Char → List Document × Option Fault × List Char
  | 0, _ => ([], some .truncated, [])
  | steps + 1, cs =>
    let (item, rest) := readValue steps cs
    match skipSpace rest with
    | [] => ([item], some .truncated, [])
    | ']' :: rest => ([item], none, rest)
    | ',' :: rest =>
      let (items, fault, rest) := readItem steps rest
      (item :: items, fault, rest)
    | _ => ([item], some .malformed, [])

/-- Reads the members of an object after its opening brace. -/
def readMembers : (steps : Nat) → List Char →
    List (Document × Document) × Option Fault × List Char
  | 0, _ => ([], some .truncated, [])
  | steps + 1, cs =>
    match skipSpace cs with
    | '\x7d' :: rest => ([], none, rest)
    | cs => readMember steps cs

/-- Reads a member of an object and those after it. -/
def readMember : (steps : Nat) → List Char →
    List (Document × Document) × Option Fault × List Char
  | 0, _ => ([], some .truncated, [])
  | steps + 1, cs =>
    let (key, rest) := readValue steps cs
    if isCompleteName key then
      match skipSpace rest with
      | [] => ([(key, .absent)], some .truncated, [])
      | ':' :: rest =>
        let (value, rest) := readValue steps rest
        match skipSpace rest with
        | [] => ([(key, value)], some .truncated, [])
        | '\x7d' :: rest => ([(key, value)], none, rest)
        | ',' :: rest =>
          let (members, fault, rest) := readMember steps rest
          ((key, value) :: members, fault, rest)
        | _ => ([(key, value)], some .malformed, [])
      | _ => ([(key, .broken .malformed)], some .malformed, [])
    else ([(key, .absent)], some .malformed, [])

end

/-- The document that a text starts with, and what follows it. -/
def Document.read (text : String) : Document × List Char :=
  let cs := text.toList
  readValue (3 * cs.length + 3) cs

end DirectorySignIn.Json
