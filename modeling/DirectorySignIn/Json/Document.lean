import DirectorySignIn.Json.Numeral
import DirectorySignIn.Json.Value

/-!
# Documents

A document is what was read of a JSON text.  Its numbers and strings are still spelled as in the
text, repeated members are kept, and where the text ends too early or is no JSON the tree says so
at that place.  Whoever takes a document apart in order of its text therefore meets the first
thing wrong with it, be it a wrong content or a wrong text, at the place where a reader of the
text would.

Main definitions:

- `Document.skip` passes over a value that nobody asked for;
- `Document.validate` reads a value whatever it is;
- `Json.document` is a value as a document.
-/

namespace DirectorySignIn.Json

/-- A character of a string as spelled: one that stands for itself or has a short escape, or a
sixteen-bit unit written with its number. -/
inductive StringUnit where
  | char (c : Char)
  | code (unit : Nat)
deriving DecidableEq

/-- A string as spelled, up to its closing quote or to what is wrong with it. -/
structure Literal where
  units : List StringUnit
  fault : Option Fault
deriving DecidableEq

namespace Literal

/-- Whether a sixteen-bit unit is the first of a pair. -/
def isLead (unit : Nat) : Bool :=
  0xD800 ≤ unit && unit ≤ 0xDBFF

/-- Whether a sixteen-bit unit is the second of a pair. -/
def isTrail (unit : Nat) : Bool :=
  0xDC00 ≤ unit && unit ≤ 0xDFFF

/-- The character that a pair of units stands for. -/
def pairChar (lead trail : Nat) : Char :=
  .ofNat (0x10000 + 0x400 * (lead - 0xD800) + (trail - 0xDC00))

/-- The characters of a string with the given ending.  The units of a pair have to stand together,
and a unit of a pair cannot stand alone. -/
def chars (fault : Option Fault) : List StringUnit → Except Fault (List Char)
  | [] =>
    match fault with
    | none => .ok []
    | some f => .error f
  | .char c :: rest => (chars fault rest).map (c :: ·)
  | .code unit :: rest =>
    if isTrail unit then .error .malformed
    else if isLead unit then
      match rest with
      | .code next :: rest =>
        if isTrail next then (chars fault rest).map (pairChar unit next :: ·)
        else .error .malformed
      | .char _ :: _ => .error .malformed
      | [] => .error (fault.getD .malformed)
    else (chars fault rest).map (.ofNat unit :: ·)

/-- The text that a string stands for. -/
def text (literal : Literal) : Except Fault String :=
  (chars literal.fault literal.units).map String.ofList

/-- The spelling of a text that writes every character as itself. -/
def ofText (text : String) : Literal :=
  ⟨text.toList.map .char, none⟩

theorem chars_map_char (cs : List Char) : chars none (cs.map .char) = .ok cs := by
  induction cs with
  | nil => rfl
  | cons c rest ih => simp [chars, ih, Except.map]

/-- A text is read back from its own spelling. -/
@[simp]
theorem text_ofText (s : String) : (ofText s).text = .ok s := by
  simp [text, ofText, chars_map_char, Except.map]

end Literal

/-- What was read of a text where a value was due. -/
inductive Document where
  /-- The text ends here. -/
  | absent
  /-- What stands here is no value. -/
  | broken (fault : Fault)
  | null
  | bool (b : Bool)
  | number (numeral : Numeral)
  | string (literal : Literal)
  /-- The items, and what is wrong after the last one unless the array is closed there. -/
  | array (items : List Document) (fault : Option Fault)
  /-- The members with their names, and what is wrong after the last one unless the object is
  closed there.  A name is whatever stands in its place. -/
  | object (members : List (Document × Document)) (fault : Option Fault)

namespace Document

/-- What a missing ending reports. -/
def closing : Option Fault → Except Fault Unit
  | none => .ok ()
  | some fault => .error fault

/-! ## Passing over a value -/

/-- Passes over a string: its escapes have to be well-formed, its pairs need not be. -/
def skipLiteral (literal : Literal) : Except Fault Unit :=
  closing literal.fault

/-- Passes over the name of a member. -/
def skipName : Document → Except Fault Unit
  | string literal => skipLiteral literal
  | absent => .error .truncated
  | _ => .error .malformed

mutual

/-- Passes over a value that nobody asked for.  Its magnitudes and pairs are not looked at, and
every number that lacks digits is malformed. -/
def skip : Document → Except Fault Unit
  | absent => .error .truncated
  | broken fault => .error fault
  | null | bool _ => .ok ()
  | number numeral => if numeral.fault?.isSome then .error .malformed else .ok ()
  | string literal => skipLiteral literal
  | array items fault =>
    match skipItems items with
    | .error e => .error e
    | .ok () => closing fault
  | object members fault =>
    match skipMembers members with
    | .error e => .error e
    | .ok () => closing fault

/-- Passes over the items of an array. -/
def skipItems : List Document → Except Fault Unit
  | [] => .ok ()
  | item :: rest =>
    match skip item with
    | .error e => .error e
    | .ok () => skipItems rest

/-- Passes over the members of an object. -/
def skipMembers : List (Document × Document) → Except Fault Unit
  | [] => .ok ()
  | (name, value) :: rest =>
    match skipName name with
    | .error e => .error e
    | .ok () =>
      match skip value with
      | .error e => .error e
      | .ok () => skipMembers rest

end

/-! ## Reading a value of any kind -/

/-- The name of a member. -/
def name : Document → Except Fault String
  | string literal => literal.text
  | absent => .error .truncated
  | _ => .error .malformed

mutual

/-- Reads a value of any kind whose arrays and objects are nested at most `levels` deep, if there
is such a limit. -/
def validate (levels : Option Nat) : Document → Except Fault Unit
  | absent => .error .truncated
  | broken fault => .error fault
  | null | bool _ => .ok ()
  | number numeral =>
    match numeral.read with
    | .error e => .error e
    | .ok _ => .ok ()
  | string literal =>
    match literal.text with
    | .error e => .error e
    | .ok _ => .ok ()
  | array items fault =>
    if levels = some 0 then .error .malformed
    else
      match validateItems (levels.map (· - 1)) items with
      | .error e => .error e
      | .ok () => closing fault
  | object members fault =>
    if levels = some 0 then .error .malformed
    else
      match validateMembers (levels.map (· - 1)) members with
      | .error e => .error e
      | .ok () => closing fault

/-- Reads the items of an array. -/
def validateItems (levels : Option Nat) : List Document → Except Fault Unit
  | [] => .ok ()
  | item :: rest =>
    match validate levels item with
    | .error e => .error e
    | .ok () => validateItems levels rest

/-- Reads the members of an object. -/
def validateMembers (levels : Option Nat) : List (Document × Document) → Except Fault Unit
  | [] => .ok ()
  | (key, value) :: rest =>
    match name key with
    | .error e => .error e
    | .ok _ =>
      match validate levels value with
      | .error e => .error e
      | .ok () => validateMembers levels rest

end

/-! ## Well-formed documents -/

/-- The document of a text that is written without escapes. -/
def ofText (text : String) : Document :=
  string (.ofText text)

/-- The name of a text as a literal is the text. -/
@[simp]
theorem name_ofText (s : String) : (ofText s).name = .ok s := by
  simp [ofText, name]

end Document

mutual

/-- A value as a document. -/
def document : Json → Document
  | null => .null
  | bool b => .bool b
  | number n => .number (.ofNat n)
  | string text => .ofText text
  | array items => .array (itemDocuments items) none
  | object members => .object (memberDocuments members) none

/-- The items of an array as documents. -/
def itemDocuments : List Json → List Document
  | [] => []
  | item :: rest => document item :: itemDocuments rest

/-- The members of an object as documents. -/
def memberDocuments : List (String × Json) → List (Document × Document)
  | [] => []
  | (name, value) :: rest => (.ofText name, document value) :: memberDocuments rest

end

end DirectorySignIn.Json
