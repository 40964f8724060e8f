/-!
# JSON values and their text

The values that answers are built from, with members in the order in which they were written, and
the compact JSON text of a value.
-/

namespace DirectorySignIn

/-- A JSON value with natural numbers only. -/
inductive Json where
  | null
  | bool (b : Bool)
  | number (n : Nat)
  | string (text : String)
  | array (items : List Json)
  | object (members : List (String × Json))

namespace Json

/-- A value that may be missing, written as `null` if it is. -/
def option {α : Type} (write : α → Json) : Option α → Json
  | some a => write a
  | none => null

/-- The items of a list as an array. -/
def list {α : Type} (write : α → Json) (items : List α) : Json :=
  array (items.map write)

/-! ## Text -/

/-- A character as it stands inside a JSON string. -/
def writeChar (c : Char) : List Char :=
  match c with
  | '"' => ['\\', '"']
  | '\\' => ['\\', '\\']
  | '\n' => ['\\', 'n']
  | '\r' => ['\\', 'r']
  | '\t' => ['\\', 't']
  | '\x08' => ['\\', 'b']
  | '\x0c' => ['\\', 'f']
  | c =>
    if c.toNat < 0x20 then
      ['\\', 'u', '0', '0', Nat.digitChar (c.toNat / 16), Nat.digitChar (c.toNat % 16)]
    else [c]

/-- A text as a JSON string. -/
def writeString (text : String) : List Char :=
  '"' :: text.toList.flatMap writeChar ++ ['"']

/-- Pieces of text with commas between them. -/
def separate : List (List Char) → List Char
  | [] => []
  | [piece] => piece
  | piece :: rest => piece ++ ',' :: separate rest

mutual

/-- The characters of a value's JSON text. -/
def write : Json → List Char
  | null => ['n', 'u', 'l', 'l']
  | bool true => ['t', 'r', 'u', 'e']
  | bool false => ['f', 'a', 'l', 's', 'e']
  | number n => Nat.toDigits 10 n
  | string text => writeString text
  | array items => '[' :: separate (writeItems items) ++ [']']
  | object members => '\x7b' :: separate (writeMembers members) ++ ['\x7d']

/-- The texts of the items of an array. -/
def writeItems : List Json → List (List Char)
  | [] => []
  | item :: rest => write item :: writeItems rest

/-- The texts of the members of an object. -/
def writeMembers : List (String × Json) → List (List Char)
  | [] => []
  | (name, value) :: rest => (writeString name ++ ':' :: write value) :: writeMembers rest

end

/-- The compact JSON text of a value. -/
def text (value : Json) : String :=
  .ofList value.write

end Json

end DirectorySignIn
