import DirectorySignIn.Text.CompositionTable

/-!
# Composed characters

The same letter with the same marks can be written as one character or as several, and marks that
do not touch one another in any order.  `compose` brings a text into the form in which its
characters are composed as far as possible, after it put marks into their order.

A text in this form may not hold characters that are taken apart and never composed again; they
are the concern of whoever maps such characters to others.
-/

namespace DirectorySignIn.Text

/-- The place of a mark among the marks on one letter.  What is no mark has place zero. -/
def combiningClass (c : Char) : Nat :=
  match combiningClasses.find? fun r => r.1 ≤ c.toNat && c.toNat ≤ r.2.1 with
  | some r => r.2.2
  | none => 0

/-! ## Taking characters apart -/

/-- The pairs of characters that are written as one, from the composed character to its parts. -/
def decompositions : List (Nat × Char × Char) :=
  compositions.flatMap fun (second, firsts) =>
    firsts.map fun (first, composed) => (composed, .ofNat first, .ofNat second)

/-- The parts of a character, itself taken apart in a number of steps. -/
def partsOfChar : (steps : Nat) → Char → List Char
  | 0, c => [c]
  | steps + 1, c =>
    match decompositions.lookup c.toNat with
    | some (first, second) => partsOfChar steps first ++ [second]
    | none => [c]

/-- A letter and its marks.  Three steps take every character apart. -/
def decompose (c : Char) : List Char :=
  partsOfChar 3 c

/-! ## The order of marks -/

/-- Puts a character in front of a text, but after the marks that come before it. -/
def insertMark (c : Char) : List Char → List Char
  | [] => [c]
  | d :: rest =>
    if combiningClass d ≠ 0 ∧ combiningClass d < combiningClass c then d :: insertMark c rest
    else c :: d :: rest

/-- A text with the marks on each letter in their order. -/
def orderMarks (cs : List Char) : List Char :=
  cs.foldr insertMark []

/-! ## Putting characters together -/

/-- The syllable of Hangul that two characters make: a consonant and a vowel, or a syllable
without a final consonant and one. -/
def composeSyllable? (a b : Char) : Option Char :=
  let x := a.toNat
  let y := b.toNat
  if 0x1100 ≤ x ∧ x < 0x1113 ∧ 0x1161 ≤ y ∧ y < 0x1176 then
    some (.ofNat (0xAC00 + 588 * (x - 0x1100) + 28 * (y - 0x1161)))
  else if 0xAC00 ≤ x ∧ x < 0xD7A4 ∧ (x - 0xAC00) % 28 = 0 ∧ 0x11A8 ≤ y ∧ y < 0x11C3 then
    some (.ofNat (x + (y - 0x11A7)))
  else none

/-- The character as which two characters are written. -/
def composePair? (a b : Char) : Option Char :=
  match composeSyllable? a b with
  | some c => some c
  | none => ((compositions.lookup b.toNat).bind fun firsts => firsts.lookup a.toNat).map Char.ofNat

/-- Whether the marks between a letter and a character keep the two apart.  The marks are given
from the last one backwards. -/
def isBlocked (marks : List Char) (c : Char) : Bool :=
  match marks with
  | [] => false
  | last :: _ => combiningClass c ≤ combiningClass last

/-- Composes a letter, the marks that stay beside it, given from the last one backwards, and the
text after them. -/
def composeOnto (letter : Char) (marks : List Char) : List Char → List Char
  | [] => letter :: marks.reverse
  | c :: rest =>
    match if isBlocked marks c then none else composePair? letter c with
    | some composed => composeOnto composed marks rest
    | none =>
      if combiningClass c = 0 then letter :: marks.reverse ++ composeOnto c [] rest
      else composeOnto letter (c :: marks) rest

/-- Composes neighbours from the front on. -/
def composeNeighbours : List Char → List Char
  | [] => []
  | c :: rest => composeOnto c [] rest

/-- A text with its characters composed as far as possible. -/
def compose (cs : List Char) : List Char :=
  composeNeighbours (orderMarks (cs.flatMap decompose))

end DirectorySignIn.Text
