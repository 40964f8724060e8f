import DirectorySignIn.Text.CaseTable
import DirectorySignIn.Text.Mark

/-!
# Lower-casing

Lower-casing of Unicode text.  Each character goes to its lower-case form, with two rules of
their own: the capital I with a dot above becomes two characters, and a capital sigma becomes a
final sigma where it ends a word.
-/

namespace DirectorySignIn.Text

/-- Whether a character has letter case. -/
def isCased (c : Char) : Bool :=
  inRanges casedRanges c.toNat

/-- Whether a character is passed over when a word's letters are looked for. -/
def isCaseIgnorable (c : Char) : Bool :=
  isNonspacing c || inRanges caseIgnorableRanges c.toNat

/-- The lower-case form of a character taken by itself. -/
def lowercaseChar (c : Char) : List Char :=
  if c = 'İ' then ['i', '\u0307']
  else [Char.ofNat (mapCode lowercaseRuns c.toNat)]

/-- Whether the first of the characters that is not passed over is a cased letter. -/
def meetsLetter (cs : List Char) : Bool :=
  match cs.dropWhile isCaseIgnorable with
  | c :: _ => isCased c
  | [] => false

/-- Lower-cases the characters that stand after others, which are given from the nearest
outwards.  A capital sigma ends a word when a letter comes before it and none after it. -/
def lowercaseAfter (before : List Char) : List Char → List Char
  | [] => []
  | c :: rest =>
    let image :=
      if c = 'Σ' then
        [if meetsLetter before && !meetsLetter rest then 'ς' else 'σ']
      else lowercaseChar c
    image ++ lowercaseAfter (c :: before) rest

/-- A text in lower case. -/
def lowercase (text : String) : String :=
  .ofList (lowercaseAfter [] text.toList)

@[simp]
theorem toList_lowercase (text : String) :
    (lowercase text).toList = lowercaseAfter [] text.toList := by
  simp [lowercase]

end DirectorySignIn.Text
