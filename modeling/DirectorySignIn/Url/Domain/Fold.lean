import DirectorySignIn.Text.Composition
import DirectorySignIn.Text.Lowercase
import DirectorySignIn.Text.Split
import DirectorySignIn.Text.Unassigned
import DirectorySignIn.Url.Domain.FoldTable

/-!
# Folding domain names

Names of hosts that differ only in letter case, in the width or style of their characters, or in
characters that cannot be seen, are one name.  Folding brings a name into the form that all its
spellings share, in which its characters are also composed.  A name with a character that no name
can hold has no such form.

Main definitions:

- `foldChar?` is what a character is folded to;
- `fold?` is the form of a name.
-/

namespace DirectorySignIn.Domain

/-- The characters that are folded to a text of their own, with these texts. -/
def foldTable : List (Nat × List Char) :=
  foldTexts.flatMap fun (first, texts) =>
    (Text.splitAt ' ' texts.toList).zipIdx first |>.map fun (text, code) => (code, text)

/-- What a small letter or a character without letter case is folded to. -/
def foldSmall (c : Char) : List Char :=
  if Text.inRanges ignoredRanges c.toNat then []
  else
    match foldTable.lookup c.toNat with
    | some text => text
    | none => [.ofNat (Text.mapCode foldRuns c.toNat)]

/-- What a character is folded to, if a name can hold it. -/
def foldChar? (c : Char) : Option (List Char) :=
  if Text.isUnassigned c || Text.inRanges forbiddenRanges c.toNat then none
  else some ((Text.lowercaseChar c).flatMap foldSmall)

/-- The form that all spellings of a name share. -/
def fold? (cs : List Char) : Option (List Char) :=
  (cs.mapM foldChar?).map fun images => Text.compose images.flatten

end DirectorySignIn.Domain
