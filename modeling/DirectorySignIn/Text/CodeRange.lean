/-!
# Ranges of code points

Character classes and character mappings are given as data: a class is a list of closed ranges
of code points, a mapping a list of runs that send their points to equally spaced images.
-/

namespace DirectorySignIn.Text

/-- Whether a code point lies in one of the closed ranges. -/
def inRanges (ranges : List (Nat × Nat)) (code : Nat) : Bool :=
  ranges.any fun r => r.1 ≤ code && code ≤ r.2

/-- A run of code points `first, first + step, …, last` that is mapped onto the run of the same
length and spacing that starts at `image`. -/
structure CodeRun where
  first : Nat
  last : Nat
  step : Nat
  image : Nat

/-- Whether the run holds the code point. -/
def CodeRun.covers (r : CodeRun) (code : Nat) : Bool :=
  r.first ≤ code && code ≤ r.last && (code - r.first) % r.step == 0

/-- The image of a code point under the first run that holds it; a point outside all runs is its
own image. -/
def mapCode (runs : List CodeRun) (code : Nat) : Nat :=
  match runs.find? (·.covers code) with
  | some r => r.image + (code - r.first)
  | none => code

end DirectorySignIn.Text
