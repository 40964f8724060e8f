/-!
# Labels in digits and letters

A label with characters outside of ASCII is written in ASCII by its ASCII characters, followed by
numbers that tell which other characters are inserted between them, and where.  Characters are
inserted in ascending order, so each number is the distance to the next insertion, counted over all
places for each character.  The number of digits adapts to the numbers before.

Main definitions:

- `Punycode.encode` writes a label in this way;
- `Punycode.decode?` reads it;
- `Punycode.number?_writeNumber`: a number is read as it was written.
-/

namespace DirectorySignIn.Punycode

/-! ## Digits -/

/-- The value of a digit in base 36. -/
def digit? (c : Char) : Option Nat :=
  if 'a' ≤ c ∧ c ≤ 'z' then some (c.toNat - 'a'.toNat)
  else if 'A' ≤ c ∧ c ≤ 'Z' then some (c.toNat - 'A'.toNat)
  else if '0' ≤ c ∧ c ≤ '9' then some (c.toNat - '0'.toNat + 26)
  else none

/-- The digit of a value in base 36. -/
def ofDigit (d : Nat) : Char :=
  if d < 26 then .ofNat ('a'.toNat + d) else .ofNat ('0'.toNat + (d - 26))

/-- A digit has the value that it is written for. -/
theorem digit?_ofDigit {d : Nat} (h : d < 36) : digit? (ofDigit d) = some d := by
  have all : ∀ e ∈ List.range 36, digit? (ofDigit e) = some e := by decide
  exact all d (List.mem_range.mpr h)

/-- The least digit that does not end a number, at a place of a given weight. -/
def threshold (place bias : Nat) : Nat :=
  min 26 (max 1 (place - bias))

/-- The threshold of a place is positive. -/
theorem threshold_pos (place bias : Nat) : 0 < threshold place bias := by
  simp only [threshold]
  omega

/-- The threshold of a place is at most the number of letters. -/
theorem threshold_le (place bias : Nat) : threshold place bias ≤ 26 :=
  Nat.min_le_left _ _

/-- Divides a delta until it is small, and counts by how much the bias has to grow. -/
def adaptFrom (bias : Nat) : (steps : Nat) → (delta : Nat) → Nat
  | 0, delta => bias + 36 * delta / (delta + 38)
  | steps + 1, delta =>
    if 455 < delta then adaptFrom (bias + 36) steps (delta / 35)
    else bias + 36 * delta / (delta + 38)

/-- The bias after a delta. -/
def adapt (delta count : Nat) (isFirst : Bool) : Nat :=
  let delta := if isFirst then delta / 700 else delta / 2
  adaptFrom 0 32 (delta + delta / count)

/-! ## Reading -/

/-- Reads a number of variable length and what follows it. -/
def number? (bias : Nat) (value weight place : Nat) : List Char → Option (Nat × List Char)
  | [] => none
  | c :: rest =>
    match digit? c with
    | none => none
    | some d =>
      let value := value + d * weight
      let t := threshold place bias
      if d < t then some (value, rest)
      else number? bias value (weight * (36 - t)) (place + 36) rest

/-- Inserts the characters that the numbers stand for. -/
def insertAll (out : List Char) (code index bias : Nat) (isFirst : Bool) :
    (steps : Nat) → List Char → Option (List Char)
  | _, [] => some out
  | 0, _ => none
  | steps + 1, cs =>
    match number? bias 0 1 36 cs with
    | none => none
    | some (delta, rest) =>
      let index := index + delta
      let count := out.length + 1
      let code := code + index / count
      let index := index % count
      if code.isValidChar then
        insertAll (out.take index ++ .ofNat code :: out.drop index) code (index + 1)
          (adapt delta count isFirst) false steps rest
      else none

/-- Splits a text at the last occurrence of a character. -/
def splitLast? (separator : Char) (cs : List Char) : Option (List Char × List Char) :=
  match cs.reverse.span (· != separator) with
  | (after, _ :: before) => some (before.reverse, after.reverse)
  | (_, []) => none

/-- Reads a label.  The hyphen between its ASCII characters and its numbers is there only if it has
ASCII characters. -/
def decode? (cs : List Char) : Option (List Char) :=
  match splitLast? '-' cs with
  | some ([], _) => none
  | some (basic, digits) => insertAll basic 128 0 72 true (digits.length + 1) digits
  | none => insertAll [] 128 0 72 true (cs.length + 1) cs

/-! ## Writing -/

/-- Writes a number of variable length. -/
def writeNumber (bias place n : Nat) : List Char :=
  let t := threshold place bias
  if n < t then [ofDigit n]
  else ofDigit (t + (n - t) % (36 - t)) :: writeNumber bias (place + 36) ((n - t) / (36 - t))
termination_by n
decreasing_by
  have hpos := threshold_pos place bias
  exact Nat.lt_of_le_of_lt (Nat.div_le_self _ _) (by omega)

/-- A number is read as it was written, whatever follows it. -/
theorem number?_writeNumber (bias place n value weight : Nat) (rest : List Char) :
    number? bias value weight place (writeNumber bias place n ++ rest) =
      some (value + n * weight, rest) := by
  fun_induction writeNumber bias place n generalizing value weight with
  | case1 place n t h =>
    have hle := threshold_le place bias
    simp [number?, digit?_ofDigit (show n < 36 by omega), h, t]
  | case2 place n t h ih =>
    have hpos := threshold_pos place bias
    have hle := threshold_le place bias
    have hmod : (n - t) % (36 - t) < 36 - t := Nat.mod_lt _ (by omega)
    have hdiv : (n - t) % (36 - t) + (36 - t) * ((n - t) / (36 - t)) = n - t :=
      Nat.mod_add_div _ _
    have hlast : ¬ t + (n - t) % (36 - t) < threshold place bias := by omega
    simp only [List.cons_append, number?, digit?_ofDigit (show t + (n - t) % (36 - t) < 36 by omega),
      hlast, if_false, ih]
    have hsum : n = t + (n - t) % (36 - t) + (36 - t) * ((n - t) / (36 - t)) := by omega
    have hscaled : n * weight = (t + (n - t) % (36 - t)) * weight +
        (n - t) / (36 - t) * (weight * (36 - t)) := by
      conv => lhs; rw [hsum]
      rw [Nat.add_mul, Nat.mul_comm (36 - t), Nat.mul_assoc, Nat.mul_comm weight]
    rw [hscaled, Nat.add_assoc]

/-- What is written of a label so far. -/
structure Progress where
  /-- The numbers that are written. -/
  digits : List Char
  /-- The distance from the last insertion. -/
  delta : Nat
  bias : Nat
  /-- How many characters are placed. -/
  count : Nat
  /-- Whether no character outside of ASCII is placed. -/
  isFirst : Bool

/-- Passes a character of the label while characters with a code point are being inserted. -/
def Progress.pass (code : Nat) (p : Progress) (c : Char) : Progress :=
  if c.toNat < code then { p with delta := p.delta + 1 }
  else if c.toNat = code then
    ⟨p.digits ++ writeNumber p.bias 36 p.delta, 0, adapt p.delta (p.count + 1) p.isFirst,
      p.count + 1, false⟩
  else p

/-- Inserts the characters with the given code points, in ascending order, of which the first is
counted from `least` on. -/
def insertCodes (label : List Char) (p : Progress) (least : Nat) : List Nat → Progress
  | [] => p
  | code :: codes =>
    let reached := { p with delta := p.delta + (code - least) * (p.count + 1) }
    let passed := label.foldl (Progress.pass code) reached
    insertCodes label { passed with delta := passed.delta + 1 } (code + 1) codes

/-- Writes a label. -/
def encode (label : List Char) : List Char :=
  let basic := label.filter (·.toNat < 128)
  let codes := ((label.map Char.toNat).filter (128 ≤ ·)).mergeSort.eraseDups
  let start : Progress := ⟨[], 0, 72, basic.length, true⟩
  basic ++ (if basic.isEmpty then [] else ['-']) ++ (insertCodes label start 128 codes).digits

end DirectorySignIn.Punycode
