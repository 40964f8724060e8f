import DirectorySignIn.Provider.Config
import DirectorySignIn.Text.Blank

/-!
# Search filters

The filter by which a user is looked up: the username attribute has to equal the username, and
the filter of the configuration has to hold.  Characters of the username that would change the
structure of the filter are written as a backslash and two hexadecimal digits.

Main results:

- `escapeChar_plain`: no escaped text holds a parenthesis, an asterisk or a NUL.
-/

namespace DirectorySignIn.Filter

/-- A character as it stands in the value of a filter. -/
def escapeChar : Char → List Char
  | '*' => ['\\', '2', 'a']
  | '(' => ['\\', '2', '8']
  | ')' => ['\\', '2', '9']
  | '\\' => ['\\', '5', 'c']
  | '\x00' => ['\\', '0', '0']
  | c => [c]

/-- A text as it stands in the value of a filter. -/
def escape (cs : List Char) : List Char :=
  cs.flatMap escapeChar

/-- Whether a character ends a value or changes its meaning. -/
def isStructural (c : Char) : Bool :=
  c == '*' || c == '(' || c == ')' || c == '\x00'

/-- An escaped character has no character left that means something in a filter. -/
theorem escapeChar_plain (c : Char) : ∀ x ∈ escapeChar c, isStructural x = false := by
  unfold escapeChar
  split <;> simp_all [isStructural]

/-- Nothing that means something in a filter is left in an escaped text. -/
theorem escape_plain (cs : List Char) : ∀ x ∈ escape cs, isStructural x = false := by
  intro x hx
  obtain ⟨c, _, hc⟩ := List.mem_flatMap.mp hx
  exact escapeChar_plain c x hc

/-- The condition that an attribute equals a value, which is escaped already. -/
def equality (name value : List Char) : List Char :=
  ['('] ++ name ++ ['='] ++ value ++ [')']

/-- Whether a filter stands in parentheses already. -/
def isWrapped (template : List Char) : Bool :=
  template.head? == some '(' && template.getLast? == some ')'

/-- A condition together with a template, if there is one. -/
def conjunction (template clause : List Char) : List Char :=
  if template = [] then clause
  else if isWrapped template then ['(', '&'] ++ template ++ clause ++ [')']
  else ['(', '&', '('] ++ template ++ [')'] ++ clause ++ [')']

/-- The filter that finds a user of a provider, with a given way of escaping the username. -/
def forUserWith (escape : List Char → List Char) (config : ProviderConfig) (username : String) :
    String :=
  .ofList (conjunction (Text.trimBlanks config.userSearchFilter.toList)
    (equality (Text.trimBlanks config.usernameAttribute.toList) (escape username.toList)))

/-- The filter that finds a user of a provider. -/
def forUser (config : ProviderConfig) (username : String) : String :=
  forUserWith escape config username

end DirectorySignIn.Filter
