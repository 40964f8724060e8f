import DirectorySignIn.Text.Ascii

/-!
# Directory entries

An entry has a distinguished name and attributes with any number of values.  The name of an
attribute is found as it is written, and else up to the case of ASCII letters.

Main results:

- `values?_of_lookup`: an attribute that is there under the very name that was asked for is the one
  that is used, whatever other names there are.
-/

namespace DirectorySignIn

/-- An entry of a directory.  The names of its attributes differ from one another. -/
structure Entry where
  dn : String
  attributes : List (String × List String)
deriving DecidableEq

namespace Entry

/-- The entry of a name, without attributes. -/
def ofName (dn : String) : Entry :=
  ⟨dn, []⟩

/-- Adds a value to an attribute in a list of attributes. -/
def addValue (name value : String) : List (String × List String) → List (String × List String)
  | [] => [(name, [value])]
  | (other, values) :: rest =>
    if other = name then (other, values ++ [value]) :: rest
    else (other, values) :: addValue name value rest

/-- Adds a value to an attribute. -/
def add (entry : Entry) (name value : String) : Entry :=
  { entry with attributes := addValue name value entry.attributes }

/-- The values of an attribute. -/
def values? (entry : Entry) (name : String) : Option (List String) :=
  match entry.attributes.lookup name with
  | some values => some values
  | none => (entry.attributes.find? fun a => Text.equalFold a.1 name).map (·.2)

/-- The first value of an attribute. -/
def first? (entry : Entry) (name : String) : Option String :=
  (entry.values? name).bind List.head?

/-- An attribute that is stored under exactly the name is found whatever else there is. -/
theorem values?_of_lookup {entry : Entry} {name : String} {values : List String}
    (h : entry.attributes.lookup name = some values) : entry.values? name = some values := by
  simp [values?, h]

end Entry

end DirectorySignIn
