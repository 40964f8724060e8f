import DirectorySignIn.Directory.Entry
import DirectorySignIn.Directory.Error
import DirectorySignIn.Provider.Config
import DirectorySignIn.Text.Blank
import DirectorySignIn.Text.Lowercase

/-!
# Profiles

What a directory says about a user: an id, a name and an email address, without white space
around them and the address in lower case.

Main results:

- `ofEntry_id_ne_empty`: a profile that was read from an entry has an id.
-/

namespace DirectorySignIn

/-- What a directory says about a user. -/
structure Profile where
  id : String
  name : String
  email : String
deriving DecidableEq

namespace Profile

/-- The profile of three texts as a directory gives them. -/
def ofTexts (id name email : String) : Profile :=
  ⟨Text.trim id, Text.trim name, Text.lowercase (Text.trim email)⟩

/-- What the attributes of an entry say; a missing one says nothing. -/
def ofAttributes (config : ProviderConfig) (entry : Entry) : Profile :=
  ofTexts
    ((entry.first? config.usernameAttribute).getD "")
    ((entry.first? config.nameAttribute).getD "")
    ((entry.first? config.mailAttribute).getD "")

/-- The profile of an entry.  An entry without an id is no user. -/
def ofEntry (config : ProviderConfig) (entry : Entry) : Except DirectoryError Profile :=
  if (ofAttributes config entry).id = "" then .error (.userNotFound 0)
  else .ok (ofAttributes config entry)

/-- A profile that was read from an entry has an id. -/
theorem ofEntry_id_ne_empty {config : ProviderConfig} {entry : Entry} {profile : Profile}
    (h : ofEntry config entry = .ok profile) : profile.id ≠ "" := by
  unfold ofEntry at h
  split at h
  · simp at h
  · next ne => cases h; exact ne

/-- A profile as JSON. -/
def json (profile : Profile) : Json :=
  .object [
    ("id", .string profile.id),
    ("name", .string profile.name),
    ("email", .string profile.email)]

end Profile

end DirectorySignIn
