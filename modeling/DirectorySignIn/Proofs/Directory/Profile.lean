import DirectorySignIn.Proofs.SignIn.Bracketing
import DirectorySignIn.Proofs.SignIn.Verification
import DirectorySignIn.Proofs.Text.Trimming

/-!
# The attributes that a profile is read from

A configuration names three attributes.  The filter of a search leaves out the white space around the
name of the username attribute; the search for a profile asks for the names as they are written, and
the profile is read under the names as they are written.  The entries of a directory have no such
white space in the names of their attributes.  So a user whose username attribute is written with a
blank is found and verified, but has no profile.

Main results:

- `Service.verifyWithin_trimmed`: white space around the names does not matter to a verification.
- `Entry.Proper.first?_eq_none`: nothing is read under a name with white space around it.
- `Service.isTrimmed_of_succeeds_readProfileWithin`: so no profile is read in a session whose username
  attribute is written with white space around it.
- `ProviderConfig.agrees_trimmed_iff`: searching and reading agree on the attributes exactly if there is
  no white space around their names.
-/

namespace DirectorySignIn

/-! ## Names with white space around them -/

namespace ProviderConfig

/-- A configuration without the white space around the names of its attributes. -/
def trimmed (config : ProviderConfig) : ProviderConfig :=
  { config with
    usernameAttribute := Text.trim config.usernameAttribute
    nameAttribute := Text.trim config.nameAttribute
    mailAttribute := Text.trim config.mailAttribute }

/-- There is no white space around the names of the attributes. -/
structure NamesTrimmed (config : ProviderConfig) : Prop where
  username : Text.IsTrimmed config.usernameAttribute
  name : Text.IsTrimmed config.nameAttribute
  mail : Text.IsTrimmed config.mailAttribute

variable {config : ProviderConfig}

/-- Attribute names are trimmed exactly if trimming them changes nothing. -/
theorem namesTrimmed_iff : config.NamesTrimmed ↔ config.trimmed = config := by
  constructor
  · rintro ⟨username, name, mail⟩
    rw [trimmed, (Text.isTrimmed_iff _).mp username, (Text.isTrimmed_iff _).mp name,
      (Text.isTrimmed_iff _).mp mail]
  · intro same
    constructor <;> rw [← same] <;> exact Text.isTrimmed_trim _

/-- The search for a profile asks for the same attributes exactly if there is no white space around
their names. -/
theorem profileAttributes_trimmed_iff :
    config.trimmed.profileAttributes = config.profileAttributes ↔ config.NamesTrimmed := by
  simp only [profileAttributes, trimmed, List.cons.injEq, and_true, ← Text.isTrimmed_iff]
  exact ⟨fun ⟨username, name, mail⟩ => ⟨username, name, mail⟩,
    fun ⟨username, name, mail⟩ => ⟨username, name, mail⟩⟩

/-- White space around the name of the username attribute does not get into a filter. -/
theorem forUser_trimmed (config : ProviderConfig) (username : String) :
    Filter.forUser config.trimmed username = Filter.forUser config username := by
  have kept : Text.trimBlanks (Text.trim config.usernameAttribute).toList =
      Text.trimBlanks config.usernameAttribute.toList := by
    rw [← Text.toList_trim, Text.trim_trim, Text.toList_trim]
  rw [Filter.forUser, Filter.forUserWith, trimmed, kept]
  rfl

end ProviderConfig

/-- White space around the names of the attributes does not matter to a verification. -/
theorem Service.verifyWithin_trimmed (username password : String) (session : Session) :
    verifyWithin username password { session with config := session.config.trimmed } =
      verifyWithin username password session := by
  unfold verifyWithin Session.findUser
  rw [ProviderConfig.forUser_trimmed]
  rfl

/-! ## Reading an entry -/

namespace Entry

variable {entry : Entry} {name value : String}

/-- There is no white space around the names of the attributes of an entry, and they differ from one
another in more than the case of ASCII letters. -/
structure Proper (entry : Entry) : Prop where
  trimmed : ∀ a ∈ entry.attributes, Text.IsTrimmed a.1
  distinct : (entry.attributes.map fun a => Text.asciiFold a.1).Nodup

/-- Nothing is read from an entry under a name with white space around it. -/
theorem Proper.first?_eq_none (proper : entry.Proper) (untrimmed : ¬ Text.IsTrimmed name) :
    entry.first? name = none := by
  have unlike : ∀ a ∈ entry.attributes, ¬ Text.equalFold a.1 name = true := by
    intro a listed same
    rw [Text.equalFold_iff] at same
    refine untrimmed ((Text.isTrimmed_asciiFold name).mp ?_)
    rw [← same, Text.isTrimmed_asciiFold]
    exact proper.trimmed a listed
  have unlisted : entry.attributes.lookup name = none := by
    refine List.lookup_eq_none_iff.mpr fun a listed => ?_
    rw [bne_iff_ne]
    rintro rfl
    exact unlike a listed (Text.equalFold_refl _)
  rw [first?, values?, unlisted, List.find?_eq_none.mpr unlike]
  rfl

/-- If something that depends on the value of an attribute is the same without the white space around
the name, there is no such white space. -/
theorem Proper.isTrimmed_of_read_eq (proper : entry.Proper) {f : String → String}
    (tells : f value ≠ f "") (said : entry.first? (Text.trim name) = some value)
    (same : f ((entry.first? (Text.trim name)).getD "") = f ((entry.first? name).getD "")) :
    Text.IsTrimmed name := by
  refine Classical.byContradiction fun untrimmed => tells ?_
  rwa [said, proper.first?_eq_none untrimmed] at same

/-- If all attributes have the same first value, it is read under each of their names. -/
theorem first?_of_forall_head? (same : ∀ a ∈ entry.attributes, a.2.head? = some value)
    (listed : ∃ a ∈ entry.attributes, Text.equalFold a.1 name = true) :
    entry.first? name = some value := by
  unfold first? values?
  cases written : entry.attributes.lookup name with
  | some values =>
    obtain ⟨before, behind, split, -⟩ := List.lookup_eq_some_iff.mp written
    refine same (name, values) ?_
    rw [split]
    exact List.mem_append_right _ List.mem_cons_self
  | none =>
    obtain ⟨a, found⟩ := Option.isSome_iff_exists.mp (List.find?_isSome.mpr listed)
    dsimp only
    rw [found]
    exact same a (List.mem_of_find?_eq_some found)

/-- There is a proper entry that has the same value under two names. -/
theorem exists_proper (value : String) {one two : String} (trimmedOne : Text.IsTrimmed one)
    (trimmedTwo : Text.IsTrimmed two) :
    ∃ entry : Entry, entry.Proper ∧ entry.first? one = some value ∧
      entry.first? two = some value := by
  by_cases same : Text.equalFold one two = true
  · refine ⟨⟨"", [(one, [value])]⟩, ⟨by simpa using trimmedOne, List.pairwise_singleton _ _⟩, ?_, ?_⟩
    · exact first?_of_forall_head? (by simp) (by simp)
    · exact first?_of_forall_head? (by simp) (by simpa using same)
  · have apart : Text.asciiFold one ≠ Text.asciiFold two := mt (Text.equalFold_iff one two).mpr same
    refine ⟨⟨"", [(one, [value]), (two, [value])]⟩, ⟨?_, by simpa using apart⟩, ?_, ?_⟩
    · simpa using ⟨trimmedOne, trimmedTwo⟩
    · exact first?_of_forall_head? (by simp) (by simp)
    · exact first?_of_forall_head? (by simp) (by simp)

end Entry

namespace Profile

variable {config : ProviderConfig} {entry : Entry} {profile : Profile}

/-- A profile is read from an entry exactly if the id among its attributes is not empty. -/
theorem ofEntry_eq_ok_iff :
    ofEntry config entry = .ok profile ↔ profile = ofAttributes config entry ∧ profile.id ≠ "" := by
  unfold ofEntry
  split
  · rename_i absent
    constructor
    · intro impossible
      cases impossible
    · rintro ⟨rfl, present⟩
      exact absurd absent present
  · rename_i present
    constructor
    · intro read
      cases read
      exact ⟨rfl, present⟩
    · rintro ⟨rfl, -⟩
      rfl

/-- An entry has a profile exactly if the first value of its username attribute is not blank. -/
theorem exists_ofEntry_eq_ok_iff : (∃ profile, ofEntry config entry = .ok profile) ↔
    ∃ value, entry.first? config.usernameAttribute = some value ∧
      Text.isBlankText value = false := by
  have read : (∃ profile, ofEntry config entry = .ok profile) ↔
      (ofAttributes config entry).id ≠ "" := by
    constructor
    · rintro ⟨profile, read⟩
      obtain ⟨rfl, present⟩ := ofEntry_eq_ok_iff.mp read
      exact present
    · intro present
      exact ⟨_, ofEntry_eq_ok_iff.mpr ⟨rfl, present⟩⟩
  rw [read, ofAttributes, ofTexts, ne_eq, Text.trim_eq_empty_iff, Bool.not_eq_true]
  cases entry.first? config.usernameAttribute with
  | none => simp [Text.isBlankText]
  | some value => simp

/-- If there is white space around the name of the username attribute, no proper entry has a
profile. -/
theorem ofEntry_of_untrimmed (untrimmed : ¬ Text.IsTrimmed config.usernameAttribute)
    (proper : entry.Proper) : ofEntry config entry = .error (.userNotFound 0) := by
  have absent : (ofAttributes config entry).id = "" := by
    rw [ofAttributes, proper.first?_eq_none untrimmed]
    rfl
  rw [ofEntry, if_pos absent]

/-- If all proper entries have the same profiles without the white space around the names of the
attributes, there is no such white space. -/
theorem namesTrimmed_of_ofEntry_trimmed (same : ∀ entry : Entry, entry.Proper →
    ofEntry config.trimmed entry = ofEntry config entry) : config.NamesTrimmed := by
  -- An entry with an id has the same texts, whatever it has under another name.
  have agree : ∀ {name : String}, Text.IsTrimmed name → ∃ entry : Entry, entry.Proper ∧
      entry.first? name = some "ada" ∧
      ofAttributes config.trimmed entry = ofAttributes config entry := by
    intro name trimmed
    obtain ⟨entry, proper, known, said⟩ :=
      Entry.exists_proper "ada" (Text.isTrimmed_trim config.usernameAttribute) trimmed
    have id_eq : (ofAttributes config.trimmed entry).id = Text.trim "ada" := by
      rw [ofAttributes, ProviderConfig.trimmed, known]
      rfl
    have read : ofEntry config.trimmed entry = .ok (ofAttributes config.trimmed entry) :=
      ofEntry_eq_ok_iff.mpr ⟨rfl, by rw [id_eq]; decide⟩
    rw [same entry proper] at read
    exact ⟨entry, proper, said, (ofEntry_eq_ok_iff.mp read).1⟩
  constructor
  · obtain ⟨entry, proper, said, texts⟩ := agree (Text.isTrimmed_trim config.usernameAttribute)
    exact proper.isTrimmed_of_read_eq (f := Text.trim) (by decide) said (congrArg Profile.id texts)
  · obtain ⟨entry, proper, said, texts⟩ := agree (Text.isTrimmed_trim config.nameAttribute)
    exact proper.isTrimmed_of_read_eq (f := Text.trim) (by decide) said
      (congrArg Profile.name texts)
  · obtain ⟨entry, proper, said, texts⟩ := agree (Text.isTrimmed_trim config.mailAttribute)
    have tells : Text.lowercase (Text.trim "ada") ≠ Text.lowercase (Text.trim "") := by
      decide +kernel
    have emails := congrArg Profile.email texts
    simp only [ofAttributes, ofTexts, ProviderConfig.trimmed] at emails
    exact proper.isTrimmed_of_read_eq (f := fun text => Text.lowercase (Text.trim text)) tells said
      emails

end Profile

/-! ## Sessions -/

namespace Service

variable {σ : Type} {environment : Environment σ} {moment later : Moment σ} {username : String}
  {session : Session} {profile : Profile}

/-- In a session, a profile is read if the directory grants the bind of the service account and a
search that finds one entry alone, and it is the profile of that entry. -/
theorem succeeds_readProfileWithin :
    Task.Succeeds environment (readProfileWithin username session) moment profile later ↔
      ∃ bound entry,
        session.budget.Grants environment
            (.bind session.config.bindUsername session.config.bindPassword.reveal) moment () bound ∧
          session.budget.Grants environment (.search session.config.rootDn session.config.scope
            (Filter.forUser session.config username) session.config.profileAttributes) bound
            [entry] later ∧
          Profile.ofEntry session.config entry = .ok profile := by
  unfold readProfileWithin
  simp only [Task.succeeds_bind, Session.succeeds_bindService, Session.succeeds_findUser,
    Task.succeeds_ofExcept]
  constructor
  · rintro ⟨_, bound, serviceBound, entry, _, found, read, rfl⟩
    exact ⟨bound, entry, serviceBound, found, read⟩
  · rintro ⟨bound, entry, serviceBound, found, read⟩
    exact ⟨(), bound, serviceBound, entry, later, found, read, rfl⟩

/-- If there is white space around the name of the username attribute, no profile is read in a session
with a directory of proper entries. -/
theorem isTrimmed_of_succeeds_readProfileWithin
    (proper : ∀ bound searched entry, session.budget.Grants environment
      (.search session.config.rootDn session.config.scope
        (Filter.forUser session.config username) session.config.profileAttributes) bound [entry]
        searched → entry.Proper)
    (read : Task.Succeeds environment (readProfileWithin username session) moment profile later) :
    Text.IsTrimmed session.config.usernameAttribute := by
  obtain ⟨bound, entry, -, found, read⟩ := succeeds_readProfileWithin.mp read
  refine Classical.byContradiction fun untrimmed => ?_
  rw [Profile.ofEntry_of_untrimmed untrimmed (proper bound later entry found)] at read
  cases read

end Service

/-! ## Searching and reading -/

/-- With and without the white space around the names of the attributes, a configuration searches with
the same filters.  It asks for the same attributes exactly if there is no such white space, and only
then it has the same profiles of all proper entries.  A proper entry has a profile exactly if there is
no white space around the name of the username attribute and its first value is not blank. -/
theorem ProviderConfig.agrees_trimmed_iff (config : ProviderConfig) :
    (∀ username, Filter.forUser config.trimmed username = Filter.forUser config username) ∧
      (config.trimmed.profileAttributes = config.profileAttributes ↔ config.NamesTrimmed) ∧
      ((∀ entry : Entry, entry.Proper →
        Profile.ofEntry config.trimmed entry = Profile.ofEntry config entry) ↔
          config.NamesTrimmed) ∧
      ∀ entry : Entry, entry.Proper →
        ((∃ profile, Profile.ofEntry config entry = .ok profile) ↔
          Text.IsTrimmed config.usernameAttribute ∧
            ∃ value, entry.first? config.usernameAttribute = some value ∧
              Text.isBlankText value = false) := by
  refine ⟨config.forUser_trimmed, profileAttributes_trimmed_iff,
    ⟨Profile.namesTrimmed_of_ofEntry_trimmed, fun names entry _ => ?_⟩, fun entry proper => ?_⟩
  · rw [namesTrimmed_iff.mp names]
  · rw [Profile.exists_ofEntry_eq_ok_iff]
    refine ⟨fun present => ⟨Classical.byContradiction fun untrimmed => ?_, present⟩, And.right⟩
    obtain ⟨value, said, -⟩ := present
    rw [proper.first?_eq_none untrimmed] at said
    cases said

/-- With a blank behind the name of the mail attribute there are profiles, but they are other ones. -/
theorem ProviderConfig.agrees_trimmed_iff_mail :
    let config : ProviderConfig := { ProviderConfig.sample with mailAttribute := "mail " }
    let entry : Entry := ⟨"uid=ada", [("uid", ["ada"]), ("mail", ["ada@example.org"])]⟩
    entry.Proper ∧ ¬ config.NamesTrimmed ∧
      config.trimmed.profileAttributes ≠ config.profileAttributes ∧
      ∃ profile, Profile.ofEntry config entry = .ok profile := by
  intro config entry
  obtain ⟨-, attributes, -, profiles⟩ := agrees_trimmed_iff config
  have proper : entry.Proper := by
    refine ⟨?_, by decide⟩
    simp only [Text.isTrimmed_iff]
    decide +kernel
  have differ : config.trimmed.profileAttributes ≠ config.profileAttributes := by decide
  have username : Text.IsTrimmed config.usernameAttribute :=
    (Text.isTrimmed_iff _).mpr (by decide)
  exact ⟨proper, mt attributes.mpr differ, differ,
    (profiles entry proper).mpr ⟨username, "ada", by decide, by decide⟩⟩

/-- With blanks around the name of the username attribute, Ada is found, but has no profile. -/
theorem Profile.ofEntry_blanks_around_uid :
    let config : ProviderConfig := { ProviderConfig.sample with usernameAttribute := " uid " }
    let entry : Entry := .sample "ada"
    entry.Proper ∧ Filter.forUser config "ada" = "(uid=ada)" ∧
      config.trimmed.profileAttributes ≠ config.profileAttributes ∧
      ofEntry config.trimmed entry = .ok ⟨"ada", "", ""⟩ ∧
      ofEntry config entry = .error (.userNotFound 0) := by
  intro config entry
  have proper : entry.Proper := by
    refine ⟨?_, by decide⟩
    simp only [Text.isTrimmed_iff]
    decide +kernel
  have untrimmed : ¬ Text.IsTrimmed config.usernameAttribute :=
    mt (Text.isTrimmed_iff _).mp (by decide)
  exact ⟨proper, by decide, by decide, ofEntry_eq_ok_iff.mpr ⟨by decide +kernel, by decide⟩,
    ofEntry_of_untrimmed untrimmed proper⟩

end DirectorySignIn
