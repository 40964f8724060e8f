import DirectorySignIn.Proofs.Directory.Profile
import DirectorySignIn.Proofs.SignIn.Repetition
import DirectorySignIn.Proofs.Text.Lowercase

/-!
# Normal profiles

A profile is made of three texts by trimming them and by lower-casing the address.  To do so once more
changes nothing.  The white space around the texts and the case of the ASCII letters in the address
are forgotten, so that entries which differ in nothing else belong to the same account.

Main results:

- `Profile.ofTexts_congr`: what does not matter to a profile.
- `Profile.normalizes`: profiles are normal, and normal profiles stay as they are.
-/

namespace DirectorySignIn

/-- Two texts differ in the white space around them and in the case of ASCII letters alone. -/
def Text.DifferInPaddingAndCase (a b : String) : Prop :=
  ∃ text other, Pads a text ∧ Pads b other ∧ asciiFold text = asciiFold other

/-- Padding and the case of ASCII letters are forgotten by trimming and lower-casing. -/
theorem Text.DifferInPaddingAndCase.lowercase_trim_eq {a b : String}
    (alike : Text.DifferInPaddingAndCase a b) :
    Text.lowercase (Text.trim a) = Text.lowercase (Text.trim b) := by
  obtain ⟨text, other, padsA, padsB, folded⟩ := alike
  calc Text.lowercase (Text.trim a)
      = Text.lowercase (Text.trim text) := by rw [padsA.trim_eq]
    _ = Text.lowercase (Text.trim (Text.asciiFold text)) := by
        rw [Text.trim_asciiFold, Text.lowercase_asciiFold]
    _ = Text.lowercase (Text.trim (Text.asciiFold other)) := by rw [folded]
    _ = Text.lowercase (Text.trim other) := by
        rw [Text.trim_asciiFold, Text.lowercase_asciiFold]
    _ = Text.lowercase (Text.trim b) := by rw [padsB.trim_eq]

namespace Profile

/-! ## Normal profiles -/

/-- There is no white space around the texts of a profile, and its address is in lower case. -/
structure IsNormal (profile : Profile) : Prop where
  id_trimmed : Text.IsTrimmed profile.id
  name_trimmed : Text.IsTrimmed profile.name
  email_trimmed : Text.IsTrimmed profile.email
  email_small : Text.lowercase profile.email = profile.email

variable {profile : Profile}

/-- A profile that was made of texts is normal. -/
theorem isNormal_ofTexts (id name email : String) : (ofTexts id name email).IsNormal where
  id_trimmed := Text.isTrimmed_trim id
  name_trimmed := Text.isTrimmed_trim name
  email_trimmed := (Text.isTrimmed_trim email).lowercase
  email_small := Text.lowercase_lowercase (Text.trim email)

/-- A normal profile is the profile of its own texts. -/
theorem IsNormal.ofTexts_eq (normal : profile.IsNormal) :
    ofTexts profile.id profile.name profile.email = profile := by
  rw [ofTexts, (Text.isTrimmed_iff _).mp normal.id_trimmed,
    (Text.isTrimmed_iff _).mp normal.name_trimmed,
    (Text.isTrimmed_iff _).mp normal.email_trimmed, normal.email_small]

/-- A profile has the texts that it is made of, without the white space around them, and the address
in lower case. -/
structure Keeps (profile : Profile) (id name email : String) : Prop where
  id_padded : Text.Pads id profile.id
  name_padded : Text.Pads name profile.name
  email_padded : ∃ text, Text.Pads email text ∧ profile.email = Text.lowercase text

/-- A profile that was made of texts keeps what they say. -/
theorem keeps_ofTexts (id name email : String) : (ofTexts id name email).Keeps id name email where
  id_padded := Text.pads_trim id
  name_padded := Text.pads_trim name
  email_padded := ⟨Text.trim email, Text.pads_trim email, rfl⟩

/-- Neither the white space around the texts nor the case of ASCII letters in the address matters to
a profile. -/
theorem ofTexts_congr {id id' name name' email email' : String}
    (ids : Text.DifferInPadding id id') (names : Text.DifferInPadding name name')
    (emails : Text.DifferInPaddingAndCase email email') :
    ofTexts id name email = ofTexts id' name' email' := by
  rw [ofTexts, ofTexts, (Text.differInPadding_iff _ _).mp ids,
    (Text.differInPadding_iff _ _).mp names, emails.lowercase_trim_eq]

/-! ## Profiles of entries -/

/-- The first values of two entries differ in what does not matter to a profile alone.  A value that
is missing is as good as an empty one. -/
structure SaysAlike (config : ProviderConfig) (entry other : Entry) : Prop where
  ids : Text.DifferInPadding ((entry.first? config.usernameAttribute).getD "")
    ((other.first? config.usernameAttribute).getD "")
  names : Text.DifferInPadding ((entry.first? config.nameAttribute).getD "")
    ((other.first? config.nameAttribute).getD "")
  emails : Text.DifferInPaddingAndCase ((entry.first? config.mailAttribute).getD "")
    ((other.first? config.mailAttribute).getD "")

/-- Entries that say the same up to padding and case give the same profile. -/
theorem SaysAlike.ofEntry_eq {config : ProviderConfig} {entry other : Entry}
    (alike : SaysAlike config entry other) : ofEntry config entry = ofEntry config other := by
  unfold ofEntry ofAttributes
  rw [ofTexts_congr alike.ids alike.names alike.emails]

/-! ## Accounts -/

/-- Once a profile has come to an account, another profile comes to that account, if no store fails
and the accounts are as they were left. -/
def LeadsTo (profile other : Profile) : Prop :=
  ∀ {δ : Type} (surroundings faultless : Surroundings δ) (moment later : Moment (Memory δ))
    (tenant : Tenant) (provider : String) (outcome : Reconciliation),
    moment.state.users.ids.Nodup →
    let first := (Reconciliation.reconcile tenant provider profile).run.run
      surroundings.withMemory moment
    first.result = .ok outcome → faultless.Faultless →
    later.state.users = first.after.state.users →
    ((Reconciliation.reconcile tenant provider other).run.run faultless.withMemory later).result =
      .ok (.existing outcome.user)

/-- A profile leads to itself. -/
theorem leadsTo_self (profile : Profile) : profile.LeadsTo profile := by
  intro δ surroundings faultless moment later tenant provider outcome unique first succeeded
    answers same
  have taken := Reconciliation.course surroundings moment tenant provider profile
  simp only [first] at succeeded
  simp only [succeeded] at taken
  have known := (taken.settled unique).2
  rw [← same] at known
  exact (Reconciliation.reconcile_known answers known).1

/-! ## Normalization -/

/-- The profile of three texts keeps what is inside of the white space around them.  It is normal, and
it is the profile of its own texts.  It does not depend on the white space around the three texts, nor
on the case of ASCII letters in the address.  So the profile of an entry has an id without white space
around it, and entries that say alike have the same profile and the same account. -/
theorem normalizes :
    (∀ id name email, (ofTexts id name email).Keeps id name email ∧
      (ofTexts id name email).IsNormal ∧
      ofTexts (ofTexts id name email).id (ofTexts id name email).name
        (ofTexts id name email).email = ofTexts id name email) ∧
    (∀ id id' name name' email email', Text.DifferInPadding id id' →
      Text.DifferInPadding name name' → Text.DifferInPaddingAndCase email email' →
      ofTexts id name email = ofTexts id' name' email') ∧
    (∀ config entry profile, ofEntry config entry = .ok profile →
      profile.id ≠ "" ∧ Text.IsTrimmed profile.id) ∧
    ∀ config entry other, SaysAlike config entry other →
      ofEntry config entry = ofEntry config other ∧
        ∀ profile profile', ofEntry config entry = .ok profile →
          ofEntry config other = .ok profile' → profile.LeadsTo profile' := by
  refine ⟨fun id name email => ?_, fun _ _ _ _ _ _ => ofTexts_congr,
    fun config entry profile read => ?_, fun config entry other alike => ?_⟩
  · have normal := isNormal_ofTexts id name email
    exact ⟨keeps_ofTexts id name email, normal, normal.ofTexts_eq⟩
  · obtain ⟨rfl, present⟩ := ofEntry_eq_ok_iff.mp read
    exact ⟨present, (isNormal_ofTexts _ _ _).id_trimmed⟩
  · refine ⟨alike.ofEntry_eq, fun profile profile' one another => ?_⟩
    obtain rfl : profile = profile' := by
      rw [alike.ofEntry_eq, another] at one
      exact (Except.ok.inj one).symm
    exact leadsTo_self profile

/-- A capital sigma ends a word of the address, whatever the letters behind the word look like. -/
theorem normalizes_sigma :
    let entry : Entry := ⟨"uid=ada", [("uid", [" ada\n"]), ("mail", ["ΟΔΟΣ@EXAMPLE.org "])]⟩
    let other : Entry := ⟨"uid=ada", [("uid", ["ada"]), ("cn", ["\u00A0"]),
      ("mail", ["\tΟΔΟΣ@example.ORG"])]⟩
    let profile : Profile := ⟨"ada", "", "οδος@example.org"⟩
    SaysAlike .sample entry other ∧ ofEntry .sample entry = .ok profile ∧
      ofEntry .sample other = .ok profile ∧ profile.LeadsTo profile := by
  intro entry other profile
  have alike : SaysAlike .sample entry other :=
    { ids := (Text.differInPadding_iff _ _).mpr (by decide +kernel)
      names := (Text.differInPadding_iff _ _).mpr (by decide +kernel)
      emails := ⟨_, _, Text.pads_trim _, Text.pads_trim _, by decide +kernel⟩ }
  have read : ofEntry .sample entry = .ok profile := by decide +kernel
  obtain ⟨same, account⟩ := normalizes.2.2.2 .sample entry other alike
  have read' : ofEntry .sample other = .ok profile := same.symm.trans read
  exact ⟨alike, read, read', account profile profile read read'⟩

end Profile

end DirectorySignIn
