import DirectorySignIn.Proofs.SignIn.Attempts
import DirectorySignIn.Proofs.SignIn.Faultless
import DirectorySignIn.Proofs.Text.LetterCase

/-!
# Recognition by email

The address of a profile is in lower case; the addresses of accounts are compared with it up to the
case of ASCII letters.  So an account is found by its own address as long as the capitals in that
address are ASCII letters.  One other capital is enough to miss it, and then a public tenant takes
the owner of the account in once more.

Main results:

- `recognized_iff`: the owners of an address are recognized by it exactly if all its capitals are
  ASCII letters.
- `not_recognized_umlaut`: an address whose owner gets a second account.
-/

namespace DirectorySignIn

variable {δ : Type}

namespace Reconciliation

/-- Whoever has an account with this address in a tenant is recognized by it: a profile with the
address is never registered in the tenant, and if no store fails, it comes to an account that is
there already. -/
def Recognized (email : String) : Prop :=
  ∀ {δ : Type} (surroundings : Surroundings δ) (moment : Moment (Memory δ)) (tenant : Tenant)
    (provider id name : String),
    (∃ user ∈ moment.state.users.users, user.tenant = tenant.id ∧ user.email = email) →
    let run := (reconcile tenant provider (Profile.ofTexts id name email)).run.run
      surroundings.withMemory moment
    (∀ account, run.result ≠ .ok (.registered account)) ∧
      (surroundings.Faultless →
        ∃ account, run.result = .ok (.existing account) ∨ run.result = .ok (.linked account))

/-! ## Addresses that are found -/

/-- An address without capitals beyond ASCII finds an account that has it. -/
theorem findEmail?_lowercase_ne_none {users : UserStore} {tenant : TenantId} {user : User}
    (stored : user ∈ users.users) (own : user.tenant = tenant) (named : user.email ≠ "")
    (capitals : Text.AsciiCapitals user.email.toList) :
    users.findEmail? tenant (Text.lowercase user.email) ≠ none := by
  intro nobody
  have same := (Text.asciiFold_lowercase_eq_iff user.email).mpr capitals
  have kept : Text.lowercase user.email ≠ "" := by
    intro empty
    rw [empty] at same
    exact named (Text.eq_empty_of_asciiFold_eq same.symm)
  have missed := UserStore.equalFold_of_findEmail?_eq_none nobody kept user stored own
  rw [Text.equalFold_comm, (Text.equalFold_iff _ _).mpr same] at missed
  exact Bool.noConfusion missed

/-- If the address is found, no course registers anyone. -/
theorem Course.ne_registered {users after : UserStore} {tenant : Tenant} {provider : String}
    {profile : Profile} {calls : List Call} {result : Except Error Reconciliation}
    (course : Course users tenant provider profile calls result after)
    (found : users.findEmail? tenant.id profile.email ≠ none) (account : User) :
    result ≠ .ok (.registered account) := by
  rintro rfl
  cases course with
  | registered _ _ nobody _ _ => exact found nobody

/-- If the address is found, the outcome is an account that is there already. -/
theorem Due.of_found {surroundings : Surroundings δ} {users : UserStore} {tenant : Tenant}
    {provider : String} {profile : Profile} {result : Except Error Reconciliation}
    (due : Due surroundings users tenant provider profile result)
    (found : users.findEmail? tenant.id profile.email ≠ none) :
    ∃ account, result = .ok (.existing account) ∨ result = .ok (.linked account) := by
  cases due with
  | existing _ => exact ⟨_, .inl rfl⟩
  | linked _ _ => exact ⟨_, .inr rfl⟩
  | refused _ nobody _ | registered _ _ nobody _ _ | taken _ _ nobody _ _ =>
    exact absurd nobody found

/-- An address whose capitals are all ASCII is recognized. -/
theorem recognized_of_asciiCapitals {email : String} (named : email ≠ "")
    (trimmed : Text.trim email = email) (capitals : Text.AsciiCapitals email.toList) :
    Recognized email := by
  rintro δ surroundings moment tenant provider id name ⟨user, stored, own, rfl⟩
  have found : moment.state.users.findEmail? tenant.id
      (Profile.ofTexts id name user.email).email ≠ none := by
    rw [Profile.ofTexts, trimmed]
    exact findEmail?_lowercase_ne_none stored own named capitals
  intro run
  constructor
  · exact (course surroundings moment tenant provider _).ne_registered found
  · exact fun faultless => (faultless.due moment tenant provider _).of_found found

/-! ## Addresses that are missed -/

/-- The only account is that of someone with a certain address. -/
def soleOwner (email : String) : Moment (Memory Unit) :=
  ⟨0, ⟨.empty, ⟨[{ User.sample with email }]⟩, ()⟩⟩

/-- The tenant of the samples, which takes in strangers. -/
def openTenant : Tenant :=
  ⟨⟨⟨0⟩⟩, "demo", false⟩

/-- A stranger to an open tenant who is given an id that is free is registered. -/
theorem Due.of_stranger {surroundings : Surroundings δ} {users : UserStore} {tenant : Tenant}
    {provider : String} {profile : Profile} {result : Except Error Reconciliation}
    (due : Due surroundings users tenant provider profile result)
    (unknown : users.findIdentity? tenant.id provider profile.id = none)
    (nobody : users.findEmail? tenant.id profile.email = none)
    (opened : tenant.isPrivate = false) (free : ∀ id, surroundings.Draws id → id ∉ users.ids) :
    ∃ account, result = .ok (.registered account) := by
  cases due with
  | existing known => rw [unknown] at known; contradiction
  | linked _ found => rw [nobody] at found; contradiction
  | refused _ _ closed => rw [opened] at closed; contradiction
  | registered _ _ _ _ _ => exact ⟨_, rfl⟩
  | taken drawn _ _ _ taken => exact absurd taken (free _ drawn)

/-- An address with a capital beyond ASCII misses the only account that has it, and its owner is
registered once more. -/
theorem exists_registered_of_not_asciiCapitals {email : String} (trimmed : Text.trim email = email)
    (capitals : ¬ Text.AsciiCapitals email.toList) :
    ∃ account, ((reconcile openTenant "ldap" (Profile.ofTexts "ada" "Ada" email)).run.run
      Surroundings.calm.withMemory (soleOwner email)).result = .ok (.registered account) := by
  have missed : Text.equalFold email (Text.lowercase email) = false := by
    rw [Bool.eq_false_iff, ne_eq, Text.equalFold_iff, eq_comm, Text.asciiFold_lowercase_eq_iff]
    exact capitals
  refine (Surroundings.faultless_calm.due (soleOwner email) openTenant "ldap" _).of_stranger
    ?unknown ?nobody rfl ?free
  case unknown =>
    simp [soleOwner, UserStore.findIdentity?, User.linkedId?, User.sample]
  case nobody =>
    simp [soleOwner, UserStore.findEmail?, Profile.ofTexts, trimmed, missed]
  case free =>
    rintro _ ⟨_, rfl⟩
    change (⟨⟨1⟩⟩ : UserId) ∉ [User.sample.id]
    decide

/-- The owners of an address, which is not empty and has no white space around it, are recognized
by it exactly if all its capitals are ASCII letters. -/
theorem recognized_iff (email : String) (named : email ≠ "") (trimmed : Text.trim email = email) :
    Recognized email ↔ Text.AsciiCapitals email.toList := by
  refine ⟨fun recognized => ?_, recognized_of_asciiCapitals named trimmed⟩
  by_contra capitals
  obtain ⟨account, registered⟩ := exists_registered_of_not_asciiCapitals trimmed capitals
  have owned : ∃ user ∈ (soleOwner email).state.users.users,
      user.tenant = openTenant.id ∧ user.email = email :=
    ⟨_, List.mem_singleton.mpr rfl, rfl, rfl⟩
  exact (recognized Surroundings.calm (soleOwner email) openTenant "ldap" "ada" "Ada" owned).1
    account registered

/-- The owner of an address with ASCII capitals is recognized by it. -/
theorem recognized_iff_capitals :
    "Ada@Example.org" ≠ "" ∧ Text.trim "Ada@Example.org" = "Ada@Example.org" ∧
      Recognized "Ada@Example.org" := by
  have named : "Ada@Example.org" ≠ "" := by decide
  have trimmed : Text.trim "Ada@Example.org" = "Ada@Example.org" := by decide +kernel
  exact ⟨named, trimmed, (recognized_iff _ named trimmed).mpr (by decide +kernel)⟩

/-- The owner of this address has an account, and is registered once more. -/
theorem not_recognized_umlaut :
    "Ünal@example.org" ≠ "" ∧ Text.trim "Ünal@example.org" = "Ünal@example.org" ∧
      ¬ Recognized "Ünal@example.org" := by
  refine ⟨by decide, by decide +kernel, fun recognized => ?_⟩
  have owned : ∃ user ∈ (soleOwner "Ünal@example.org").state.users.users,
      user.tenant = openTenant.id ∧ user.email = "Ünal@example.org" :=
    ⟨_, List.mem_singleton.mpr rfl, rfl, rfl⟩
  refine (recognized Surroundings.calm (soleOwner "Ünal@example.org") openTenant "ldap" "unal"
    "Ünal" owned).1 ⟨⟨⟨1⟩⟩, openTenant.id, "Ünal", "ünal@example.org", .visitor,
      [⟨"ldap", "unal"⟩]⟩ ?_
  decide +kernel

end Reconciliation

end DirectorySignIn
