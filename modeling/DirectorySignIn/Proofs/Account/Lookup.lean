import DirectorySignIn.Proofs.Account.Links

/-!
# Look-ups among the accounts

A look-up comes upon the first account that meets its condition, if there is one: that of holding a
link, or that of having an email address.

Main results:

- `findIdentity?_eq_some_iff`, `findIdentity?_eq_none_iff`: what a look-up by a link comes upon.
- `findEmail?_eq_some_iff`, `findEmail?_eq_none_iff`: what a look-up by an email address comes upon.
- `findIdentity?_map_append`, `findEmail?_map_append`: changes that do not matter to the condition of a
  look-up, and new accounts that do not meet it, leave it with the same account.
-/

namespace DirectorySignIn

namespace User

/-- An account of a tenant has an email address, up to the case of ASCII letters.  Nobody has the
empty address. -/
def IsAddressed (user : User) (tenant : TenantId) (email : String) : Prop :=
  email ≠ "" ∧ user.tenant = tenant ∧ Text.equalFold user.email email = true

end User

namespace UserStore

variable {store : UserStore} {tenant : TenantId} {fits : User → Prop} {before behind : List User}
  {user : User}

/-- An account is the first one that meets a condition; others stand before and behind it. -/
structure IsFirst (store : UserStore) (fits : User → Prop) (before : List User) (user : User)
    (behind : List User) : Prop where
  split : store.users = before ++ user :: behind
  met : fits user
  unmet : ∀ other ∈ before, ¬ fits other

theorem IsFirst.mem (isFirst : store.IsFirst fits before user behind) : user ∈ store.users := by
  rw [isFirst.split]
  exact List.mem_append_right _ List.mem_cons_self

/-- If no two accounts have an id in common, an account is linked where it stands. -/
theorem IsFirst.attach_eq (isFirst : store.IsFirst fits before user behind)
    (unique : store.ids.Nodup) (provider uid : String) :
    store.attach user.id provider uid = .ok ⟨before ++ user.link provider uid :: behind⟩ := by
  have others : ∀ other ∈ before, other.id ≠ user.id := by
    rw [ids, isFirst.split, List.map_append, List.map_cons] at unique
    intro other older
    exact (List.nodup_append.mp unique).2.2 _ (List.mem_map_of_mem older) _ List.mem_cons_self
  rw [attach_of_mem (List.mem_map_of_mem isFirst.mem), attached, isFirst.split,
    updateFirst_middle _ others]

/-- A search for a condition comes upon the first account that meets it. -/
theorem find?_eq_some_iff_isFirst {test : User → Bool} (tests : ∀ user, test user = true ↔ fits user) :
    store.users.find? test = some user ↔ ∃ before behind, store.IsFirst fits before user behind := by
  rw [List.find?_eq_some_iff_append]
  constructor
  · rintro ⟨met, before, behind, split, unmet⟩
    refine ⟨before, behind, split, (tests user).mp met, fun other older => ?_⟩
    rw [← tests other]
    simpa using unmet other older
  · rintro ⟨before, behind, split, met, unmet⟩
    refine ⟨(tests user).mpr met, before, behind, split, fun other older => ?_⟩
    simpa [← tests other] using unmet other older

/-- A test finds nobody exactly if nobody fits. -/
theorem find?_eq_none_iff_unmet {test : User → Bool} (tests : ∀ user, test user = true ↔ fits user) :
    store.users.find? test = none ↔ ∀ user ∈ store.users, ¬ fits user := by
  rw [List.find?_eq_none]
  exact forall₂_congr fun user _ => not_congr (tests user)

/-- The test of a lookup by link is passed by those who hold the link. -/
theorem holds_iff_test (provider uid : String) (user : User) :
    (user.tenant == tenant && user.linkedId? provider == some uid) = true ↔
      user.Holds tenant provider uid := by
  simp [User.Holds]

/-- A link finds the first account that holds it. -/
theorem findIdentity?_eq_some_iff {provider uid : String} :
    store.findIdentity? tenant provider uid = some user ↔
      ∃ before behind, store.IsFirst (·.Holds tenant provider uid) before user behind :=
  find?_eq_some_iff_isFirst (holds_iff_test provider uid)

/-- A link finds nobody exactly if nobody holds it. -/
theorem findIdentity?_eq_none_iff {provider uid : String} :
    store.findIdentity? tenant provider uid = none ↔
      ∀ user ∈ store.users, ¬ user.Holds tenant provider uid :=
  find?_eq_none_iff_unmet (holds_iff_test provider uid)

/-- The lookup by email address as a test of each account, which fails for the empty address. -/
theorem findEmail?_eq_find? (email : String) :
    store.findEmail? tenant email = store.users.find? fun user =>
      email != "" && (user.tenant == tenant && Text.equalFold user.email email) := by
  by_cases empty : email = ""
  · simp [findEmail?, empty, eq_comm (a := none)]
  · have named : (email != "") = true := by simpa using empty
    simp [findEmail?, empty, named]

/-- The test of a lookup by email address is passed by those who have the address. -/
theorem isAddressed_iff_test (email : String) (user : User) :
    (email != "" && (user.tenant == tenant && Text.equalFold user.email email)) = true ↔
      user.IsAddressed tenant email := by
  simp [User.IsAddressed]

/-- An email address finds the first account that has it. -/
theorem findEmail?_eq_some_iff {email : String} :
    store.findEmail? tenant email = some user ↔
      ∃ before behind, store.IsFirst (·.IsAddressed tenant email) before user behind := by
  rw [findEmail?_eq_find?]
  exact find?_eq_some_iff_isFirst (isAddressed_iff_test email)

/-- An email address finds nobody exactly if nobody has it. -/
theorem findEmail?_eq_none_iff {email : String} :
    store.findEmail? tenant email = none ↔
      ∀ user ∈ store.users, ¬ user.IsAddressed tenant email := by
  rw [findEmail?_eq_find?]
  exact find?_eq_none_iff_unmet (isAddressed_iff_test email)

/-- A search comes upon the same account as before, which may have been changed, if the changes to the
accounts do not matter to its condition and the new accounts do not meet it. -/
theorem find?_map_append {test : User → Bool} (tests : ∀ user, test user = true ↔ fits user)
    {change : User → User} {users added : List User}
    (unseen : ∀ user ∈ users, fits (change user) ↔ fits user) (unmet : ∀ user ∈ added, ¬ fits user) :
    (users.map change ++ added).find? test = (users.find? test).map change := by
  induction users with
  | nil =>
    refine List.find?_eq_none.mpr fun user isNew met => ?_
    exact unmet user isNew ((tests user).mp met)
  | cons user rest ih =>
    obtain ⟨here, elsewhere⟩ := List.forall_mem_cons.mp unseen
    have same : test (change user) = test user := by
      rw [Bool.eq_iff_iff, tests, tests, here]
    rw [List.map_cons, List.cons_append, List.find?_cons, List.find?_cons, same, ih elsewhere]
    cases test user <;> rfl

/-- If changes to accounts and new accounts do not touch who holds a link, it finds the same
account, changed. -/
theorem findIdentity?_map_append {provider uid : String} {change : User → User} {added : List User}
    (unseen : ∀ user ∈ store.users,
      (change user).Holds tenant provider uid ↔ user.Holds tenant provider uid)
    (unmet : ∀ user ∈ added, ¬ user.Holds tenant provider uid) :
    (⟨store.users.map change ++ added⟩ : UserStore).findIdentity? tenant provider uid =
      (store.findIdentity? tenant provider uid).map change :=
  find?_map_append (holds_iff_test provider uid) unseen unmet

/-- If changes to accounts and new accounts do not touch who has an email address, it finds the same
account, changed. -/
theorem findEmail?_map_append {email : String} {change : User → User} {added : List User}
    (unseen : ∀ user ∈ store.users,
      (change user).IsAddressed tenant email ↔ user.IsAddressed tenant email)
    (unmet : ∀ user ∈ added, ¬ user.IsAddressed tenant email) :
    (⟨store.users.map change ++ added⟩ : UserStore).findEmail? tenant email =
      (store.findEmail? tenant email).map change := by
  rw [findEmail?_eq_find?, findEmail?_eq_find?]
  exact find?_map_append (isAddressed_iff_test email) unseen unmet

end UserStore

end DirectorySignIn
