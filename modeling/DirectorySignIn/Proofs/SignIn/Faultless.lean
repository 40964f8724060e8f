import DirectorySignIn.Proofs.Account.Update
import DirectorySignIn.Proofs.SignIn.Reconciliation

/-!
# Reconciling without failures

If no call on the stores fails, what comes of a reconciliation is settled by the accounts alone: who
holds the link, who has the email address, and whether the tenant takes in strangers.  All that is
left open is which id a stranger is given, and a stranger who is given one that is taken is not
registered.

Main results:

- `settle_of_unhindered`: whom the look-ups find decides what a reconciliation comes to.
- `Faultless.due`: the outcome of every reconciliation against stores that do not fail.
-/

namespace DirectorySignIn

variable {δ : Type}

namespace Surroundings

/-- No call on the stores fails. -/
def Faultless (surroundings : Surroundings δ) : Prop :=
  ∀ call outside, (surroundings.failure call outside).1 = none

/-- An id may be drawn for a new account. -/
def Draws (surroundings : Surroundings δ) (id : UserId) : Prop :=
  ∃ outside, (surroundings.drawUserId outside).1 = id

/-- Surroundings in which no store fails and every new account is given one and the same id. -/
def calm : Surroundings Unit where
  failure _ _ := (none, ())
  directory _ _ := (⟨0, .error .deadline⟩, ())
  drawUserId _ := (⟨⟨1⟩⟩, ())

/-- Surroundings in which nothing fails are faultless. -/
theorem faultless_calm : calm.Faultless :=
  fun _ _ => rfl

end Surroundings

namespace Reconciliation

/-- The outcome that the accounts settle for a profile. -/
inductive Due (surroundings : Surroundings δ) (users : UserStore) (tenant : Tenant)
    (provider : String) (profile : Profile) :
    Except Error Reconciliation → Prop where
  /-- An account holds the link. -/
  | existing {user : User}
      (known : users.findIdentity? tenant.id provider profile.id = some user) :
      Due surroundings users tenant provider profile (.ok (.existing user))
  /-- An account has the email address. -/
  | linked {user : User}
      (unknown : users.findIdentity? tenant.id provider profile.id = none)
      (found : users.findEmail? tenant.id profile.email = some user) :
      Due surroundings users tenant provider profile (.ok (.linked (user.link provider profile.id)))
  /-- The tenant does not take in strangers. -/
  | refused (unknown : users.findIdentity? tenant.id provider profile.id = none)
      (nobody : users.findEmail? tenant.id profile.email = none)
      (closed : tenant.isPrivate = true) :
      Due surroundings users tenant provider profile (.error .notInvited)
  /-- A stranger is given an id that is free. -/
  | registered {id : UserId} (drawn : surroundings.Draws id)
      (unknown : users.findIdentity? tenant.id provider profile.id = none)
      (nobody : users.findEmail? tenant.id profile.email = none)
      (opened : tenant.isPrivate = false) (free : id ∉ users.ids) :
      Due surroundings users tenant provider profile
        (.ok (.registered (profile.visitor id tenant.id provider)))
  /-- A stranger is given an id that is taken. -/
  | taken {id : UserId} (drawn : surroundings.Draws id)
      (unknown : users.findIdentity? tenant.id provider profile.id = none)
      (nobody : users.findEmail? tenant.id profile.email = none)
      (opened : tenant.isPrivate = false) (taken : id ∈ users.ids) :
      Due surroundings users tenant provider profile
        (.error (.persistenceFailure ("user " ++ id.text ++ " already exists")))

namespace Due

variable {surroundings : Surroundings δ} {users : UserStore} {tenant : Tenant} {provider : String}
  {profile : Profile} {user : User} {result : Except Error Reconciliation}

/-- If an account holds the link, it is the outcome. -/
theorem of_known (due : Due surroundings users tenant provider profile result)
    (known : users.findIdentity? tenant.id provider profile.id = some user) :
    result = .ok (.existing user) := by
  cases due with
  | existing found => rw [Option.some.inj (known.symm.trans found)]
  | linked unknown _ | refused unknown _ _ | registered _ unknown _ _ _ | taken _ unknown _ _ _ =>
    rw [known] at unknown
    contradiction

end Due

section Unhindered

variable {surroundings : Surroundings δ} {fate : Fate} {users : UserStore} {tenant : Tenant}
  {provider : String} {profile : Profile}

/-- If nothing is made to fail, the email address finds what the accounts hold. -/
theorem emailFound_of_unhindered (unhindered : fate.Unhindered) :
    emailFound fate users tenant profile = .ok (users.findEmail? tenant.id profile.email) := by
  rw [emailFound, unhindered.permit_eq, UserStore.findEmail?]
  split <;> rfl

/-- If nothing fails, whom the look-ups find decides what is settled. -/
theorem settle_of_unhindered (unhindered : fate.Unhindered) :
    settle fate users tenant provider profile =
      match users.findIdentity? tenant.id provider profile.id,
        users.findEmail? tenant.id profile.email with
      | some user, _ =>
        ⟨[.store (.findIdentity tenant.id provider profile.id)], .ok (.existing user), users⟩
      | none, some user =>
        .behind (lookups tenant.id provider profile)
          (.ofWrite users (.attach user.id provider profile.id)
            (.linked (user.link provider profile.id)) (users.attach user.id provider profile.id))
      | none, none =>
        .behind (lookups tenant.id provider profile)
          (settleStranger fate users tenant provider profile) := by
  rw [settle, unhindered.permit_eq]
  cases users.findIdentity? tenant.id provider profile.id with
  | some user => rfl
  | none =>
    dsimp only
    rw [settleUnknown, emailFound_of_unhindered unhindered]
    cases users.findEmail? tenant.id profile.email with
    | some user =>
      dsimp only
      rw [unhindered.permit_eq]
      rfl
    | none => rfl

/-- Nobody has the email address: the tenant decides, and then the id that is drawn. -/
theorem due_settleStranger (unhindered : fate.Unhindered) (drawn : surroundings.Draws fate.id)
    (unknown : users.findIdentity? tenant.id provider profile.id = none)
    (nobody : users.findEmail? tenant.id profile.email = none) :
    Due surroundings users tenant provider profile
      (settleStranger fate users tenant provider profile).result := by
  unfold settleStranger
  cases opened : tenant.isPrivate with
  | true => exact .refused unknown nobody opened
  | false =>
    rw [if_neg Bool.false_ne_true]
    dsimp only
    rw [unhindered.permit_eq]
    by_cases taken : fate.id ∈ users.ids
    · rw [UserStore.register_of_mem taken]
      exact .taken drawn unknown nobody opened taken
    · rw [UserStore.register_of_not_mem taken]
      exact .registered drawn unknown nobody opened taken

/-- If nothing fails, what is settled is the outcome that is due. -/
theorem due_settle (unhindered : fate.Unhindered) (drawn : surroundings.Draws fate.id) :
    Due surroundings users tenant provider profile
      (settle fate users tenant provider profile).result := by
  rw [settle_of_unhindered unhindered]
  cases known : users.findIdentity? tenant.id provider profile.id with
  | some user => exact .existing known
  | none =>
    cases found : users.findEmail? tenant.id profile.email with
    | none => exact due_settleStranger unhindered drawn known found
    | some user =>
      obtain ⟨stored, -⟩ := UserStore.of_findEmail?_eq_some found
      dsimp only
      rw [UserStore.attach_of_mem (List.mem_map_of_mem stored)]
      exact .linked known found

end Unhindered

end Reconciliation

namespace Surroundings.Faultless

open Reconciliation

variable {surroundings : Surroundings δ}

/-- Stores that do not fail answer every call. -/
theorem store_eq (faultless : surroundings.Faultless) (call : StoreCall) (memory : Memory δ) :
    ∃ outside, surroundings.withMemory.store call memory =
      { memory with outside }.answer call := by
  rw [surroundings.withMemory_store]
  have answered := faultless call memory.outside
  revert answered
  rcases surroundings.failure call memory.outside with ⟨failure, outside⟩
  rintro rfl
  exact ⟨outside, rfl⟩

/-- Where no store fails, no reconciliation is fated to. -/
theorem unhindered (faultless : surroundings.Faultless) (tenant : TenantId) (provider : String)
    (profile : Profile) (outside : δ) :
    (surroundings.fate tenant provider profile outside).Unhindered := by
  intro call
  cases call <;> exact faultless _ _

/-- Against stores that do not fail, a reconciliation has the outcome that the accounts settle. -/
theorem due (faultless : surroundings.Faultless) (moment : Moment (Memory δ)) (tenant : Tenant)
    (provider : String) (profile : Profile) :
    Due surroundings moment.state.users tenant provider profile
      ((reconcile tenant provider profile).run.run surroundings.withMemory moment).result := by
  obtain ⟨_, yields, -⟩ := settles surroundings moment tenant provider profile
  rw [yields.result_eq]
  exact due_settle (faultless.unhindered _ _ _ _) ⟨_, rfl⟩

end Surroundings.Faultless

end DirectorySignIn
