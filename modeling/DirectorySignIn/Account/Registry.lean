import DirectorySignIn.Program.Basic

/-!
# Writing accounts

The two ways in which the service writes to the store of accounts.  A write that was carried out
is logged, and one that failed is a persistence failure for whoever asked for it.
-/

namespace DirectorySignIn

namespace Registry

/-- Adds an account to the store. -/
def register (user : User) : Task Error Unit := do
  Task.store (.register user)
  Task.log (.userStored user.id user.tenant)

/-- Links an id to an account in the store. -/
def attach (user : UserId) (provider uid : String) : Task Error Unit := do
  Task.store (.attach user provider uid)
  Task.log (.identityStored user provider)

end Registry

/-- The error of a write that failed. -/
def Error.asWriteFailure : Error → Error
  | .persistenceFailure detail => .persistenceFailure detail
  | error => .persistenceFailure error.message

/-- A write fails with nothing but a persistence failure. -/
theorem Error.asWriteFailure_eq (error : Error) :
    ∃ detail, error.asWriteFailure = .persistenceFailure detail := by
  cases error <;> exact ⟨_, rfl⟩

end DirectorySignIn
