import DirectorySignIn.Account.User
import DirectorySignIn.Text.Ascii

/-!
# The store of user accounts

All users of all tenants in the order in which they were added.  A lookup returns the first user
that fits.  Registering refuses an id that is taken, whoever has it; inserting does not ask.
-/

namespace DirectorySignIn

/-- The stored user accounts, oldest first. -/
structure UserStore where
  users : List User
deriving DecidableEq

namespace UserStore

/-- The store without users. -/
def empty : UserStore :=
  ⟨[]⟩

/-- Adds a user. -/
def insert (store : UserStore) (user : User) : UserStore :=
  ⟨store.users ++ [user]⟩

/-- How many users there are. -/
def count (store : UserStore) : Nat :=
  store.users.length

/-- The user with an id. -/
def get? (store : UserStore) (id : UserId) : Option User :=
  store.users.find? fun user => user.id == id

/-- The user of a tenant that a directory knows under an id. -/
def findIdentity? (store : UserStore) (tenant : TenantId) (provider uid : String) :
    Option User :=
  store.users.find? fun user =>
    user.tenant == tenant && user.linkedId? provider == some uid

/-- The user of a tenant with an email address, up to the case of ASCII letters.  Nobody is found
by the empty address. -/
def findEmail? (store : UserStore) (tenant : TenantId) (email : String) : Option User :=
  if email = "" then none
  else store.users.find? fun user => user.tenant == tenant && Text.equalFold user.email email

/-- Adds a user whose id is not taken. -/
def register (store : UserStore) (user : User) : Except Error UserStore :=
  if store.users.any (·.id == user.id) then
    .error (.persistenceFailure ("user " ++ user.id.text ++ " already exists"))
  else .ok (store.insert user)

/-- Changes the first user with an id. -/
def updateFirst (id : UserId) (change : User → User) : List User → List User
  | [] => []
  | user :: rest =>
    if user.id = id then change user :: rest else user :: updateFirst id change rest

/-- Links an id to the first user with a user id. -/
def attach (store : UserStore) (id : UserId) (provider uid : String) : Except Error UserStore :=
  if store.users.any (·.id == id) then
    .ok ⟨updateFirst id (·.link provider uid) store.users⟩
  else .error (.persistenceFailure ("user " ++ id.text ++ " does not exist"))

/-- A new account comes behind all others. -/
@[simp]
theorem users_insert (store : UserStore) (user : User) :
    (store.insert user).users = store.users ++ [user] :=
  rfl

/-- Changing an account neither adds nor removes one. -/
@[simp]
theorem length_updateFirst (id : UserId) (change : User → User) (users : List User) :
    (updateFirst id change users).length = users.length := by
  induction users with
  | nil => rfl
  | cons user rest ih => by_cases h : user.id = id <;> simp [updateFirst, h, ih]

/-- Registering adds one user. -/
theorem count_of_register {store after : UserStore} {user : User}
    (h : store.register user = .ok after) : after.count = store.count + 1 := by
  unfold register at h
  split at h
  · contradiction
  · cases h
    simp [count]

/-- Attaching adds no user. -/
theorem count_of_attach {store after : UserStore} {id : UserId} {provider uid : String}
    (h : store.attach id provider uid = .ok after) : after.count = store.count := by
  unfold attach at h
  split at h
  · cases h
    simp [count]
  · contradiction

/-- Attaching changes no one's id. -/
theorem map_id_updateFirst_link (id : UserId) (provider uid : String) (users : List User) :
    (updateFirst id (·.link provider uid) users).map (·.id) = users.map (·.id) := by
  induction users with
  | nil => rfl
  | cons user rest ih => by_cases h : user.id = id <;> simp [updateFirst, h, ih]

end UserStore

end DirectorySignIn
