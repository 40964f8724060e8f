import DirectorySignIn.Account.Store
import Mathlib.Data.List.Nodup

/-!
# The accounts of one tenant

All tenants share one list of accounts.  What a tenant's look-ups find is told by its own accounts
in their order; what it writes changes these as if they were alone, and leaves the accounts of all
other tenants as they were.  Writes go by the id of an account, so that they need ids that no two
accounts have in common.

Main results:

- `findIdentity?_eq_ofTenant`, `findEmail?_eq_ofTenant`: look-ups find the same among the accounts
  of the tenant alone.
- `ofTenant_insert`, `others_insert`, `ofTenant_attached`, `others_attached`: what writes do to the
  accounts of a tenant and to all others.
-/

namespace DirectorySignIn

namespace UserStore

variable (store : UserStore) (tenant : TenantId)

/-- The accounts of a tenant, oldest first. -/
def ofTenant : List User :=
  store.users.filter fun user => user.tenant == tenant

/-- The accounts of all other tenants, oldest first. -/
def others : List User :=
  store.users.filter fun user => user.tenant != tenant

/-- The ids of all accounts. -/
def ids : List UserId :=
  store.users.map (·.id)

variable {store tenant}

/-- An id belongs to an account of a tenant or to one of another tenant. -/
theorem mem_ids_iff {id : UserId} :
    id ∈ store.ids ↔ id ∈ (store.ofTenant tenant).map (·.id) ∨
      id ∈ (store.others tenant).map (·.id) := by
  simp only [ids, ofTenant, others, List.mem_map, List.mem_filter]
  constructor
  · rintro ⟨user, stored, rfl⟩
    by_cases own : user.tenant = tenant
    · exact .inl ⟨user, ⟨stored, by simpa using own⟩, rfl⟩
    · exact .inr ⟨user, ⟨stored, by simpa using own⟩, rfl⟩
  · rintro (⟨user, ⟨stored, -⟩, rfl⟩ | ⟨user, ⟨stored, -⟩, rfl⟩)
    · exact ⟨user, stored, rfl⟩
    · exact ⟨user, stored, rfl⟩

/-- An id that one store has is taken in another one with the same accounts of a tenant, unless it
is the id of another tenant's account. -/
theorem mem_ids_of_ofTenant_eq {other : UserStore} {id : UserId} (taken : id ∈ store.ids)
    (same : store.ofTenant tenant = other.ofTenant tenant)
    (fresh : id ∉ other.ids → id ∉ (store.others tenant).map (·.id)) : id ∈ other.ids := by
  by_contra free
  rcases mem_ids_iff.mp taken with mine | theirs
  · rw [same] at mine
    exact free (mem_ids_iff.mpr (.inl mine))
  · exact fresh free theirs

theorem any_id_iff {id : UserId} : store.users.any (·.id == id) = true ↔ id ∈ store.ids := by
  simp [ids]

/-! ## Look-ups -/

/-- A link is looked up among the accounts of the tenant alone. -/
theorem findIdentity?_eq_ofTenant (provider uid : String) :
    store.findIdentity? tenant provider uid =
      (store.ofTenant tenant).find? fun user => user.linkedId? provider == some uid := by
  simp only [findIdentity?, ofTenant, List.find?_filter, Bool.decide_and, Bool.decide_eq_true]

/-- An email address is looked up among the accounts of the tenant alone. -/
theorem findEmail?_eq_ofTenant (email : String) :
    store.findEmail? tenant email =
      if email = "" then none
      else (store.ofTenant tenant).find? fun user => Text.equalFold user.email email := by
  simp only [findEmail?, ofTenant, List.find?_filter, Bool.decide_and, Bool.decide_eq_true]

/-- Whoever is found by a link is an account of the tenant. -/
theorem mem_ofTenant_of_findIdentity? {provider uid : String} {user : User}
    (h : store.findIdentity? tenant provider uid = some user) : user ∈ store.ofTenant tenant := by
  rw [findIdentity?_eq_ofTenant] at h
  exact List.mem_of_find?_eq_some h

/-- Whoever is found by an email address is an account of the tenant. -/
theorem mem_ofTenant_of_findEmail? {email : String} {user : User}
    (h : store.findEmail? tenant email = some user) : user ∈ store.ofTenant tenant := by
  rw [findEmail?_eq_ofTenant] at h
  split at h
  · contradiction
  · exact List.mem_of_find?_eq_some h

/-! ## Writes -/

/-- A new account of a tenant is the last one of the tenant. -/
theorem ofTenant_insert {user : User} (own : user.tenant = tenant) :
    (store.insert user).ofTenant tenant = store.ofTenant tenant ++ [user] := by
  simp [ofTenant, own]

/-- A new account of a tenant is none of the others. -/
theorem others_insert {user : User} (own : user.tenant = tenant) :
    (store.insert user).others tenant = store.others tenant := by
  simp [others, own]

/-- A new account with a free id keeps the ids distinct. -/
theorem nodup_ids_insert (unique : store.ids.Nodup) {user : User} (free : user.id ∉ store.ids) :
    (store.insert user).ids.Nodup := by
  have ids_insert : (store.insert user).ids = store.ids.concat user.id := by simp [ids]
  rw [ids_insert]
  exact List.Nodup.concat free unique

/-- An account with a taken id is not registered, and the refusal quotes the id. -/
theorem register_of_mem {user : User} (taken : user.id ∈ store.ids) :
    store.register user =
      .error (.persistenceFailure ("user " ++ user.id.text ++ " already exists")) := by
  rw [register, if_pos (any_id_iff.mpr taken)]

/-- An account with a free id is registered as the last one. -/
theorem register_of_not_mem {user : User} (free : user.id ∉ store.ids) :
    store.register user = .ok (store.insert user) := by
  rw [register, if_neg (mt any_id_iff.mp free)]

/-- The store after an id was linked to the first account with a user id. -/
def attached (store : UserStore) (id : UserId) (provider uid : String) : UserStore :=
  ⟨updateFirst id (·.link provider uid) store.users⟩

/-- An id that is known is linked. -/
theorem attach_of_mem {id : UserId} (known : id ∈ store.ids) (provider uid : String) :
    store.attach id provider uid = .ok (store.attached id provider uid) := by
  rw [attach, if_pos (any_id_iff.mpr known), attached]

/-- Linking leaves the ids as they were. -/
theorem ids_attached (id : UserId) (provider uid : String) :
    (store.attached id provider uid).ids = store.ids :=
  map_id_updateFirst_link id provider uid store.users

section Attached

variable {id : UserId} {provider uid : String} (own : ∀ user ∈ store.users, user.id = id →
  user.tenant = tenant)

include own

/-- When an account of the tenant is linked, those of some tenants are changed as if they were
alone if the tenant is one of them, and not at all if it is not. -/
theorem filter_attached (chosen : TenantId → Bool) :
    (store.attached id provider uid).users.filter (chosen ·.tenant) =
      if chosen tenant then
        updateFirst id (·.link provider uid) (store.users.filter (chosen ·.tenant))
      else store.users.filter (chosen ·.tenant) := by
  unfold attached
  generalize store.users = users at own
  induction users with
  | nil => simp [updateFirst]
  | cons user rest ih =>
    have ih := ih fun other stored => own other (List.mem_cons_of_mem _ stored)
    by_cases found : user.id = id
    · have mine : user.tenant = tenant := own user List.mem_cons_self found
      by_cases included : chosen tenant = true
      · simp [updateFirst, found, mine, included]
      · simp [updateFirst, found, mine, included]
    · by_cases included : chosen tenant = true <;> by_cases kept : chosen user.tenant = true <;>
        simp [updateFirst, found, included, kept] at ih ⊢ <;> exact ih

/-- An account of the tenant is linked as if there were no others. -/
theorem ofTenant_attached :
    (store.attached id provider uid).ofTenant tenant =
      updateFirst id (·.link provider uid) (store.ofTenant tenant) :=
  (filter_attached own (· == tenant)).trans (if_pos (beq_self_eq_true tenant))

/-- An account of the tenant is linked without a change to any other. -/
theorem others_attached :
    (store.attached id provider uid).others tenant = store.others tenant :=
  (filter_attached own (· != tenant)).trans (if_neg (by simp))

end Attached

/-- If no two accounts have an id in common, the id of an account of the tenant is no one else's. -/
theorem tenant_eq_of_mem_ids (unique : store.ids.Nodup) {id : UserId}
    (known : id ∈ (store.ofTenant tenant).map (·.id)) :
    ∀ user ∈ store.users, user.id = id → user.tenant = tenant := by
  intro user stored same
  obtain ⟨mine, hmine, rfl⟩ := List.mem_map.mp known
  obtain ⟨mine_stored, mine_own⟩ := List.mem_filter.mp hmine
  have equal : user = mine := List.inj_on_of_nodup_map unique stored mine_stored same
  rw [equal]
  simpa using mine_own

end UserStore

end DirectorySignIn
