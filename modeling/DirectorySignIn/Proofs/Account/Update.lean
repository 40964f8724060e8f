import DirectorySignIn.Proofs.Account.Consistency
import DirectorySignIn.Proofs.Account.Tenancy

/-!
# What a write makes of the accounts

A write that is carried out does one of two things to the list of accounts: it puts a new account at
its end, under an id that was free, or it links one account where it stands, the first one with the
id that was asked for.  Everything else about the accounts is read off from this.

Main results:

- `register_eq_ok`: what registering does.
- `attach_eq_ok`: what attaching does; `attach_eq_ok_of_nodup` if no two accounts have an id in
  common.
- `findIdentity?_linked`: an account that was linked, or registered with a link, is the first one
  that is found by the link if nobody held it before.
-/

namespace DirectorySignIn

namespace UserStore

variable {store after : UserStore} {user : User} {id : UserId} {tenant : TenantId}
  {provider uid : String}

/-! ## The two writes -/

/-- Registering puts the account at the end, under an id that was free. -/
theorem register_eq_ok (written : store.register user = .ok after) :
    user.id ∉ store.ids ∧ after = store.insert user := by
  by_cases taken : user.id ∈ store.ids
  · rw [register_of_mem taken] at written
    contradiction
  · rw [register_of_not_mem taken] at written
    exact ⟨taken, (Except.ok.inj written).symm⟩

/-- Attaching links the first account with the id where it stands. -/
theorem attach_eq_ok (written : store.attach id provider uid = .ok after) :
    ∃ before found behind, store.users = before ++ found :: behind ∧ found.id = id ∧
      (∀ other ∈ before, other.id ≠ id) ∧
      after = ⟨before ++ found.link provider uid :: behind⟩ := by
  by_cases known : id ∈ store.ids
  · rw [attach_of_mem known] at written
    obtain ⟨user, stored, same⟩ := List.mem_map.mp known
    have some_fits : (store.get? id).isSome = true :=
      List.find?_isSome.mpr ⟨user, stored, by simpa using same⟩
    obtain ⟨found, first⟩ := Option.isSome_iff_exists.mp some_fits
    obtain ⟨fits, before, behind, split, none_before⟩ := List.find?_eq_some_iff_append.mp first
    obtain rfl : found.id = id := by simpa using fits
    have others : ∀ other ∈ before, other.id ≠ found.id := by simpa using none_before
    refine ⟨before, found, behind, split, rfl, others, ?_⟩
    rw [← Except.ok.inj written, attached, split, updateFirst_middle _ others]
  · rw [attach, if_neg (mt any_id_iff.mp known)] at written
    contradiction

/-- If no two accounts have an id in common, the account whose id is asked for is the one that is
linked. -/
theorem attach_eq_ok_of_nodup (unique : store.ids.Nodup) (stored : user ∈ store.users)
    (written : store.attach user.id provider uid = .ok after) :
    ∃ before behind, store.users = before ++ user :: behind ∧
      after = ⟨before ++ user.link provider uid :: behind⟩ := by
  obtain ⟨before, found, behind, split, same, -, eq⟩ := attach_eq_ok written
  have found_stored : found ∈ store.users := by
    rw [split]
    exact List.mem_append_right _ List.mem_cons_self
  obtain rfl : found = user := List.inj_on_of_nodup_map unique found_stored stored same
  exact ⟨before, behind, split, eq⟩

/-- Linking leaves the ids as they were. -/
theorem ids_of_attach (written : store.attach id provider uid = .ok after) :
    after.ids = store.ids := by
  obtain ⟨before, found, behind, split, -, -, rfl⟩ := attach_eq_ok written
  simp [ids, split]

/-- Linking keeps the ids distinct. -/
theorem nodup_ids_of_attach (unique : store.ids.Nodup)
    (written : store.attach id provider uid = .ok after) : after.ids.Nodup := by
  rw [ids_of_attach written]
  exact unique

/-- Registering keeps the ids distinct. -/
theorem nodup_ids_of_register (unique : store.ids.Nodup)
    (written : store.register user = .ok after) : after.ids.Nodup := by
  obtain ⟨free, rfl⟩ := register_eq_ok written
  exact nodup_ids_insert unique free

/-! ## Look-ups after a write -/

/-- If no two accounts have an id in common, each of them is the one that is found by its id. -/
theorem get?_of_mem (unique : store.ids.Nodup) (stored : user ∈ store.users) :
    store.get? user.id = some user := by
  have some_fits : (store.get? user.id).isSome = true :=
    List.find?_isSome.mpr ⟨user, stored, by simp⟩
  obtain ⟨found, first⟩ := Option.isSome_iff_exists.mp some_fits
  have same : found.id = user.id := by simpa using List.find?_some first
  have eq := List.inj_on_of_nodup_map unique (List.mem_of_find?_eq_some first) stored same
  rw [first, eq]

/-- An account that holds a link is found by it if no account of the tenant that is older does. -/
theorem findIdentity?_linked {before behind : List User} (own : user.tenant = tenant)
    (linked : user.linkedId? provider = some uid)
    (unheld : ∀ other ∈ before, other.tenant = tenant → other.linkedId? provider ≠ some uid) :
    (⟨before ++ user :: behind⟩ : UserStore).findIdentity? tenant provider uid = some user := by
  refine List.find?_eq_some_iff_append.mpr ⟨by simp [own, linked], before, behind, rfl, ?_⟩
  intro other older
  simpa [imp_iff_not_or] using unheld other older

end UserStore

end DirectorySignIn
