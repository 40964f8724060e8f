import DirectorySignIn.Proofs.Account.Update
import DirectorySignIn.Proofs.SignIn.Attempts
import DirectorySignIn.Proofs.SignIn.Faultless

/-!
# Reconciling once more

What a reconciliation hands out is what the store keeps.  After it has succeeded, the account that
it returned stands in the store as it was returned, links and their order included, and it is the
first one of its tenant that holds the link.  So whoever comes again with the same profile gets the
same account, and nothing is written any more.

Main results:

- `Course.settled`: the account that is returned is the one that is stored, and the first one that
  is found by the link.
- `reconcile_known`: a reconciliation that finds the link held writes nothing.
- `reconcile_settles`: the next reconciliation of the same profile finds the same account and writes
  nothing.
-/

namespace DirectorySignIn

variable {δ : Type}

namespace Reconciliation

/-! ## The account that is returned -/

section Settled

variable {users after : UserStore} {user : User} {tenant : Tenant} {provider : String}
  {profile : Profile}

/-- An account that was linked is stored as it was returned, and found by the link. -/
theorem settled_of_attach (unique : users.ids.Nodup) (stored : user ∈ users.users)
    (own : user.tenant = tenant.id)
    (unknown : users.findIdentity? tenant.id provider profile.id = none)
    (written : users.attach user.id provider profile.id = .ok after) :
    after.get? user.id = some (user.link provider profile.id) ∧
      after.findIdentity? tenant.id provider profile.id =
        some (user.link provider profile.id) := by
  have unique_after := UserStore.nodup_ids_of_attach unique written
  obtain ⟨before, behind, split, rfl⟩ :=
    UserStore.attach_eq_ok_of_nodup unique stored written
  refine ⟨?_, UserStore.findIdentity?_linked own (user.linkedId_link_self _ _) ?_⟩
  · have linked_stored : user.link provider profile.id ∈
        before ++ user.link provider profile.id :: behind :=
      List.mem_append_right _ List.mem_cons_self
    exact UserStore.get?_of_mem unique_after linked_stored
  · intro other older
    refine UserStore.linkedId?_ne_of_findIdentity?_eq_none unknown other ?_
    rw [split]
    exact List.mem_append_left _ older

/-- An account that was registered is stored as it was returned, and found by its link. -/
theorem settled_of_register {id : UserId} (unique : users.ids.Nodup)
    (unknown : users.findIdentity? tenant.id provider profile.id = none)
    (written : users.register (profile.visitor id tenant.id provider) = .ok after) :
    after.get? id = some (profile.visitor id tenant.id provider) ∧
      after.findIdentity? tenant.id provider profile.id =
        some (profile.visitor id tenant.id provider) := by
  have unique_after := UserStore.nodup_ids_of_register unique written
  obtain ⟨-, rfl⟩ := UserStore.register_eq_ok written
  constructor
  · have visitor_stored : profile.visitor id tenant.id provider ∈
        (users.insert (profile.visitor id tenant.id provider)).users := by simp
    exact UserStore.get?_of_mem unique_after visitor_stored
  · exact UserStore.findIdentity?_linked rfl (by simp [User.linkedId?])
      (UserStore.linkedId?_ne_of_findIdentity?_eq_none unknown)

/-- The account that is returned is the one that is stored, and it is the first one of the tenant
that is found by the link. -/
theorem Course.settled {calls : List Call} {outcome : Reconciliation} (unique : users.ids.Nodup)
    (course : Course users tenant provider profile calls (.ok outcome) after) :
    after.get? outcome.user.id = some outcome.user ∧
      after.findIdentity? tenant.id provider profile.id = some outcome.user := by
  cases course with
  | existing known =>
    have stored := (List.mem_filter.mp (UserStore.mem_ofTenant_of_findIdentity? known)).1
    exact ⟨UserStore.get?_of_mem unique stored, known⟩
  | linked unknown found written =>
    obtain ⟨stored, own⟩ := UserStore.of_findEmail?_eq_some found
    exact settled_of_attach unique stored own unknown written
  | registered id unknown _ _ written => exact settled_of_register unique unknown written

end Settled

/-! ## The next reconciliation -/

/-- A reconciliation that found a linked account has written nothing. -/
theorem Course.of_existing {users after : UserStore} {tenant : Tenant} {provider : String}
    {profile : Profile} {calls : List Call} {user : User}
    (course : Course users tenant provider profile calls (.ok (.existing user)) after) :
    (∀ call ∈ calls, call.isWrite = false) ∧ after = users := by
  cases course with
  | existing _ => exact ⟨by simp [Call.isWrite, StoreCall.isWrite], rfl⟩

/-- If an account holds the link, a reconciliation against stores that do not fail returns it as it
is, and writes nothing. -/
theorem reconcile_known {surroundings : Surroundings δ} (faultless : surroundings.Faultless)
    {moment : Moment (Memory δ)} {tenant : Tenant} {provider : String} {profile : Profile}
    {user : User}
    (known : moment.state.users.findIdentity? tenant.id provider profile.id = some user) :
    let run := (reconcile tenant provider profile).run.run surroundings.withMemory moment
    run.result = .ok (.existing user) ∧ (∀ call ∈ run.calls, call.isWrite = false) ∧
      run.after.state.users = moment.state.users := by
  intro run
  have found := (faultless.due moment tenant provider profile).of_known known
  have taken := course surroundings moment tenant provider profile
  simp only [found] at taken
  exact ⟨found, taken.of_existing⟩

/-- After a reconciliation has succeeded, the account that it returned is stored as it was returned.
A further reconciliation of the same profile in the same tenant, which may have been opened or
closed in the meantime, finds that very account, writes nothing and leaves the stores as they
were. -/
theorem reconcile_settles (surroundings : Surroundings δ) (moment : Moment (Memory δ))
    (tenant : Tenant) (provider : String) (profile : Profile) (outcome : Reconciliation)
    (unique : moment.state.users.ids.Nodup)
    (succeeded : ((reconcile tenant provider profile).run.run surroundings.withMemory
      moment).result = .ok outcome) :
    let first := (reconcile tenant provider profile).run.run surroundings.withMemory moment
    first.after.state.users.get? outcome.user.id = some outcome.user ∧
      ∀ (faultless : Surroundings δ) (later : Moment (Memory δ)) (again : Tenant),
        faultless.Faultless → later.state.users = first.after.state.users →
        again.id = tenant.id →
        let second := (reconcile again provider profile).run.run faultless.withMemory later
        second.result = .ok (.existing outcome.user) ∧
          (∀ call ∈ second.calls, call.isWrite = false) ∧
          second.after.state.users = first.after.state.users := by
  intro first
  have taken := course surroundings moment tenant provider profile
  simp only [succeeded] at taken
  obtain ⟨stored, found⟩ := taken.settled unique
  refine ⟨stored, fun faultless later again answers same own => ?_⟩
  have known : later.state.users.findIdentity? again.id provider profile.id =
      some outcome.user := by
    rw [same, own]
    exact found
  obtain ⟨result, reading, kept⟩ := reconcile_known answers known
  exact ⟨result, reading, kept.trans same⟩

/-- Ada is linked by her email address; when the tenant has been closed, she is known. -/
theorem reconcile_settles_sample :
    let tenant : Tenant := ⟨⟨⟨0⟩⟩, "demo", false⟩
    let profile : Profile := ⟨"ada", "Ada", "ada@example.org"⟩
    let moment : Moment (Memory Unit) := ⟨0, ⟨.empty, ⟨[User.sample]⟩, ()⟩⟩
    let first := (reconcile tenant "ldap" profile).run.run Surroundings.calm.withMemory moment
    let second := (reconcile { tenant with isPrivate := true } "ldap" profile).run.run
      Surroundings.calm.withMemory first.after
    let linked := User.sample.link "ldap" "ada"
    moment.state.users.ids.Nodup ∧ Surroundings.calm.Faultless ∧
      first.result = .ok (.linked linked) ∧
      first.after.state.users.get? linked.id = some linked ∧
      second.result = .ok (.existing linked) ∧
      (∀ call ∈ second.calls, call.isWrite = false) ∧
      second.after.state.users = first.after.state.users := by
  intro tenant profile moment first second linked
  have unique : moment.state.users.ids.Nodup := by decide
  have succeeded : first.result = .ok (.linked linked) := by decide +kernel
  obtain ⟨stored, repeated⟩ :=
    reconcile_settles Surroundings.calm moment tenant "ldap" profile _ unique succeeded
  obtain ⟨known, reading, kept⟩ :=
    repeated Surroundings.calm first.after { tenant with isPrivate := true }
      Surroundings.faultless_calm rfl rfl
  refine ⟨unique, Surroundings.faultless_calm, succeeded, stored, known, reading, ?_⟩
  -- The two sides are the same but for names, and nothing has to be run to see that.
  with_reducible exact kept

end Reconciliation

end DirectorySignIn
