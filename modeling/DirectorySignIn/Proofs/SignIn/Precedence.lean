import DirectorySignIn.Proofs.Account.Lookup
import DirectorySignIn.Proofs.SignIn.Attempts

/-!
# Who is signed in

A reconciliation looks for somebody in a fixed order: the first account of the tenant that holds the
link, then the first one that has the email address, then a new one.  What is found first settles
the outcome, whatever would have been found later, and only a new account depends on whether the
tenant is private.  Any of the calls may fail: then a failed read is the result as it is, and a
failed write is a persistence failure; either way nothing is written.

Main results:

- `prescribed_iff`: the rules prescribe the calls, the result and the accounts of every
  reconciliation, and prescribe nothing else.
-/

namespace DirectorySignIn

variable {δ : Type}

namespace Reconciliation

/-! ## The rules -/

/-- The account that was found by an email address, with the link in place of all that it had under
the key. -/
def relinked (user : User) (provider uid : String) : User :=
  { user with links := user.links.filter (·.provider != provider) ++ [⟨provider, uid⟩] }

/-- The account that is made for a profile: a visitor of the tenant with the name and the address of
the profile, or with its id for a name if it has none, and with the link as the only one. -/
def newcomer (id : UserId) (tenant : TenantId) (provider : String) (profile : Profile) : User :=
  ⟨id, tenant, if profile.name = "" then profile.id else profile.name, profile.email, .visitor,
    [⟨provider, profile.id⟩]⟩

/-- How a write that failed with an error is reported: a persistence failure as it is, and any other
error as a persistence failure with its text. -/
inductive WriteFailure : Error → Error → Prop where
  | kept (detail : String) : WriteFailure (.persistenceFailure detail) (.persistenceFailure detail)
  | quoted {e : Error} (other : ∀ detail, e ≠ .persistenceFailure detail) :
      WriteFailure e (.persistenceFailure e.message)

/-- The link was looked up, and nobody holds it. -/
structure Unheld (fate : Fate) (users : UserStore) (tenant : Tenant) (provider : String)
    (profile : Profile) : Prop where
  asked : fate.failure (.findIdentity tenant.id provider profile.id) = none
  nobody : ∀ user ∈ users.users, ¬ user.Holds tenant.id provider profile.id

/-- Nobody holds the link, and the email address, if there is one, was looked up. -/
structure Searched (fate : Fate) (users : UserStore) (tenant : Tenant) (provider : String)
    (profile : Profile) : Prop extends Unheld fate users tenant provider profile where
  searched : profile.email ≠ "" → fate.failure (.findEmail tenant.id profile.email) = none

/-- Nobody holds the link, and nobody has the email address. -/
structure Stranger (fate : Fate) (users : UserStore) (tenant : Tenant) (provider : String)
    (profile : Profile) : Prop extends Searched fate users tenant provider profile where
  unaddressed : ∀ user ∈ users.users, ¬ user.IsAddressed tenant.id profile.email

/-- The rules by which a reconciliation makes its calls, has its result, and leaves accounts. -/
inductive Prescribed (fate : Fate) (users : UserStore) (tenant : Tenant) (provider : String)
    (profile : Profile) : List Call → Except Error Reconciliation → UserStore → Prop where
  /-- A failure to look the link up is the result as it is. -/
  | identityUnread {e : Error}
      (fails : fate.failure (.findIdentity tenant.id provider profile.id) = some e) :
      Prescribed fate users tenant provider profile
        [.store (.findIdentity tenant.id provider profile.id)] (.error e) users
  /-- The first account that holds the link is returned without another call. -/
  | existing {before behind : List User} {user : User}
      (asked : fate.failure (.findIdentity tenant.id provider profile.id) = none)
      (holder : users.IsFirst (·.Holds tenant.id provider profile.id) before user behind) :
      Prescribed fate users tenant provider profile
        [.store (.findIdentity tenant.id provider profile.id)] (.ok (.existing user)) users
  /-- A failure to look the email address up is the result as it is. -/
  | emailUnread {e : Error} (unheld : Unheld fate users tenant provider profile)
      (addressed : profile.email ≠ "")
      (fails : fate.failure (.findEmail tenant.id profile.email) = some e) :
      Prescribed fate users tenant provider profile (lookups tenant.id provider profile) (.error e)
        users
  /-- A failure to link the first account that has the email address is a persistence failure. -/
  | linkFailed {before behind : List User} {user : User} {e failure : Error}
      (searched : Searched fate users tenant provider profile)
      (owner : users.IsFirst (·.IsAddressed tenant.id profile.email) before user behind)
      (fails : fate.failure (.attach user.id provider profile.id) = some e)
      (reported : WriteFailure e failure) :
      Prescribed fate users tenant provider profile
        (lookups tenant.id provider profile ++ [.store (.attach user.id provider profile.id)])
        (.error failure) users
  /-- The first account that has the email address is linked in its place and returned. -/
  | linked {before behind : List User} {user : User}
      (searched : Searched fate users tenant provider profile)
      (owner : users.IsFirst (·.IsAddressed tenant.id profile.email) before user behind)
      (writes : fate.failure (.attach user.id provider profile.id) = none) :
      Prescribed fate users tenant provider profile
        (lookups tenant.id provider profile ++ [.store (.attach user.id provider profile.id)])
        (.ok (.linked (relinked user provider profile.id)))
        ⟨before ++ relinked user provider profile.id :: behind⟩
  /-- A private tenant does not take a stranger in. -/
  | refused (stranger : Stranger fate users tenant provider profile)
      (closed : tenant.isPrivate = true) :
      Prescribed fate users tenant provider profile (lookups tenant.id provider profile)
        (.error .notInvited) users
  /-- A failure to register a stranger is a persistence failure. -/
  | registerFailed {e failure : Error} (stranger : Stranger fate users tenant provider profile)
      (opened : tenant.isPrivate = false)
      (fails : fate.failure (.register (newcomer fate.id tenant.id provider profile)) = some e)
      (reported : WriteFailure e failure) :
      Prescribed fate users tenant provider profile
        (lookups tenant.id provider profile ++
          [.store (.register (newcomer fate.id tenant.id provider profile))])
        (.error failure) users
  /-- A stranger to a public tenant is registered as its newest account. -/
  | registered (stranger : Stranger fate users tenant provider profile)
      (opened : tenant.isPrivate = false)
      (writes : fate.failure (.register (newcomer fate.id tenant.id provider profile)) = none) :
      Prescribed fate users tenant provider profile
        (lookups tenant.id provider profile ++
          [.store (.register (newcomer fate.id tenant.id provider profile))])
        (.ok (.registered (newcomer fate.id tenant.id provider profile)))
        ⟨users.users ++ [newcomer fate.id tenant.id provider profile]⟩

/-! ## What the rules prescribe is settled -/

/-- What is reported of a failed write is what its error is turned into. -/
theorem writeFailure_iff {e failure : Error} :
    WriteFailure e failure ↔ failure = e.asWriteFailure := by
  constructor
  · rintro (_ | other)
    · rfl
    · cases e with
      | persistenceFailure detail => exact absurd rfl (other detail)
      | _ => rfl
  · rintro rfl
    cases e with
    | persistenceFailure detail => exact .kept detail
    | _ => exact .quoted fun _ => nofun

section Settled

variable {fate : Fate} {users after : UserStore} {tenant : Tenant} {provider : String}
  {profile : Profile} {calls : List Call} {result : Except Error Reconciliation}

/-- Whoever holds the link is what is settled. -/
theorem settle_of_known {user : User}
    (asked : fate.failure (.findIdentity tenant.id provider profile.id) = none)
    (known : users.findIdentity? tenant.id provider profile.id = some user) :
    settle fate users tenant provider profile =
      ⟨[.store (.findIdentity tenant.id provider profile.id)], .ok (.existing user), users⟩ := by
  rw [settle, Fate.permit_eq_ok_iff.mpr ⟨asked, rfl⟩, known]
  rfl

/-- If nobody holds the link, the email address settles what is done. -/
theorem Unheld.settle_eq (unheld : Unheld fate users tenant provider profile) :
    settle fate users tenant provider profile =
      .behind [.store (.findIdentity tenant.id provider profile.id)]
        (settleUnknown fate users tenant provider profile) := by
  have unknown := UserStore.findIdentity?_eq_none_iff.mpr unheld.nobody
  rw [settle, Fate.permit_eq_ok_iff.mpr ⟨unheld.asked, rfl⟩, unknown]

/-- If the email address was looked up, it has found what the accounts hold. -/
theorem Searched.emailFound_eq (searched : Searched fate users tenant provider profile) :
    emailFound fate users tenant profile = .ok (users.findEmail? tenant.id profile.email) := by
  by_cases empty : profile.email = ""
  · rw [emailFound, if_pos empty, UserStore.findEmail?, if_pos empty]
  · rw [emailFound, if_neg empty]
    exact Fate.permit_eq_ok_iff.mpr ⟨searched.searched empty, rfl⟩

/-- For the first account that has the email address the link is settled by one write. -/
theorem Searched.settle_eq {before behind : List User} {user : User}
    (searched : Searched fate users tenant provider profile)
    (owner : users.IsFirst (·.IsAddressed tenant.id profile.email) before user behind) :
    settle fate users tenant provider profile =
      .behind (lookups tenant.id provider profile)
        (.ofWrite users (.attach user.id provider profile.id)
          (.linked (user.link provider profile.id))
          (fate.permit (.attach user.id provider profile.id)
            (users.attach user.id provider profile.id))) := by
  have found := UserStore.findEmail?_eq_some_iff.mpr ⟨before, behind, owner⟩
  rw [searched.toUnheld.settle_eq, settleUnknown, searched.emailFound_eq, found]
  rfl

/-- For a stranger the tenant settles what is done. -/
theorem Stranger.settle_eq (stranger : Stranger fate users tenant provider profile) :
    settle fate users tenant provider profile =
      .behind (lookups tenant.id provider profile)
        (settleStranger fate users tenant provider profile) := by
  have nobody := UserStore.findEmail?_eq_none_iff.mpr stranger.unaddressed
  rw [stranger.toUnheld.settle_eq, settleUnknown, stranger.toSearched.emailFound_eq, nobody]
  rfl

/-- For a stranger to a public tenant the registration is settled by one write. -/
theorem Stranger.settle_eq_of_opened (stranger : Stranger fate users tenant provider profile)
    (opened : tenant.isPrivate = false) :
    let stored := newcomer fate.id tenant.id provider profile
    settle fate users tenant provider profile =
      .behind (lookups tenant.id provider profile)
        (.ofWrite users (.register stored) (.registered stored)
          (fate.permit (.register stored) (users.register stored))) := by
  rw [stranger.settle_eq, settleStranger, opened, if_neg Bool.false_ne_true]
  rfl

/-- What a rule prescribes is what is settled. -/
theorem Prescribed.settle_eq (unique : users.ids.Nodup) (fresh : fate.id ∉ users.ids)
    (prescribed : Prescribed fate users tenant provider profile calls result after) :
    settle fate users tenant provider profile = ⟨calls, result, after⟩ := by
  cases prescribed with
  | identityUnread fails =>
    rw [settle, Fate.permit_eq_error_iff.mpr (.inl fails)]
    rfl
  | existing asked holder =>
    exact settle_of_known asked (UserStore.findIdentity?_eq_some_iff.mpr ⟨_, _, holder⟩)
  | emailUnread unheld addressed fails =>
    rw [unheld.settle_eq, settleUnknown, emailFound, if_neg addressed,
      Fate.permit_eq_error_iff.mpr (.inl fails)]
    simp [Settlement.behind, lookups]
  | linkFailed searched owner fails reported =>
    rw [searched.settle_eq owner, Fate.permit_eq_error_iff.mpr (.inl fails),
      writeFailure_iff.mp reported]
    rfl
  | linked searched owner writes =>
    have written := owner.attach_eq unique provider profile.id
    rw [searched.settle_eq owner, Fate.permit_eq_ok_iff.mpr ⟨writes, written⟩]
    rfl
  | refused stranger closed =>
    rw [stranger.settle_eq, settleStranger, if_pos closed]
    simp [Settlement.behind]
  | registerFailed stranger opened fails reported =>
    rw [stranger.settle_eq_of_opened opened, Fate.permit_eq_error_iff.mpr (.inl fails),
      writeFailure_iff.mp reported]
    rfl
  | registered stranger opened writes =>
    have free : (newcomer fate.id tenant.id provider profile).id ∉ users.ids := fresh
    have written := UserStore.register_of_not_mem free
    rw [stranger.settle_eq_of_opened opened, Fate.permit_eq_ok_iff.mpr ⟨writes, written⟩]
    rfl

/-- A rule applies to everyone who was looked up. -/
theorem exists_prescribed_of_searched (searched : Searched fate users tenant provider profile) :
    ∃ calls result after, Prescribed fate users tenant provider profile calls result after := by
  cases found : users.findEmail? tenant.id profile.email with
  | some user =>
    obtain ⟨before, behind, owner⟩ := UserStore.findEmail?_eq_some_iff.mp found
    cases writes : fate.failure (.attach user.id provider profile.id) with
    | some e => exact ⟨_, _, _, .linkFailed searched owner writes (writeFailure_iff.mpr rfl)⟩
    | none => exact ⟨_, _, _, .linked searched owner writes⟩
  | none =>
    have stranger : Stranger fate users tenant provider profile :=
      ⟨searched, UserStore.findEmail?_eq_none_iff.mp found⟩
    cases opened : tenant.isPrivate with
    | true => exact ⟨_, _, _, .refused stranger opened⟩
    | false =>
      cases writes : fate.failure (.register (newcomer fate.id tenant.id provider profile)) with
      | some e => exact ⟨_, _, _, .registerFailed stranger opened writes (writeFailure_iff.mpr rfl)⟩
      | none => exact ⟨_, _, _, .registered stranger opened writes⟩

/-- There is always a rule that applies. -/
theorem exists_prescribed (fate : Fate) (users : UserStore) (tenant : Tenant) (provider : String)
    (profile : Profile) :
    ∃ calls result after, Prescribed fate users tenant provider profile calls result after := by
  cases asked : fate.failure (.findIdentity tenant.id provider profile.id) with
  | some e => exact ⟨_, _, _, .identityUnread asked⟩
  | none =>
    cases known : users.findIdentity? tenant.id provider profile.id with
    | some user =>
      obtain ⟨before, behind, holder⟩ := UserStore.findIdentity?_eq_some_iff.mp known
      exact ⟨_, _, _, .existing asked holder⟩
    | none =>
      have unheld : Unheld fate users tenant provider profile :=
        ⟨asked, UserStore.findIdentity?_eq_none_iff.mp known⟩
      by_cases empty : profile.email = ""
      · exact exists_prescribed_of_searched ⟨unheld, fun addressed => absurd empty addressed⟩
      · cases searched : fate.failure (.findEmail tenant.id profile.email) with
        | some e => exact ⟨_, _, _, .emailUnread unheld empty searched⟩
        | none => exact exists_prescribed_of_searched ⟨unheld, fun _ => searched⟩

/-- The empty address is not among the lookups. -/
theorem findEmail_empty_notMem_lookups (someone : TenantId) :
    .store (.findEmail someone "") ∉ lookups tenant.id provider profile := by
  unfold lookups emailLookup
  split
  · simp
  · rename_i addressed
    simp [Ne.symm addressed]

/-- No rule asks for the owner of the empty address. -/
theorem Prescribed.findEmail_empty_notMem
    (prescribed : Prescribed fate users tenant provider profile calls result after)
    (someone : TenantId) : .store (.findEmail someone "") ∉ calls := by
  have unasked : Call.store (.findEmail someone "") ∉ lookups tenant.id provider profile :=
    findEmail_empty_notMem_lookups someone
  cases prescribed with
  | identityUnread _ | existing _ _ => simp
  | emailUnread _ _ _ | refused _ _ => exact unasked
  | linkFailed _ _ _ _ | linked _ _ _ => simpa using unasked
  | registerFailed _ _ _ _ | registered _ _ _ => simpa using unasked

end Settled

/-- The rules prescribe the calls of every reconciliation, its result and the accounts after it, if
no two accounts have an id in common and the id that is drawn is free.  They prescribe nothing else,
so that they define what a reconciliation does.  Nobody is ever looked up by the empty address. -/
theorem prescribed_iff (surroundings : Surroundings δ) (moment : Moment (Memory δ))
    (tenant : Tenant) (provider : String) (profile : Profile)
    (unique : moment.state.users.ids.Nodup)
    (fresh : (surroundings.fate tenant.id provider profile moment.state.outside).id ∉
      moment.state.users.ids) :
    let run := (reconcile tenant provider profile).run.run surroundings.withMemory moment
    (∀ calls result after,
      Prescribed (surroundings.fate tenant.id provider profile moment.state.outside)
          moment.state.users tenant provider profile calls result after ↔
        calls = run.calls ∧ result = run.result ∧ after = run.after.state.users) ∧
      ∀ someone, .store (.findEmail someone "") ∉ run.calls := by
  intro run
  obtain ⟨_, ⟨madeCalls, hadResult, rfl⟩, users⟩ :=
    settles surroundings moment tenant provider profile
  obtain ⟨calls, result, after, prescribed⟩ := exists_prescribed
    (surroundings.fate tenant.id provider profile moment.state.outside) moment.state.users tenant
    provider profile
  -- A rule applies, and what it prescribes is what the run has come to.
  rw [prescribed.settle_eq unique fresh] at madeCalls hadResult users
  obtain rfl : calls = run.calls := madeCalls.symm
  obtain rfl : result = run.result := hadResult.symm
  obtain rfl : after = run.after.state.users := users.symm
  refine ⟨fun calls result after => ⟨fun other => ?_, ?_⟩, prescribed.findEmail_empty_notMem⟩
  · have same := (other.settle_eq unique fresh).symm.trans (prescribed.settle_eq unique fresh)
    rwa [Settlement.mk.injEq] at same
  · rintro ⟨rfl, rfl, rfl⟩
    exact prescribed

/-- Ada's account of a private tenant has an older link under the key; it is replaced, and the other
link is kept. -/
theorem prescribed_iff_stale_link :
    let tenant : Tenant := ⟨⟨⟨0⟩⟩, "demo", true⟩
    let profile : Profile := ⟨"ada", "Ada", "ada@example.org"⟩
    let user : User := { User.sample with links := [⟨"ldap", "old"⟩, ⟨"corp", "7"⟩] }
    let moment : Moment (Memory Nat) := ⟨0, ⟨.empty, ⟨[user]⟩, 1⟩⟩
    let run := (reconcile tenant "ldap" profile).run.run Surroundings.sample.withMemory moment
    moment.state.users.ids.Nodup ∧
      (Surroundings.sample.fate tenant.id "ldap" profile moment.state.outside).id ∉
        moment.state.users.ids ∧
      run.calls = [.store (.findIdentity tenant.id "ldap" "ada"),
        .store (.findEmail tenant.id "ada@example.org"),
        .store (.attach user.id "ldap" "ada")] ∧
      run.result = .ok (.linked { user with links := [⟨"corp", "7"⟩, ⟨"ldap", "ada"⟩] }) := by
  intro tenant profile user moment run
  have unique : moment.state.users.ids.Nodup := by decide
  have fresh : (Surroundings.sample.fate tenant.id "ldap" profile moment.state.outside).id ∉
      moment.state.users.ids := by decide
  have searched : Searched (Surroundings.sample.fate tenant.id "ldap" profile moment.state.outside)
      moment.state.users tenant "ldap" profile :=
    ⟨⟨rfl, UserStore.findIdentity?_eq_none_iff.mp (by decide +kernel)⟩, fun _ => rfl⟩
  have owner : moment.state.users.IsFirst (·.IsAddressed tenant.id profile.email) [] user [] :=
    ⟨rfl, by unfold User.IsAddressed; decide +kernel, by simp⟩
  obtain ⟨calls, result, -⟩ := ((prescribed_iff Surroundings.sample moment tenant "ldap" profile
    unique fresh).1 _ _ _).mp (.linked searched owner rfl)
  exact ⟨unique, fresh, calls.symm, result.symm⟩

end Reconciliation

end DirectorySignIn
