import DirectorySignIn.Proofs.SignIn.Settlement

/-!
# The courses of a reconciliation

What one reconciliation does against stores in memory, any call on which may fail.  There are eight
courses; each tells the calls that are made, the result, and the accounts stored afterwards.
Theorems about reconciliations split on the courses and do not look at the program again.

Main results:

- `course`: every reconciliation takes one of the courses.
- `Course.calls_eq`: there is at most one write, and it is the last call.
- `Course.users_of_error`: a reconciliation that fails leaves the accounts as they were.
- `Course.count_eq`: the number of accounts grows by one if a stranger was registered, and else
  stays.
- `Licence.obeys_reconcile`, `Permitted.obeys_reconcile`: which calls are made against whatever
  stores, and after which steps.
-/

namespace DirectorySignIn

variable {δ : Type}

namespace Reconciliation

/-! ## The courses -/

/-- The courses of a reconciliation: its calls, its result, and the accounts after it. -/
inductive Course (users : UserStore) (tenant : Tenant) (provider : String) (profile : Profile) :
    List Call → Except Error Reconciliation → UserStore → Prop where
  /-- The lookup of the link failed. -/
  | identityUnread (e : Error) :
      Course users tenant provider profile
        [.store (.findIdentity tenant.id provider profile.id)] (.error e) users
  /-- An account holds the link. -/
  | existing {user : User}
      (known : users.findIdentity? tenant.id provider profile.id = some user) :
      Course users tenant provider profile
        [.store (.findIdentity tenant.id provider profile.id)] (.ok (.existing user)) users
  /-- The lookup of the email address failed. -/
  | emailUnread (e : Error)
      (unknown : users.findIdentity? tenant.id provider profile.id = none)
      (addressed : profile.email ≠ "") :
      Course users tenant provider profile (lookups tenant.id provider profile) (.error e) users
  /-- An account has the email address, and linking it failed. -/
  | linkFailed (e : Error) {user : User}
      (unknown : users.findIdentity? tenant.id provider profile.id = none)
      (found : users.findEmail? tenant.id profile.email = some user) :
      Course users tenant provider profile
        (lookups tenant.id provider profile ++ [.store (.attach user.id provider profile.id)])
        (.error e) users
  /-- An account has the email address and was linked. -/
  | linked {user : User} {after : UserStore}
      (unknown : users.findIdentity? tenant.id provider profile.id = none)
      (found : users.findEmail? tenant.id profile.email = some user)
      (written : users.attach user.id provider profile.id = .ok after) :
      Course users tenant provider profile
        (lookups tenant.id provider profile ++ [.store (.attach user.id provider profile.id)])
        (.ok (.linked (user.link provider profile.id))) after
  /-- The tenant does not take in strangers. -/
  | refused (unknown : users.findIdentity? tenant.id provider profile.id = none)
      (nobody : users.findEmail? tenant.id profile.email = none)
      (closed : tenant.isPrivate = true) :
      Course users tenant provider profile (lookups tenant.id provider profile)
        (.error .notInvited) users
  /-- The tenant takes in strangers, and registering one failed. -/
  | registerFailed (e : Error) (id : UserId)
      (unknown : users.findIdentity? tenant.id provider profile.id = none)
      (nobody : users.findEmail? tenant.id profile.email = none)
      (opened : tenant.isPrivate = false) :
      Course users tenant provider profile
        (lookups tenant.id provider profile ++
          [.store (.register (profile.visitor id tenant.id provider))])
        (.error e) users
  /-- A stranger was registered. -/
  | registered (id : UserId) {after : UserStore}
      (unknown : users.findIdentity? tenant.id provider profile.id = none)
      (nobody : users.findEmail? tenant.id profile.email = none)
      (opened : tenant.isPrivate = false)
      (written : users.register (profile.visitor id tenant.id provider) = .ok after) :
      Course users tenant provider profile
        (lookups tenant.id provider profile ++
          [.store (.register (profile.visitor id tenant.id provider))])
        (.ok (.registered (profile.visitor id tenant.id provider))) after

section Settled

variable {fate : Fate} {users : UserStore} {tenant : Tenant} {provider : String}
  {profile : Profile}

/-- Nobody has the email address: the tenant decides. -/
theorem course_settleStranger
    (unknown : users.findIdentity? tenant.id provider profile.id = none)
    (nobody : users.findEmail? tenant.id profile.email = none) :
    let settled := settleStranger fate users tenant provider profile
    Course users tenant provider profile (lookups tenant.id provider profile ++ settled.calls)
      settled.result settled.users := by
  intro settled
  unfold settled settleStranger
  cases opened : tenant.isPrivate with
  | true =>
    rw [if_pos rfl, List.append_nil]
    exact .refused unknown nobody opened
  | false =>
    rw [if_neg Bool.false_ne_true]
    dsimp only
    rcases written : fate.permit (.register (profile.visitor fate.id tenant.id provider))
      (users.register (profile.visitor fate.id tenant.id provider)) with e | after
    · exact .registerFailed _ _ unknown nobody opened
    · exact .registered _ unknown nobody opened (Fate.permit_eq_ok_iff.mp written).2

/-- What is found by email is what the accounts hold, unless asking them fails. -/
theorem emailFound_eq_ok {found : Option User} (h : emailFound fate users tenant profile = .ok found) :
    users.findEmail? tenant.id profile.email = found := by
  unfold emailFound at h
  split at h
  · rename_i empty
    rw [UserStore.findEmail?, if_pos empty]
    exact Except.ok.inj h
  · exact Except.ok.inj (Fate.permit_eq_ok_iff.mp h).2

/-- Only an address that is not empty is asked about, and fails to be found. -/
theorem addressed_of_emailFound_eq_error {e : Error}
    (h : emailFound fate users tenant profile = .error e) : profile.email ≠ "" := by
  intro empty
  rw [emailFound, if_pos empty] at h
  cases h

/-- Nobody holds the link: the email address decides. -/
theorem course_settleUnknown
    (unknown : users.findIdentity? tenant.id provider profile.id = none) :
    let settled := settleUnknown fate users tenant provider profile
    Course users tenant provider profile
      (.store (.findIdentity tenant.id provider profile.id) :: settled.calls) settled.result
      settled.users := by
  intro settled
  unfold settled settleUnknown
  rcases found : emailFound fate users tenant profile with e | _ | user
  · have addressed := addressed_of_emailFound_eq_error found
    rw [Settlement.behind, List.append_nil]
    exact .emailUnread e unknown addressed
  · exact course_settleStranger unknown (emailFound_eq_ok found)
  · have found := emailFound_eq_ok found
    dsimp only
    rcases written : fate.permit (.attach user.id provider profile.id)
      (users.attach user.id provider profile.id) with e | after
    · exact .linkFailed _ unknown found
    · exact .linked unknown found (Fate.permit_eq_ok_iff.mp written).2

/-- What is settled is one of the courses. -/
theorem course_settle :
    let settled := settle fate users tenant provider profile
    Course users tenant provider profile settled.calls settled.result settled.users := by
  intro settled
  unfold settled settle
  rcases found : fate.permit (.findIdentity tenant.id provider profile.id)
    (.ok (users.findIdentity? tenant.id provider profile.id)) with e | _ | user
  · exact .identityUnread e
  · exact course_settleUnknown (Except.ok.inj (Fate.permit_eq_ok_iff.mp found).2)
  · exact .existing (Except.ok.inj (Fate.permit_eq_ok_iff.mp found).2)

end Settled

/-- Every reconciliation takes one of the courses. -/
theorem exists_course (surroundings : Surroundings δ) (moment : Moment (Memory δ))
    (tenant : Tenant) (provider : String) (profile : Profile) :
    ∃ calls result after,
      Task.Yields surroundings.withMemory (reconcile tenant provider profile) moment calls result
        after ∧
      Course moment.state.users tenant provider profile calls result after.state.users := by
  obtain ⟨after, yields, users⟩ := settles surroundings moment tenant provider profile
  refine ⟨_, _, after, yields, ?_⟩
  rw [users]
  exact course_settle

/-- Every reconciliation takes one of the courses. -/
theorem course (surroundings : Surroundings δ) (moment : Moment (Memory δ)) (tenant : Tenant)
    (provider : String) (profile : Profile) :
    let run := (reconcile tenant provider profile).run.run surroundings.withMemory moment
    Course moment.state.users tenant provider profile run.calls run.result
      run.after.state.users := by
  obtain ⟨calls, result, after, ⟨hcalls, hresult, hafter⟩, course⟩ :=
    exists_course surroundings moment tenant provider profile
  intro run
  rw [hcalls, hresult, hafter]
  exact course

/-! ## What the courses have in common -/

/-- How many accounts a reconciliation has made. -/
def accountsMade : Reconciliation → Nat
  | existing _ | linked _ => 0
  | registered _ => 1

/-- No lookup writes. -/
theorem isWrite_of_mem_lookups (tenant : TenantId) (provider : String) (profile : Profile) :
    ∀ call ∈ lookups tenant provider profile, call.isWrite = false := by
  unfold lookups emailLookup
  split
  · simp [Call.isWrite, StoreCall.isWrite]
  · simp [Call.isWrite, StoreCall.isWrite]

variable {users after : UserStore} {tenant : Tenant} {provider : String} {profile : Profile}
  {calls : List Call} {result : Except Error Reconciliation}

/-- There is at most one write, and it is the last call. -/
theorem Course.calls_eq (course : Course users tenant provider profile calls result after) :
    ∃ reads, (∀ call ∈ reads, call.isWrite = false) ∧
      (calls = reads ∨ ∃ write, calls = reads ++ [write]) := by
  have reads := isWrite_of_mem_lookups tenant.id provider profile
  cases course with
  | identityUnread _ => exact ⟨_, by simp [Call.isWrite, StoreCall.isWrite], .inl rfl⟩
  | existing _ => exact ⟨_, by simp [Call.isWrite, StoreCall.isWrite], .inl rfl⟩
  | emailUnread _ _ _ => exact ⟨_, reads, .inl rfl⟩
  | linkFailed _ _ _ => exact ⟨_, reads, .inr ⟨_, rfl⟩⟩
  | linked _ _ _ => exact ⟨_, reads, .inr ⟨_, rfl⟩⟩
  | refused _ _ _ => exact ⟨_, reads, .inl rfl⟩
  | registerFailed _ _ _ _ _ => exact ⟨_, reads, .inr ⟨_, rfl⟩⟩
  | registered _ _ _ _ _ => exact ⟨_, reads, .inr ⟨_, rfl⟩⟩

/-- A reconciliation that fails leaves the accounts as they were. -/
theorem Course.users_of_error {e : Error}
    (course : Course users tenant provider profile calls (.error e) after) : after = users := by
  cases course <;> rfl

/-- The number of accounts grows by those that were made. -/
theorem Course.count_eq {reconciliation : Reconciliation}
    (course : Course users tenant provider profile calls (.ok reconciliation) after) :
    after.count = users.count + reconciliation.accountsMade := by
  cases course with
  | existing _ => rfl
  | linked _ _ written => exact UserStore.count_of_attach written
  | registered _ _ _ _ written => exact UserStore.count_of_register written

/-! ## Conduct -/

/-- A rule lets a reconciliation go on.  It may look an account up by its link and by its email
address at any time, but it may write only when it is ready to, which is when it has looked the link
up in vain and has not written since. -/
structure Licence (rule : Rule) (begun ready : List Step → Prop) (tenant : Tenant)
    (provider : String) (profile : Profile) : Prop where
  log : ∀ steps event, rule steps (.log event)
  newUserId : ∀ steps, rule steps .drawUserId
  findIdentity : ∀ steps, rule steps (.store (.findIdentity tenant.id provider profile.id))
  findEmail : ∀ steps, rule steps (.store (.findEmail tenant.id profile.email))
  missed : ∀ steps started, begun steps →
    ready (steps ++ [⟨started, .store (.findIdentity tenant.id provider profile.id), .ok none⟩])
  reading : ∀ steps step, ready steps → step.isWrite = false → ready (steps ++ [step])
  attach : ∀ steps started user, ready steps →
    ⟨started, .store (.findEmail tenant.id profile.email), .ok (some user)⟩ ∈ steps →
      rule steps (.store (.attach user.id provider profile.id))
  register : ∀ steps id, ready steps →
    rule steps (.store (.register (profile.visitor id tenant.id provider)))

namespace Licence

variable {rule : Rule} {begun ready : List Step → Prop} {earlier : List Step}

theorem obeys_log (licence : Licence rule begun ready tenant provider profile) {ε : Type}
    (event : LogEvent) : Task.Obeys rule (Task.log event : Task ε Unit) earlier :=
  (Task.ensures_log _).mpr ⟨licence.log _ _, fun _ => trivial⟩

/-- A licence covers the linking of an account that was found. -/
theorem obeys_linkAccount (licence : Licence rule begun ready tenant provider profile)
    {user : User} {started : Nat} (prepared : ready earlier)
    (found : ⟨started, .store (.findEmail tenant.id profile.email), .ok (some user)⟩ ∈ earlier) :
    Task.Obeys rule (linkAccount user provider profile.id) earlier := by
  have written : ∀ history, rule history (.store (.attach user.id provider profile.id)) →
      Task.Obeys rule (do
        (Registry.attach user.id provider profile.id).adapt Error.asWriteFailure
        Task.log (.linkedByEmail provider user.id)
        return Reconciliation.linked (user.link provider profile.id)) history := by
    intro history allowed
    refine Task.obeys_bind (Task.obeys_adapt (Task.obeys_bind ?_ ?_) _) fun _ _ => ?_
    · exact Task.obeys_of_allowed allowed
    · exact fun _ _ => licence.obeys_log _
    · exact Task.obeys_bind (licence.obeys_log _) fun _ _ => trivial
  unfold linkAccount warnOfReplacement
  split
  · refine (Task.ensures_bind _ _).mpr ((Task.ensures_log _).mpr ⟨licence.log _ _, ?_⟩)
    refine fun _ => written _ (licence.attach _ started user ?_ (List.mem_append_left _ found))
    exact licence.reading _ _ prepared rfl
  · exact written earlier (licence.attach _ started user prepared found)

/-- A licence covers the registration of a visitor. -/
theorem obeys_registerVisitor (licence : Licence rule begun ready tenant provider profile)
    (prepared : ready earlier) :
    Task.Obeys rule (registerVisitor tenant.id provider profile) earlier := by
  refine (Task.ensures_bind _ _).mpr
    ((Task.ensures_lift _).mpr ⟨licence.newUserId _, fun _ id => ?_⟩)
  refine Task.obeys_bind (Task.obeys_adapt (Task.obeys_bind ?_ ?_) _) fun _ _ => ?_
  · exact Task.obeys_of_allowed (licence.register _ id (licence.reading _ _ prepared rfl))
  · exact fun _ _ => licence.obeys_log _
  · exact Task.obeys_bind (licence.obeys_log _) fun _ _ => trivial

/-- A reconciliation obeys every rule that lets it go on. -/
theorem obeys_reconcile (licence : Licence rule begun ready tenant provider profile)
    (start : begun earlier) : Task.Obeys rule (reconcile tenant provider profile) earlier := by
  have stranger : ∀ history, ready history → Task.Obeys rule
      (if tenant.isPrivate then refuseStranger tenant.id provider
        else registerVisitor tenant.id provider profile) history := by
    intro history prepared
    split
    · exact Task.obeys_bind (licence.obeys_log _) fun _ _ => trivial
    · exact licence.obeys_registerVisitor prepared
  refine (Task.ensures_bind _ _).mpr
    ((Task.ensures_store _).mpr ⟨licence.findIdentity _, fun asked known => ?_⟩)
  rcases known with e | _ | user
  · trivial
  · have prepared := licence.missed earlier asked start
    refine (Task.ensures_bind _ _).mpr ?_
    unfold Reconciliation.findEmail
    by_cases empty : profile.email = ""
    · rw [if_pos empty]
      exact stranger _ prepared
    · rw [if_neg empty]
      refine (Task.ensures_store _).mpr ⟨licence.findEmail _, fun searched found => ?_⟩
      rcases found with e | _ | user
      · trivial
      · exact stranger _ (licence.reading _ _ prepared rfl)
      · exact licence.obeys_linkAccount (licence.reading _ _ prepared rfl)
          (List.mem_append_right _ (List.mem_singleton_self _))
  · exact Task.obeys_bind (licence.obeys_log _) fun _ _ => trivial

end Licence

/-- A rule permits what a reconciliation may have to do: to look an account up by its link and by
its email address, to link an account that the latter found, and to register a visitor. -/
structure Permitted (permits : List Step → Call → Prop) (tenant : Tenant) (provider : String)
    (profile : Profile) : Prop where
  findIdentity : ∀ calls, permits calls (.store (.findIdentity tenant.id provider profile.id))
  findEmail : ∀ calls, permits calls (.store (.findEmail tenant.id profile.email))
  attach : ∀ calls started user,
    ⟨started, .store (.findEmail tenant.id profile.email), .ok (some user)⟩ ∈ calls →
      permits calls (.store (.attach user.id provider profile.id))
  register : ∀ calls id, permits calls (.store (.register (profile.visitor id tenant.id provider)))

namespace Permitted

variable {permits : List Step → Call → Prop} {earlier : List Step}

/-- Whatever permits the calls of a reconciliation is a licence for it. -/
theorem licence (permitted : Permitted permits tenant provider profile) :
    Licence (.onCalls permits) (fun _ => True) (fun _ => True) tenant provider profile where
  log _ _ := Rule.onCalls_of_silent rfl
  newUserId _ := Rule.onCalls_of_silent rfl
  findIdentity _ := (Rule.onCalls_iff _ rfl).mpr (permitted.findIdentity _)
  findEmail _ := (Rule.onCalls_iff _ rfl).mpr (permitted.findEmail _)
  missed _ _ _ := trivial
  reading _ _ _ _ := trivial
  attach _ started user _ found := (Rule.onCalls_iff _ rfl).mpr
    (permitted.attach _ started user (List.mem_filter.mpr ⟨found, rfl⟩))
  register _ id _ := (Rule.onCalls_iff _ rfl).mpr (permitted.register _ id)

/-- A reconciliation does nothing else than what it may have to. -/
theorem obeys_reconcile (permitted : Permitted permits tenant provider profile) :
    Task.Obeys (.onCalls permits) (reconcile tenant provider profile) earlier :=
  permitted.licence.obeys_reconcile trivial

end Permitted

end Reconciliation

/-- The rule that no call is made but on the store of accounts. -/
abbrev Rule.onAccounts : Rule :=
  .onCalls fun _ call => call.isOnAccounts = true

/-- A reconciliation makes no call but on the store of accounts. -/
theorem Reconciliation.obeys_reconcile (tenant : Tenant) (provider : String) (profile : Profile)
    (earlier : List Step) : Task.Obeys .onAccounts (reconcile tenant provider profile) earlier :=
  Permitted.obeys_reconcile ⟨fun _ => rfl, fun _ => rfl, fun _ _ _ _ => rfl, fun _ _ => rfl⟩

end DirectorySignIn
