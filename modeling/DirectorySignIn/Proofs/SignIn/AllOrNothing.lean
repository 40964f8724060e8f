import DirectorySignIn.Proofs.SignIn.Operations
import DirectorySignIn.Proofs.SignIn.Reconciliation

/-!
# A sign-in is all or nothing

Checking a provider, verifying a password, reading a profile and listing providers never look at
the store of accounts.  A sign-in turns to it only after it has verified the password and read the
profile, writes once at most, and writes last.  So whatever fails on the way, there is no account
that is half made.

Main results:

- `exists_course_signIn`: a sign-in stops before it has looked at the accounts, or it goes on with
  one of the courses of a reconciliation.
- `signIn_all_or_nothing`: one write at most, after everything else; an error leaves the accounts as
  they were, and their number grows exactly if one was registered.
-/

namespace DirectorySignIn

variable {σ δ α : Type}

/-! ## Away from the accounts -/

/-- The rule that no call is made on the store of accounts. -/
abbrev Rule.awayFromAccounts : Rule :=
  .onCalls fun _ call => call.isOnAccounts = false

/-- To keep away from accounts leaves everything else permitted. -/
theorem permissive_awayFromAccounts (tenant : TenantId) :
    Permissive (fun _ call => call.isOnAccounts = false) tenant :=
  ⟨fun _ _ => rfl, fun _ => rfl, fun _ _ => rfl⟩

namespace Service

variable (service : Service) (context : Context) (provider username password : String)

/-- A verification keeps away from accounts. -/
theorem away_verify (earlier : List Step) :
    Task.Obeys .awayFromAccounts (service.verify context provider username password) earlier :=
  (permissive_awayFromAccounts _).obeys_verify service provider username password earlier

/-- To read a profile keeps away from accounts. -/
theorem away_readProfile (earlier : List Step) :
    Task.Obeys .awayFromAccounts (service.readProfile context provider username) earlier :=
  (permissive_awayFromAccounts _).obeys_readProfile service provider username earlier

/-- The check of a provider keeps away from accounts. -/
theorem away_checkProvider (earlier : List Step) :
    Task.Obeys .awayFromAccounts (service.checkProvider context provider) earlier :=
  (permissive_awayFromAccounts _).obeys_checkProvider service provider earlier

theorem away_allProviders (earlier : List Step) :
    Task.Obeys .awayFromAccounts (service.allProviders context) earlier :=
  (permissive_awayFromAccounts _).obeys_allProviders service earlier

theorem away_activeProviders (earlier : List Step) :
    Task.Obeys .awayFromAccounts (service.activeProviders context) earlier :=
  (permissive_awayFromAccounts _).obeys_activeProviders service earlier

/-- What asks nothing of the accounts leaves them as they were. -/
theorem users_of_away {ε : Type} {task : Task ε α} (h : Task.Obeys .awayFromAccounts task [])
    (surroundings : Surroundings δ) (moment : Moment (Memory δ)) :
    (task.run.run surroundings.withMemory moment).after.state.users = moment.state.users :=
  task.run.users_run_of_reading surroundings moment fun call hcall =>
    Call.isWrite_of_not_isOnAccounts (h.calls surroundings.withMemory moment call hcall)

/-! ## The courses of a sign-in -/

variable (request : SignInRequest)

/-- The run of the verification in a sign-in that is begun at a moment. -/
def verification (environment : Environment σ) (moment : Moment σ) : Run σ (Except Error Unit) :=
  (service.verify context request.provider request.username request.password).run.run environment
    moment

/-- The run in which a sign-in reads the profile, after its verification. -/
def profileReading (environment : Environment σ) (moment : Moment σ) :
    Run σ (Except Error Profile) :=
  (service.readProfile context request.provider request.username).run.run environment
    (service.verification context request environment moment).after

/-- The courses of a sign-in: its calls, its result, and the accounts after it. -/
inductive SignInCourse (surroundings : Surroundings δ) (moment : Moment (Memory δ)) :
    List Call → Except Error SignedIn → UserStore → Prop where
  /-- It stopped before it had looked at the accounts. -/
  | stopped {calls : List Call} (e : Error)
      (away : ∀ call ∈ calls, call.isOnAccounts = false) :
      SignInCourse surroundings moment calls (.error e) moment.state.users
  /-- It has verified the password and read the profile, and went on with a reconciliation. -/
  | reconciled {profile : Profile} {calls : List Call} {result : Except Error Reconciliation}
      {after : UserStore}
      (verified : (service.verification context request surroundings.withMemory moment).result =
        .ok ())
      (read : (service.profileReading context request surroundings.withMemory moment).result =
        .ok profile)
      (course : Reconciliation.Course moment.state.users context.tenant request.provider profile
        calls result after) :
      SignInCourse surroundings moment
        ((service.verification context request surroundings.withMemory moment).calls ++
          (service.profileReading context request surroundings.withMemory moment).calls ++ calls)
        (result.map (⟨profile, ·⟩)) after

/-- No call of the verification in a sign-in concerns accounts. -/
theorem away_verification (environment : Environment σ) (moment : Moment σ) :
    ∀ call ∈ (service.verification context request environment moment).calls,
      call.isOnAccounts = false :=
  (service.away_verify context _ _ _ []).calls environment moment

/-- No call for the profile in a sign-in concerns accounts. -/
theorem away_profileReading (environment : Environment σ) (moment : Moment σ) :
    ∀ call ∈ (service.profileReading context request environment moment).calls,
      call.isOnAccounts = false :=
  (service.away_readProfile context _ _ []).calls environment _

/-- The verification in a sign-in leaves the accounts as they were. -/
theorem users_verification (surroundings : Surroundings δ) (moment : Moment (Memory δ)) :
    (service.verification context request surroundings.withMemory moment).after.state.users =
      moment.state.users :=
  users_of_away (service.away_verify context _ _ _ []) surroundings moment

/-- When a sign-in turns to the accounts, they are as they were when it was begun. -/
theorem users_profileReading (surroundings : Surroundings δ) (moment : Moment (Memory δ)) :
    (service.profileReading context request surroundings.withMemory moment).after.state.users =
      moment.state.users :=
  (users_of_away (service.away_readProfile context _ _ []) surroundings _).trans
    (service.users_verification context request surroundings moment)

variable {service context request} in
/-- A sign-in makes the calls of the verification and goes on with its result. -/
theorem yields_verify {environment : Environment σ} {moment : Moment σ} {result : Except Error Unit}
    (h : (service.verification context request environment moment).result = result) :
    Task.Yields environment
      ((service.verify context request.provider request.username request.password).adapt
        Error.hidingProvider)
      moment (service.verification context request environment moment).calls
      (result.mapError Error.hidingProvider)
      (service.verification context request environment moment).after := by
  subst h
  exact (Task.Yields.run environment _ moment).adapt _

variable {service context request} in
/-- A sign-in makes the calls for the profile and goes on with what was read. -/
theorem yields_readProfile {environment : Environment σ} {moment : Moment σ}
    {result : Except Error Profile}
    (h : (service.profileReading context request environment moment).result = result) :
    Task.Yields environment
      ((service.readProfile context request.provider request.username).adapt Error.hidingProvider)
      (service.verification context request environment moment).after
      (service.profileReading context request environment moment).calls
      (result.mapError Error.hidingProvider)
      (service.profileReading context request environment moment).after := by
  subst h
  exact (Task.Yields.run environment _ _).adapt _

/-- After the verification has succeeded, a sign-in reads the profile and reconciles it. -/
theorem exists_yields_verified (surroundings : Surroundings δ) (moment : Moment (Memory δ))
    (verified : (service.verification context request surroundings.withMemory moment).result =
      .ok ()) :
    ∃ calls result after,
      Task.Yields surroundings.withMemory
        (do
          let profile ← (service.readProfile context request.provider request.username).adapt
            Error.hidingProvider
          let reconciliation ← Reconciliation.reconcile context.tenant request.provider profile
          return (⟨profile, reconciliation⟩ : SignedIn))
        (service.verification context request surroundings.withMemory moment).after calls result
        after ∧
      service.SignInCourse context request surroundings moment
        ((service.verification context request surroundings.withMemory moment).calls ++ calls)
        result after.state.users := by
  have kept := service.users_profileReading context request surroundings moment
  cases read : (service.profileReading context request surroundings.withMemory moment).result with
  | error e =>
    refine ⟨_, _, _, (yields_readProfile read).bind_error, ?_⟩
    rw [kept]
    refine .stopped _ fun call hcall => ?_
    rcases List.mem_append.mp hcall with hfirst | hsecond
    · exact service.away_verification context request surroundings.withMemory moment call hfirst
    · exact service.away_profileReading context request surroundings.withMemory moment call hsecond
  | ok profile =>
    obtain ⟨calls, result, after, reconciled, course⟩ :=
      Reconciliation.exists_course surroundings
        (service.profileReading context request surroundings.withMemory moment).after
        context.tenant request.provider profile
    rw [kept] at course
    have signed := SignInCourse.reconciled verified read course
    rw [List.append_assoc] at signed
    cases result with
    | error e =>
      exact ⟨_, _, after, (yields_readProfile read).bind_ok reconciled.bind_error, signed⟩
    | ok reconciliation =>
      refine ⟨_, _, after, (yields_readProfile read).bind_ok (reconciled.bind_ok (.pure _)), ?_⟩
      rw [List.append_nil]
      exact signed

/-- Every sign-in takes one of the courses. -/
theorem exists_course_signIn (surroundings : Surroundings δ) (moment : Moment (Memory δ)) :
    ∃ calls result after,
      Task.Yields surroundings.withMemory (service.signIn context request) moment calls result
        after ∧
      service.SignInCourse context request surroundings moment calls result after.state.users := by
  have checked : ∀ outcome, request.check = outcome →
      Task.Yields surroundings.withMemory (Task.ofExcept request.check) moment [] outcome
        moment := by
    rintro _ rfl
    exact .ofExcept _
  have kept := service.users_verification context request surroundings moment
  cases passed : request.check with
  | error e => exact ⟨_, _, moment, (checked _ passed).bind_error, .stopped e (by simp)⟩
  | ok u =>
    cases verified :
        (service.verification context request surroundings.withMemory moment).result with
    | error e =>
      refine ⟨_, _, _, (checked _ passed).bind_ok (yields_verify verified).bind_error, ?_⟩
      rw [kept]
      exact .stopped _ (service.away_verification context request surroundings.withMemory moment)
    | ok u =>
      obtain ⟨calls, result, after, decided, course⟩ :=
        service.exists_yields_verified context request surroundings moment verified
      exact ⟨_, result, after,
        (checked _ passed).bind_ok ((yields_verify verified).bind_ok decided), course⟩

/-! ## All or nothing -/

/-- A write among calls of which only the last may be one is that last call. -/
theorem eq_of_isWrite {before behind reads : List Call} {call last : Call}
    (h : before ++ call :: behind = reads ++ [last])
    (hreads : ∀ other ∈ reads, other.isWrite = false)
    (hcall : call.isWrite = true) : before = reads ∧ behind = [] := by
  rcases List.eq_nil_or_concat behind with rfl | ⟨middle, final, rfl⟩
  · exact ⟨List.append_inj_left' h rfl, rfl⟩
  · have hsplit : (before ++ call :: middle) ++ [final] = reads ++ [last] := by
      rw [← h]
      simp
    have hmem : call ∈ reads := by
      rw [← List.append_inj_left' hsplit rfl]
      simp
    rw [hreads call hmem] at hcall
    contradiction

/-- A write of a sign-in comes last, after the verification and the reading of the profile have
succeeded, and no write comes before it. -/
theorem SignInCourse.of_isWrite {service : Service} {context : Context} {request : SignInRequest}
    {surroundings : Surroundings δ} {moment : Moment (Memory δ)} {before behind : List Call}
    {call : Call} {result : Except Error SignedIn} {after : UserStore}
    (course : service.SignInCourse context request surroundings moment (before ++ call :: behind)
      result after)
    (hcall : call.isWrite = true) :
    let verified := service.verification context request surroundings.withMemory moment
    let read := service.profileReading context request surroundings.withMemory moment
    behind = [] ∧ (∀ other ∈ before, other.isWrite = false) ∧ verified.result = .ok () ∧
      (∃ profile, read.result = .ok profile) ∧
      ∃ lookups, before = verified.calls ++ read.calls ++ lookups := by
  intro verified read
  generalize hcalls : before ++ call :: behind = all at course
  have hmem : call ∈ all := by
    rw [← hcalls]
    simp
  cases course with
  | stopped e away =>
    rw [Call.isWrite_of_not_isOnAccounts (away call hmem)] at hcall
    contradiction
  | reconciled verified_ok read_ok course =>
    -- Nothing that comes before the last call of the reconciliation is a write.
    obtain ⟨lookups, hlookups, hsplit⟩ := course.calls_eq
    have hreads : ∀ other ∈ verified.calls ++ read.calls ++ lookups, other.isWrite = false := by
      intro other hother
      rcases List.mem_append.mp hother with hsessions | hlookup
      · rcases List.mem_append.mp hsessions with hfirst | hsecond
        · exact Call.isWrite_of_not_isOnAccounts
            (service.away_verification context request surroundings.withMemory moment other hfirst)
        · exact Call.isWrite_of_not_isOnAccounts
            (service.away_profileReading context request surroundings.withMemory moment other
              hsecond)
      · exact hlookups other hlookup
    rcases hsplit with rfl | ⟨write, rfl⟩
    · rw [hreads call hmem] at hcall
      contradiction
    · rw [← List.append_assoc] at hcalls
      obtain ⟨rfl, rfl⟩ := eq_of_isWrite hcalls hreads hcall
      exact ⟨rfl, hreads, verified_ok, ⟨_, read_ok⟩, lookups, rfl⟩

/-- A sign-in that fails leaves the accounts as they were. -/
theorem SignInCourse.users_of_error {service : Service} {context : Context}
    {request : SignInRequest} {surroundings : Surroundings δ} {moment : Moment (Memory δ)}
    {calls : List Call} {result : Except Error SignedIn} {after : UserStore} {e : Error}
    (course : service.SignInCourse context request surroundings moment calls result after)
    (h : result = .error e) : after = moment.state.users := by
  cases course with
  | stopped _ _ => rfl
  | @reconciled _ _ reconciled _ _ _ course =>
    cases reconciled with
    | error _ => exact course.users_of_error
    | ok _ => contradiction

/-- A sign-in makes as many accounts as its outcome tells. -/
theorem SignInCourse.count_eq {service : Service} {context : Context} {request : SignInRequest}
    {surroundings : Surroundings δ} {moment : Moment (Memory δ)} {calls : List Call}
    {result : Except Error SignedIn} {after : UserStore} {signedIn : SignedIn}
    (course : service.SignInCourse context request surroundings moment calls result after)
    (h : result = .ok signedIn) :
    after.count = moment.state.users.count + signedIn.reconciliation.accountsMade := by
  cases course with
  | stopped _ _ => contradiction
  | @reconciled _ _ reconciled _ _ _ course =>
    cases reconciled with
    | error _ => contradiction
    | ok _ =>
      cases h
      exact course.count_eq

/-- No run of a task calls the store of accounts. -/
def NeverAsksAccounts {ε : Type} (task : Task ε α) : Prop :=
  ∀ (σ : Type) (environment : Environment σ) (moment : Moment σ),
    ∀ call ∈ (task.run.run environment moment).calls, call.isOnAccounts = false

/-- A sign-in writes to the accounts once at most, as its last call, and only after it has verified
the password and read the profile.  If it fails, the accounts are as they were; if it succeeds,
their number grows by those that were registered.  The other operations never ask for accounts. -/
theorem signIn_all_or_nothing (surroundings : Surroundings δ) (moment : Moment (Memory δ)) :
    let run := (service.signIn context request).run.run surroundings.withMemory moment
    let verified := service.verification context request surroundings.withMemory moment
    let read := service.profileReading context request surroundings.withMemory moment
    (∀ before call behind, run.calls = before ++ call :: behind → call.isWrite = true →
      behind = [] ∧ (∀ other ∈ before, other.isWrite = false) ∧ verified.result = .ok () ∧
        (∃ profile, read.result = .ok profile) ∧
        ∃ lookups, before = verified.calls ++ read.calls ++ lookups) ∧
    (∀ e, run.result = .error e → run.after.state.users = moment.state.users) ∧
    (∀ signedIn, run.result = .ok signedIn → run.after.state.users.count =
      moment.state.users.count + signedIn.reconciliation.accountsMade) ∧
    NeverAsksAccounts (service.verify context provider username password) ∧
    NeverAsksAccounts (service.readProfile context provider username) ∧
    NeverAsksAccounts (service.checkProvider context provider) ∧
    NeverAsksAccounts (service.activeProviders context) ∧
    NeverAsksAccounts (service.allProviders context) := by
  obtain ⟨calls, result, after, ⟨hcalls, hresult, hafter⟩, course⟩ :=
    service.exists_course_signIn context request surroundings moment
  intro run verified read
  refine ⟨?_, ?_, ?_, ?_, ?_, ?_, ?_, ?_⟩
  · intro before call behind hsplit hcall
    rw [← hcalls, hsplit] at course
    exact course.of_isWrite hcall
  · intro e he
    rw [hafter]
    exact course.users_of_error (hresult.symm.trans he)
  · intro signedIn hsigned
    rw [hafter]
    exact course.count_eq (hresult.symm.trans hsigned)
  · exact fun _ => (service.away_verify context provider username password []).calls
  · exact fun _ => (service.away_readProfile context provider username []).calls
  · exact fun _ => (service.away_checkProvider context provider []).calls
  · exact fun _ => (service.away_activeProviders context []).calls
  · exact fun _ => (service.away_allProviders context []).calls

end Service

end DirectorySignIn
