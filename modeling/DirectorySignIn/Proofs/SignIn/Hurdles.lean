import DirectorySignIn.Proofs.Program.Failure
import DirectorySignIn.Proofs.SignIn.Session
import DirectorySignIn.SignIn.Service

/-!
# Where sessions fail

At which step a session fails, and with which error of the directory.  This is said of the store and
the directory alone: the target may be invalid, the directory may refuse one of the calls or be too
late with the answer, and it may grant all of them and still not have found what was looked for.
What comes before the step has gone well.

Main results:

- `Session.fails_within`: a session fails because the provider could not be looked up, or at one of
  its hurdles; closing it has no part in this.
- `Session.fails_verifyWithin`, `Session.fails_readProfileWithin`: the hurdles of a verification and
  of a look-up of a profile.
- `DirectoryError.isConnectionFailure_iff`: the errors that count as failed connections.
-/

namespace DirectorySignIn

variable {σ α : Type}

/-! ## Directory errors -/

namespace DirectoryError

/-- The directory could not be reached in time. -/
inductive OutOfReach : DirectoryError → Prop
  | invalidUrl (detail : String) : OutOfReach (.invalidUrl detail)
  | dial (detail : String) : OutOfReach (.dial detail)
  | startTls (detail : String) : OutOfReach (.startTls detail)
  | tls (detail : String) : OutOfReach (.tls detail)
  | transport (detail : String) : OutOfReach (.transport detail)
  | timeout (operation : String) : OutOfReach (.timeout operation)
  | deadline : OutOfReach .deadline

/-- A failure of the connection is one that leaves the directory out of reach. -/
theorem isConnectionFailure_iff (error : DirectoryError) :
    error.isConnectionFailure = true ↔ error.OutOfReach := by
  constructor
  · intro h
    cases error with
    | invalidUrl detail => exact .invalidUrl detail
    | dial detail => exact .dial detail
    | startTls detail => exact .startTls detail
    | transport detail => exact .transport detail
    | tls detail => exact .tls detail
    | timeout operation => exact .timeout operation
    | deadline => exact .deadline
    | bind _ | serviceBind _ | search _ | userNotFound _ | userBind _ | protocol _ => cases h
  · intro h
    cases h with
    | _ => rfl

/-- In public the connection has failed exactly if the directory is out of reach. -/
theorem toPublic_eq_connectionFailed_iff (error : DirectoryError) (provider : String) :
    error.toPublic provider = .connectionFailed provider ↔ error.OutOfReach := by
  rw [← isConnectionFailure_iff, toPublic]
  split <;> simp_all

/-- In public the credentials are invalid exactly if the directory is within reach. -/
theorem toPublic_eq_invalidCredentials_iff (error : DirectoryError) (provider : String) :
    error.toPublic provider = .invalidCredentials ↔ ¬ error.OutOfReach := by
  rw [← isConnectionFailure_iff, toPublic]
  split <;> simp_all

end DirectoryError

/-! ## Hurdles -/

/-- A step at which a session may fail. -/
inductive Hurdle where
  /-- Deriving the target from the configuration. -/
  | target
  | connect
  | serviceBind
  /-- Searching for the entry of a username, which has to be the only one. -/
  | search
  | userBind
  /-- Making a profile of the entry. -/
  | profile
deriving DecidableEq

/-- The error of a step, if it was a bind with the account for which it was made. -/
def Hurdle.relabel : Hurdle → DirectoryError → DirectoryError
  | serviceBind => DirectoryError.atServiceBind
  | userBind => DirectoryError.atUserBind
  | _ => id

/-- Which account was rejected makes no difference to a caller. -/
theorem Hurdle.toPublic_relabel (hurdle : Hurdle) (error : DirectoryError) (provider : String) :
    (hurdle.relabel error).toPublic provider = error.toPublic provider := by
  cases hurdle with
  | serviceBind => cases error <;> rfl
  | userBind => cases error <;> rfl
  | _ => rfl

namespace Session

/-- The provider was found, it has a target, and the directory granted a connection in time. -/
structure Established (environment : Environment σ) (settings : Settings) (context : Context)
    (provider : String) (begun : Moment σ) (session : Session) (opened : Moment σ) : Prop where
  config_found : (environment.store (.getConfig context.tenant.id provider) begun.state).1 =
    .ok (some session.config)
  target_valid : Target.ofConfig session.config settings = .ok session.target
  budget_eq : session.budget = ⟨settings.operationTimeout, context.deadline⟩
  connection_granted : session.budget.Grants environment (.connect session.target)
    (afterLookup environment context.tenant.id provider begun) () opened

/-- The provider was found, but it has no target or the directory refuses a connection. -/
inductive FailsToOpen (environment : Environment σ) (settings : Settings) (context : Context)
    (provider : String) (begun : Moment σ) : Hurdle → DirectoryError → Prop
  | target {config : ProviderConfig} {error : DirectoryError}
      (config_found : (environment.store (.getConfig context.tenant.id provider) begun.state).1 =
        .ok (some config))
      (invalid : Target.ofConfig config settings = .error error) :
      FailsToOpen environment settings context provider begun .target error
  | connect {config : ProviderConfig} {target : Target} {error : DirectoryError}
      (config_found : (environment.store (.getConfig context.tenant.id provider) begun.state).1 =
        .ok (some config))
      (target_valid : Target.ofConfig config settings = .ok target)
      (refused : Budget.Refuses ⟨settings.operationTimeout, context.deadline⟩ environment "connect"
        (.connect target) (afterLookup environment context.tenant.id provider begun) error) :
      FailsToOpen environment settings context provider begun .connect error

/-- The bind of the service account. -/
def serviceBind (session : Session) : DirectoryCall :=
  .bind session.config.bindUsername session.config.bindPassword.reveal

/-- The search for the entry of a username. -/
def userSearch (session : Session) (username : String) (attributes : List String) :
    DirectoryCall :=
  .search session.config.rootDn session.config.scope (Filter.forUser session.config username)
    attributes

section Working

variable (session : Session) (environment : Environment σ) (username password : String)
  (attributes : List String) (opened : Moment σ)

/-- The directory refuses to bind the service account. -/
inductive FailsToBind : Hurdle → DirectoryError → Prop
  | serviceBind {error : DirectoryError}
      (refused : session.budget.Refuses environment "service bind" session.serviceBind opened
        error) :
      FailsToBind .serviceBind error

/-- The service account was bound, and the search for a username has found one entry alone. -/
def Locates (entry : Entry) (searched : Moment σ) : Prop :=
  ∃ bound, session.budget.Grants environment session.serviceBind opened () bound ∧
    session.budget.Grants environment (session.userSearch username attributes) bound [entry]
      searched

/-- The service account is refused, or the search, or it has not found one entry alone. -/
inductive FailsToLocate : Hurdle → DirectoryError → Prop
  | bind {hurdle : Hurdle} {error : DirectoryError}
      (failed : session.FailsToBind environment opened hurdle error) :
      FailsToLocate hurdle error
  | search {bound : Moment σ} {error : DirectoryError}
      (granted : session.budget.Grants environment session.serviceBind opened () bound)
      (refused : session.budget.Refuses environment "search"
        (session.userSearch username attributes) bound error) :
      FailsToLocate .search error
  | count {bound searched : Moment σ} {entries : List Entry}
      (granted : session.budget.Grants environment session.serviceBind opened () bound)
      (found : session.budget.Grants environment (session.userSearch username attributes) bound
        entries searched)
      (not_one : entries.length ≠ 1) :
      FailsToLocate .search (.userNotFound entries.length)

/-- The entry of the username is not found, or it is refused with the password. -/
inductive FailsToVerify : Hurdle → DirectoryError → Prop
  | locate {hurdle : Hurdle} {error : DirectoryError}
      (failed : session.FailsToLocate environment username Service.noAttributes opened hurdle
        error) :
      FailsToVerify hurdle error
  | userBind {entry : Entry} {searched : Moment σ} {error : DirectoryError}
      (located : session.Locates environment username Service.noAttributes opened entry searched)
      (refused : session.budget.Refuses environment "user bind" (.bind entry.dn password) searched
        error) :
      FailsToVerify .userBind error

/-- The entry of the username is not found, or it makes no profile. -/
inductive FailsToRead : Hurdle → DirectoryError → Prop
  | locate {hurdle : Hurdle} {error : DirectoryError}
      (failed : session.FailsToLocate environment username session.config.profileAttributes opened
        hurdle error) :
      FailsToRead hurdle error
  | profile {entry : Entry} {searched : Moment σ} {error : DirectoryError}
      (located : session.Locates environment username session.config.profileAttributes opened entry
        searched)
      (no_profile : Profile.ofEntry session.config entry = .error error) :
      FailsToRead .profile error

end Working

/-- A session fails at a hurdle: it is not opened, or some work fails in it. -/
inductive FailsAt (environment : Environment σ) (settings : Settings) (context : Context)
    (provider : String) (working : Session → Moment σ → Hurdle → DirectoryError → Prop)
    (begun : Moment σ) : Hurdle → DirectoryError → Prop
  | opening {hurdle : Hurdle} {error : DirectoryError}
      (failed : FailsToOpen environment settings context provider begun hurdle error) :
      FailsAt environment settings context provider working begun hurdle error
  | working {session : Session} {opened : Moment σ} {hurdle : Hurdle} {error : DirectoryError}
      (established : Established environment settings context provider begun session opened)
      (failed : working session opened hurdle error) :
      FailsAt environment settings context provider working begun hurdle error

/-! ## Opening -/

variable {environment : Environment σ} {begun opened : Moment σ}

/-- A session is opened exactly if it is established. -/
theorem succeeds_start_iff (settings : Settings) (context : Context) (provider : String)
    (session : Session) :
    Task.Succeeds environment (start settings context provider) begun session opened ↔
      Established environment settings context provider begun session opened := by
  rw [succeeds_start]
  constructor
  · rintro ⟨config_found, target_valid, budget_eq, connection_granted⟩
    exact ⟨config_found, target_valid, budget_eq, connection_granted⟩
  · rintro ⟨config_found, target_valid, budget_eq, connection_granted⟩
    exact ⟨config_found, target_valid, budget_eq, connection_granted⟩

/-- To settle an outcome fails with what an error is reduced to. -/
@[simp]
theorem fails_settle (reduce : DirectoryError → String → Error) (provider url : String)
    (outcome : Except DirectoryError α) (e : Error) :
    Task.Fails environment (settle reduce provider url outcome) begun e ↔
      ∃ error, outcome = .error error ∧ reduce error provider = e := by
  cases outcome with
  | ok a => simp [settle]
  | error error => simp [settle, fail]

/-- Looking up a provider fails if the store fails, or if it does not know the provider. -/
theorem fails_findConfig (tenant : TenantId) (provider : String) (e : Error) :
    Task.Fails environment (findConfig tenant provider) begun e ↔
      (environment.store (.getConfig tenant provider) begun.state).1 = .error e ∨
        (environment.store (.getConfig tenant provider) begun.state).1 = .ok none ∧
          e = .configurationNotFound provider := by
  unfold findConfig
  rw [Task.fails_bind, Task.fails_store]
  apply or_congr_right
  constructor
  · rintro ⟨found, middle, asked, failed⟩
    obtain ⟨answered, -⟩ := (Task.succeeds_store _ _).mp asked
    cases found with
    | none => exact ⟨answered, ((Task.fails_throw _ _).mp failed).symm⟩
    | some config => exact absurd failed (Task.not_fails_pure _ _)
  · rintro ⟨answered, rfl⟩
    exact ⟨none, _, (Task.succeeds_store _ _).mpr ⟨answered, rfl⟩, (Task.fails_throw _ _).mpr rfl⟩

/-- A session is not opened because the provider could not be looked up, or at one of the first
hurdles. -/
theorem fails_start (settings : Settings) (context : Context) (provider : String) (e : Error) :
    Task.Fails environment (start settings context provider) begun e ↔
      Task.Fails environment (findConfig context.tenant.id provider) begun e ∨
        ∃ hurdle error, FailsToOpen environment settings context provider begun hurdle error ∧
          error.toPublic provider = e := by
  simp only [start, Task.fails_bind, Task.not_fails_pure, succeeds_findConfig, succeeds_settle,
    fails_settle, Task.not_fails_lift]
  apply or_congr_right
  constructor
  · rintro ⟨config, _, ⟨found, rfl⟩, ⟨error, invalid, reduced⟩ | ⟨target, _, ⟨valid, rfl⟩, failed⟩⟩
    · exact ⟨.target, error, .target found invalid, reduced⟩
    · obtain impossible | ⟨_, _, asked, ⟨error, rfl, reduced⟩ | ⟨_, _, -, impossible⟩⟩ := failed
      · exact impossible.elim
      · have refused := (Task.fails_iff_succeeds_lift _ _).mpr ⟨_, asked⟩
        exact ⟨.connect, error, .connect found valid ((Budget.fails_call _ _ _ _).mp refused),
          reduced⟩
      · exact impossible.elim
  · rintro ⟨hurdle, error, failed, reduced⟩
    cases failed with
    | target found invalid => exact ⟨_, _, ⟨found, rfl⟩, .inl ⟨error, invalid, reduced⟩⟩
    | connect found valid refused =>
      obtain ⟨_, asked⟩ := (Task.fails_iff_succeeds_lift (ε := Error) _ _).mp
        ((Budget.fails_call _ "connect" _ _).mpr refused)
      refine ⟨_, _, ⟨found, rfl⟩, .inr ⟨_, _, ⟨valid, rfl⟩, .inr ?_⟩⟩
      exact ⟨.error error, _, asked, .inl ⟨error, rfl, reduced⟩⟩

/-- A session fails if it is not opened, or if the work in it fails.  Closing it has no part in
this. -/
theorem fails_within (settings : Settings) (context : Context) (provider : String)
    (reduce : DirectoryError → String → Error) (work : Session → Task DirectoryError α)
    (e : Error) :
    Task.Fails environment (within settings context provider reduce work) begun e ↔
      Task.Fails environment (start settings context provider) begun e ∨
        ∃ session opened error,
          Established environment settings context provider begun session opened ∧
            Task.Fails environment (work session) opened error ∧ reduce error provider = e := by
  simp only [within, Task.fails_bind, Task.not_fails_lift, fails_settle, succeeds_start_iff,
    false_or]
  apply or_congr_right
  constructor
  · rintro ⟨session, opened, established, outcome, worked, done, _, _, -, error, rfl, reduced⟩
    have failed := (Task.fails_iff_succeeds_lift _ _).mpr ⟨_, done⟩
    exact ⟨session, opened, error, established, failed, reduced⟩
  · rintro ⟨session, opened, error, established, failed, reduced⟩
    obtain ⟨worked, done⟩ := (Task.fails_iff_succeeds_lift (ε := Error) _ _).mp failed
    have closed : Task.Succeeds environment (ExceptT.lift session.close : Task Error Unit) worked ()
        (session.close.run environment worked).after :=
      (Task.succeeds_lift _ _).mpr ⟨rfl, rfl⟩
    exact ⟨session, opened, established, .error error, _, done, (), _, closed, error, rfl, reduced⟩

/-! ## Working -/

variable (session : Session) (username password : String) (attributes : List String)

/-- The bind of the service account fails at one of its hurdles, with the relabelled error. -/
theorem fails_bindService (cause : DirectoryError) :
    Task.Fails environment session.bindService opened cause ↔
      ∃ hurdle error, session.FailsToBind environment opened hurdle error ∧
        hurdle.relabel error = cause := by
  rw [bindService, Task.fails_adapt]
  constructor
  · rintro ⟨error, failed, relabelled⟩
    exact ⟨.serviceBind, error, .serviceBind ((Budget.fails_call _ _ _ _).mp failed), relabelled⟩
  · rintro ⟨_, error, ⟨refused⟩, relabelled⟩
    exact ⟨error, (Budget.fails_call _ _ _ _).mpr refused, relabelled⟩

/-- The bind of a user fails if the directory refuses it, with the relabelled error. -/
theorem fails_bindUser (entry : Entry) (cause : DirectoryError) :
    Task.Fails environment (session.bindUser entry password) opened cause ↔
      ∃ error, session.budget.Refuses environment "user bind" (.bind entry.dn password) opened
          error ∧
        Hurdle.userBind.relabel error = cause := by
  rw [bindUser, Task.fails_adapt]
  apply exists_congr
  intro error
  rw [Budget.fails_call]
  rfl

/-- Anything but one entry is an error that tells how many there were. -/
theorem unique_eq_error_iff (entries : List Entry) (error : DirectoryError) :
    unique entries = .error error ↔
      entries.length ≠ 1 ∧ error = .userNotFound entries.length := by
  match entries with
  | [] => simp [unique, eq_comm]
  | [entry] => simp [unique]
  | first :: second :: rest => simp [unique, eq_comm]

/-- The search for a user fails if the directory refuses it or if it does not find exactly one
entry. -/
theorem fails_findUser (cause : DirectoryError) :
    Task.Fails environment (session.findUser username attributes) begun cause ↔
      session.budget.Refuses environment "search" (session.userSearch username attributes) begun
          cause ∨
        ∃ entries searched, session.budget.Grants environment
            (session.userSearch username attributes) begun entries searched ∧
          entries.length ≠ 1 ∧ cause = .userNotFound entries.length := by
  unfold findUser
  rw [Task.fails_bind, Budget.fails_call]
  simp only [Task.fails_ofExcept, unique_eq_error_iff]
  apply or_congr_right
  constructor
  · rintro ⟨entries, searched, granted, rest⟩
    exact ⟨entries, searched, (Budget.succeeds_call _ _ _ _).mp granted, rest⟩
  · rintro ⟨entries, searched, granted, rest⟩
    exact ⟨entries, searched, (Budget.succeeds_call _ _ _ _).mpr granted, rest⟩

/-- What needs the entry of a username fails if the entry is not found, or else at the moment at
which it was found. -/
theorem fails_located (rest : Entry → Task DirectoryError α) (cause : DirectoryError) :
    Task.Fails environment (do
        session.bindService
        let entry ← session.findUser username attributes
        rest entry) opened cause ↔
      (∃ hurdle error, session.FailsToLocate environment username attributes opened hurdle error ∧
        hurdle.relabel error = cause) ∨
      ∃ entry searched,
        session.Locates environment username attributes opened entry searched ∧
          Task.Fails environment (rest entry) searched cause := by
  simp only [Task.fails_bind, fails_bindService, fails_findUser, succeeds_bindService,
    succeeds_findUser]
  constructor
  · rintro (⟨hurdle, error, failed, relabelled⟩ | ⟨u, bound, granted, failed | located⟩)
    · exact .inl ⟨hurdle, error, .bind failed, relabelled⟩
    · rcases failed with refused | ⟨entries, searched, found, not_one, rfl⟩
      · exact .inl ⟨.search, cause, .search granted refused, rfl⟩
      · exact .inl ⟨.search, _, .count granted found not_one, rfl⟩
    · obtain ⟨entry, searched, found, failed⟩ := located
      exact .inr ⟨entry, searched, ⟨bound, granted, found⟩, failed⟩
  · rintro (⟨hurdle, error, failed, relabelled⟩ |
      ⟨entry, searched, ⟨bound, granted, found⟩, failed⟩)
    · cases failed with
      | bind failed => exact .inl ⟨hurdle, error, failed, relabelled⟩
      | search granted refused =>
        cases relabelled
        exact .inr ⟨(), _, granted, .inl (.inl refused)⟩
      | count granted found not_one =>
        cases relabelled
        exact .inr ⟨(), _, granted, .inl (.inr ⟨_, _, found, not_one, rfl⟩)⟩
    · exact .inr ⟨(), bound, granted, .inr ⟨entry, searched, found, failed⟩⟩

/-- The work of a verification fails at one of its hurdles, with the relabelled error. -/
theorem fails_verifyWithin (present : password ≠ "") (cause : DirectoryError) :
    Task.Fails environment (Service.verifyWithin username password session) opened cause ↔
      ∃ hurdle error, session.FailsToVerify environment username password opened hurdle error ∧
        hurdle.relabel error = cause := by
  rw [Service.verifyWithin, if_neg present, fails_located]
  simp only [fails_bindUser]
  constructor
  · rintro (⟨hurdle, error, failed, relabelled⟩ |
      ⟨entry, searched, located, error, refused, relabelled⟩)
    · exact ⟨hurdle, error, .locate failed, relabelled⟩
    · exact ⟨.userBind, error, .userBind located refused, relabelled⟩
  · rintro ⟨hurdle, error, failed, relabelled⟩
    cases failed with
    | locate failed => exact .inl ⟨hurdle, error, failed, relabelled⟩
    | userBind located refused => exact .inr ⟨_, _, located, error, refused, relabelled⟩

/-- The work of reading a profile fails at one of its hurdles, with the relabelled error. -/
theorem fails_readProfileWithin (cause : DirectoryError) :
    Task.Fails environment (Service.readProfileWithin username session) opened cause ↔
      ∃ hurdle error, session.FailsToRead environment username opened hurdle error ∧
        hurdle.relabel error = cause := by
  rw [Service.readProfileWithin, fails_located]
  simp only [Task.fails_ofExcept]
  constructor
  · rintro (⟨hurdle, error, failed, relabelled⟩ | ⟨entry, searched, located, no_profile⟩)
    · exact ⟨hurdle, error, .locate failed, relabelled⟩
    · exact ⟨.profile, cause, .profile located no_profile, rfl⟩
  · rintro ⟨hurdle, error, failed, relabelled⟩
    cases failed with
    | locate failed => exact .inl ⟨hurdle, error, failed, relabelled⟩
    | profile located no_profile =>
      cases relabelled
      exact .inr ⟨_, _, located, no_profile⟩

/-- If what a caller is told depends on the error alone, a session fails because the provider could
not be looked up, or with the public error of the hurdle at which it fails. -/
theorem fails_within_toPublic (settings : Settings) (context : Context) (provider : String)
    {work : Session → Task DirectoryError α}
    {working : Session → Moment σ → Hurdle → DirectoryError → Prop}
    (works : ∀ session opened cause, Task.Fails environment (work session) opened cause ↔
      ∃ hurdle error, working session opened hurdle error ∧ hurdle.relabel error = cause)
    (e : Error) :
    Task.Fails environment (within settings context provider DirectoryError.toPublic work) begun
        e ↔
      Task.Fails environment (findConfig context.tenant.id provider) begun e ∨
        ∃ hurdle error, FailsAt environment settings context provider working begun hurdle error ∧
          error.toPublic provider = e := by
  rw [fails_within, fails_start, or_assoc]
  apply or_congr_right
  simp only [works]
  constructor
  · rintro (⟨hurdle, error, failed, rfl⟩ |
      ⟨_, _, _, established, ⟨hurdle, error, failed, rfl⟩, rfl⟩)
    · exact ⟨hurdle, error, .opening failed, rfl⟩
    · exact ⟨hurdle, error, .working established failed, (hurdle.toPublic_relabel _ _).symm⟩
  · rintro ⟨hurdle, error, failed, rfl⟩
    cases failed with
    | opening failed => exact .inl ⟨hurdle, error, failed, rfl⟩
    | working established failed =>
      exact .inr ⟨_, _, _, established, ⟨hurdle, error, failed, rfl⟩, hurdle.toPublic_relabel _ _⟩

end Session

end DirectorySignIn
