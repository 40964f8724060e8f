import DirectorySignIn.Proofs.SignIn.AllOrNothing
import DirectorySignIn.Proofs.SignIn.Bracketing
import DirectorySignIn.Proofs.SignIn.Faultless
import DirectorySignIn.Proofs.SignIn.Hurdles
import DirectorySignIn.Proofs.SignIn.Verification

/-!
# The public errors of a sign-in

What the caller of a sign-in is told, and why.  A sign-in has two sessions, one for the password and
one for the profile, and stops at the first hurdle that it does not take; then it turns to the
accounts.  A directory that could not be reached in time is told apart from everything else that can
go wrong on it, and nothing else is: whoever has no access learns nothing but that.

Main results:

- `Service.fails_signIn`: a sign-in fails while it verifies the password, while it reads the
  profile, or while it reconciles the profile with the accounts.
- `Service.signIn_classifies`: which hurdles make a failed connection and which make invalid
  credentials, and what else a sign-in may end with.
-/

namespace DirectorySignIn

variable {σ α : Type} {environment : Environment σ} {begun : Moment σ}

/-! ## Stores in memory -/

/-- Stores in memory that do not fail at all have no read that fails in another way. -/
theorem Surroundings.Faultless.readsFailAsStore {δ : Type} {surroundings : Surroundings δ}
    (h : surroundings.Faultless) : surroundings.withMemory.ReadsFailAsStore := by
  intro call memory e read failed
  obtain ⟨outside, answered⟩ := h.store_eq call memory
  rw [answered] at failed
  cases call with
  | register _ | attach _ _ _ => cases read
  | _ => cases failed

/-! ## Hidden providers -/

namespace Error

/-- To hide the provider leaves failed connections as they are, and makes no new ones. -/
theorem hidingProvider_eq_connectionFailed_iff (e : Error) (provider : String) :
    e.hidingProvider = .connectionFailed provider ↔ e = .connectionFailed provider := by
  cases e <;> simp [hidingProvider]

/-- To hide the provider makes invalid credentials of an unknown provider. -/
theorem hidingProvider_eq_invalidCredentials_iff (e : Error) :
    e.hidingProvider = .invalidCredentials ↔
      e = .invalidCredentials ∨ ∃ provider, e = .configurationNotFound provider := by
  cases e <;> simp [hidingProvider]

end Error

/-! ## Sessions -/

namespace Session

variable {settings : Settings} {context : Context} {provider : String}
  {work : Session → Task DirectoryError α}
  {working : Session → Moment σ → Hurdle → DirectoryError → Prop}

/-- If reads fail as reads do, looking up a provider does not fail with an error of a directory. -/
theorem findConfig_fails_as (reads : environment.ReadsFailAsStore) {tenant : TenantId} {e : Error}
    (failed : Task.Fails environment (findConfig tenant provider) begun e) :
    (∃ detail, e = .store detail) ∨
      (environment.store (.getConfig tenant provider) begun.state).1 = .ok none ∧
        e = .configurationNotFound provider := by
  rcases (fails_findConfig tenant provider e).mp failed with answered | unknown
  · exact .inl (reads _ _ _ rfl answered)
  · exact .inr unknown

/-- In a sign-in, a session ends with a failed connection if the error of its hurdle says that the
directory could not be reached. -/
theorem fails_with_connectionFailed_iff (reads : environment.ReadsFailAsStore)
    (works : ∀ session opened cause, Task.Fails environment (work session) opened cause ↔
      ∃ hurdle error, working session opened hurdle error ∧ hurdle.relabel error = cause) :
    Task.Fails environment ((within settings context provider DirectoryError.toPublic work).adapt
        Error.hidingProvider) begun (.connectionFailed provider) ↔
      ∃ hurdle error, FailsAt environment settings context provider working begun hurdle error ∧
        error.OutOfReach := by
  simp only [Task.fails_adapt, Error.hidingProvider_eq_connectionFailed_iff, exists_eq_right]
  rw [fails_within_toPublic settings context provider works]
  simp only [DirectoryError.toPublic_eq_connectionFailed_iff]
  constructor
  · rintro (failed | atHurdle)
    · rcases findConfig_fails_as reads failed with ⟨detail, impossible⟩ | ⟨-, impossible⟩
      · cases impossible
      · cases impossible
    · exact atHurdle
  · exact .inr

/-- It ends with invalid credentials if the provider is unknown or if the error of its hurdle says
anything else. -/
theorem fails_with_invalidCredentials_iff (reads : environment.ReadsFailAsStore)
    (works : ∀ session opened cause, Task.Fails environment (work session) opened cause ↔
      ∃ hurdle error, working session opened hurdle error ∧ hurdle.relabel error = cause) :
    Task.Fails environment ((within settings context provider DirectoryError.toPublic work).adapt
        Error.hidingProvider) begun .invalidCredentials ↔
      (environment.store (.getConfig context.tenant.id provider) begun.state).1 = .ok none ∨
        ∃ hurdle error, FailsAt environment settings context provider working begun hurdle error ∧
          ¬ error.OutOfReach := by
  simp only [Task.fails_adapt, Error.hidingProvider_eq_invalidCredentials_iff,
    fails_within_toPublic settings context provider works]
  constructor
  · rintro ⟨cause, failed | ⟨hurdle, error, failed, rfl⟩, hidden⟩
    · rcases findConfig_fails_as reads failed with ⟨detail, rfl⟩ | ⟨unknown, -⟩
      · simp at hidden
      · exact .inl unknown
    · rcases hidden with invalid | ⟨other, unknown⟩
      · exact .inr ⟨hurdle, error, failed,
          (error.toPublic_eq_invalidCredentials_iff provider).mp invalid⟩
      · rcases error.toPublic_eq provider with connection | invalid
        · cases connection.symm.trans unknown
        · cases invalid.symm.trans unknown
  · rintro (unknown | ⟨hurdle, error, failed, other⟩)
    · have notFound := (fails_findConfig context.tenant.id provider _).mpr (.inr ⟨unknown, rfl⟩)
      exact ⟨_, .inl notFound, .inr ⟨provider, rfl⟩⟩
    · have invalid := (error.toPublic_eq_invalidCredentials_iff provider).mpr other
      exact ⟨_, .inr ⟨hurdle, error, failed, rfl⟩, .inl invalid⟩

end Session

/-! ## Explanations -/

namespace Reconciliation

/-- What a reconciliation itself may fail with. -/
inductive Refusal : Error → Prop
  | notInvited : Refusal .notInvited
  | persistenceFailure (detail : String) : Refusal (.persistenceFailure detail)

/-- The error of a write that failed is a refusal of its own. -/
theorem refusal_asWriteFailure (e : Error) : Refusal e.asWriteFailure := by
  obtain ⟨detail, h⟩ := e.asWriteFailure_eq
  rw [h]
  exact .persistenceFailure detail

/-- Whatever a write fails with, it is a persistence failure. -/
theorem explains_write (task : Task Error α) :
    Task.Explains Refusal (task.adapt Error.asWriteFailure) := by
  refine fun earlier => (Task.ensures_adapt _ _).mpr ?_
  have nothing := task.run.ensures_nothing earlier
  refine Program.Ensures.mono nothing fun result history _ => ?_
  cases result with
  | ok a => trivial
  | error e => exact .inl (refusal_asWriteFailure e)

/-- A reconciliation fails with a refusal of its own or with that of a read. -/
theorem explains_reconcile (tenant : Tenant) (provider : String) (profile : Profile) :
    Task.Explains Refusal (reconcile tenant provider profile) := by
  refine (Task.explains_store rfl).bind fun known => ?_
  cases known with
  | some user => exact (Task.explains_log _).bind fun _ => Task.explains_pure _
  | none =>
    refine Task.Explains.bind ?_ fun found => ?_
    · unfold findEmail
      by_cases empty : profile.email = ""
      · rw [if_pos empty]
        exact Task.explains_pure _
      · rw [if_neg empty]
        exact Task.explains_store rfl
    · cases found with
      | some user =>
        refine Task.Explains.bind ?_ fun _ => (explains_write _).bind fun _ =>
          (Task.explains_log _).bind fun _ => Task.explains_pure _
        unfold warnOfReplacement
        cases user.linkedId? provider with
        | some previous => exact Task.explains_log _
        | none => exact Task.explains_pure _
      | none =>
        by_cases isPrivate : tenant.isPrivate = true
        · rw [if_pos isPrivate]
          exact (Task.explains_log _).bind fun _ => Task.explains_throw .notInvited
        · rw [if_neg isPrivate]
          exact (Task.explains_lift _).bind fun _ => (explains_write _).bind fun _ =>
            (Task.explains_log _).bind fun _ => Task.explains_pure _

/-- If reads fail as reads do, a reconciliation does not fail with an error of a directory. -/
theorem ne_of_fails_reconcile (reads : environment.ReadsFailAsStore) {tenant : Tenant}
    {provider : String} {profile : Profile} {e : Error}
    (failed : Task.Fails environment (reconcile tenant provider profile) begun e) :
    (∀ key, e ≠ .connectionFailed key) ∧ e ≠ .invalidCredentials := by
  rcases (explains_reconcile tenant provider profile).fails failed with refusal | ⟨step, made, told⟩
  · cases refusal with
    | notInvited => exact ⟨nofun, nofun⟩
    | persistenceFailure detail => exact ⟨nofun, nofun⟩
  · obtain ⟨detail, rfl⟩ := reads.of_failedRead made told
    exact ⟨nofun, nofun⟩

end Reconciliation

namespace Session

/-- What a session itself may fail with. -/
inductive Denial (provider : String) : Error → Prop
  | configurationNotFound : Denial provider (.configurationNotFound provider)
  | connectionFailed : Denial provider (.connectionFailed provider)
  | invalidCredentials : Denial provider .invalidCredentials

variable {provider : String}

/-- An outcome that is settled fails with the denial of a directory. -/
theorem explains_settle (url : String) (outcome : Except DirectoryError α) :
    Task.Explains (Denial provider) (settle DirectoryError.toPublic provider url outcome) := by
  cases outcome with
  | ok a => exact Task.explains_pure a
  | error error =>
    refine (Task.explains_log _).bind fun _ => Task.explains_throw ?_
    rcases error.toPublic_eq provider with h | h
    · rw [h]
      exact .connectionFailed
    · rw [h]
      exact .invalidCredentials

/-- The opening of a session fails with a denial or with that of a read. -/
theorem explains_start (settings : Settings) (context : Context) :
    Task.Explains (Denial provider) (start settings context provider) := by
  have found : Task.Explains (Denial provider) (findConfig context.tenant.id provider) := by
    refine (Task.explains_store rfl).bind fun config => ?_
    cases config with
    | some config => exact Task.explains_pure config
    | none => exact Task.explains_throw .configurationNotFound
  exact found.bind fun config => (explains_settle _ _).bind fun target =>
    (Task.explains_lift _).bind fun connected => (explains_settle _ _).bind fun _ =>
      Task.explains_pure _

/-- A session fails with a denial or with that of a read. -/
theorem explains_within (settings : Settings) (context : Context)
    (work : Session → Task DirectoryError α) :
    Task.Explains (Denial provider)
      (within settings context provider DirectoryError.toPublic work) :=
  (explains_start settings context).bind fun _ => (Task.explains_lift _).bind fun _ =>
    (Task.explains_lift _).bind fun _ => explains_settle _ _

end Session

/-! ## Sign-ins -/

namespace Service

/-- What a sign-in itself may fail with. -/
inductive Refusal (provider : String) : Error → Prop
  | connectionFailed : Refusal provider (.connectionFailed provider)
  | invalidCredentials : Refusal provider .invalidCredentials
  | notInvited : Refusal provider .notInvited
  | persistenceFailure (detail : String) : Refusal provider (.persistenceFailure detail)

variable (service : Service) (context : Context) (request : SignInRequest)

/-- In a sign-in, a session does not tell that it does not know a provider. -/
theorem explains_hidingProvider {provider : String} {task : Task Error α}
    (h : Task.Explains (Session.Denial provider) task) :
    Task.Explains (Refusal provider) (task.adapt Error.hidingProvider) := by
  refine h.adapt (fun e denial => ?_) (fun e => ?_)
  · cases denial with
    | configurationNotFound => exact .invalidCredentials
    | connectionFailed => exact .connectionFailed
    | invalidCredentials => exact .invalidCredentials
  · cases e with
    | configurationNotFound key => exact .inr .invalidCredentials
    | _ => exact .inl rfl

/-- A verification fails with a denial or with that of a read. -/
theorem explains_verify (provider username password : String) :
    Task.Explains (Session.Denial provider)
      (service.verify context provider username password) := by
  rw [verify_eq]
  by_cases missing : Text.trim username = "" ∨ password = ""
  · rw [if_pos missing]
    exact (Task.explains_log _).bind fun _ => Task.explains_throw .invalidCredentials
  · rw [if_neg missing]
    exact Session.explains_within _ _ _

/-- A sign-in fails with a refusal or with that of a read. -/
theorem explains_signIn (valid : request.check = .ok ()) :
    Task.Explains (Refusal request.provider) (service.signIn context request) := by
  unfold signIn
  rw [valid]
  refine (Task.explains_pure ()).bind fun _ => ?_
  refine (explains_hidingProvider (service.explains_verify _ _ _ _)).bind fun _ => ?_
  refine (explains_hidingProvider (Session.explains_within _ _ _)).bind fun profile => ?_
  refine Task.Explains.bind (Task.Explains.mono (Reconciliation.explains_reconcile _ _ _) ?_)
    fun _ => Task.explains_pure _
  intro e refusal
  cases refusal with
  | notInvited => exact .notInvited
  | persistenceFailure detail => exact .persistenceFailure detail

/-- A sign-in stops at a hurdle of its first session or, if that has verified the password, of its
second one. -/
inductive StopsAt (environment : Environment σ) (begun : Moment σ) : Hurdle → DirectoryError → Prop
  | verifying {hurdle : Hurdle} {error : DirectoryError}
      (present : Text.trim request.username ≠ "")
      (failed : Session.FailsAt environment service.settings context request.provider
        (fun session => session.FailsToVerify environment request.username request.password) begun
        hurdle error) :
      StopsAt environment begun hurdle error
  | reading {hurdle : Hurdle} {error : DirectoryError}
      (verified : (service.verification context request environment begun).result = .ok ())
      (failed : Session.FailsAt environment service.settings context request.provider
        (fun session => session.FailsToRead environment request.username)
        (service.verification context request environment begun).after hurdle error) :
      StopsAt environment begun hurdle error

/-- A sign-in is told by the store that the tenant has no provider of the key. -/
inductive FindsNoProvider (environment : Environment σ) (begun : Moment σ) : Prop
  | verifying (present : Text.trim request.username ≠ "")
      (unknown : (environment.store (.getConfig context.tenant.id request.provider)
        begun.state).1 = .ok none)
  | reading
      (verified : (service.verification context request environment begun).result = .ok ())
      (unknown : (environment.store (.getConfig context.tenant.id request.provider)
        (service.verification context request environment begun).after.state).1 = .ok none)

/-- A sign-in fails while it verifies the password, while it reads the profile, or while it
reconciles the profile with the accounts. -/
theorem fails_signIn (valid : request.check = .ok ()) (e : Error) :
    Task.Fails environment (service.signIn context request) begun e ↔
      Task.Fails environment ((service.verify context request.provider request.username
          request.password).adapt Error.hidingProvider) begun e ∨
        (service.verification context request environment begun).result = .ok () ∧
          (Task.Fails environment ((service.readProfile context request.provider
              request.username).adapt Error.hidingProvider)
              (service.verification context request environment begun).after e ∨
            ∃ profile later, Task.Fails environment
              (Reconciliation.reconcile context.tenant request.provider profile) later e ∧
                Task.Succeeds environment
                  (service.readProfile context request.provider request.username)
                  (service.verification context request environment begun).after profile
                  later) := by
  unfold signIn
  rw [valid]
  simp only [Task.fails_bind, Task.fails_ofExcept, Task.succeeds_ofExcept, Task.succeeds_adapt,
    Task.not_fails_pure]
  constructor
  · rintro (impossible | ⟨_, _, ⟨-, rfl⟩, rest⟩)
    · cases impossible
    · rcases rest with refused | ⟨_, _, ⟨verified, rfl⟩, rest⟩
      · exact .inl refused
      · refine .inr ⟨verified, ?_⟩
        rcases rest with unread | ⟨profile, later, read, failed | ⟨_, _, -, impossible⟩⟩
        · exact .inl unread
        · exact .inr ⟨profile, later, failed, read⟩
        · exact impossible.elim
  · rintro (refused | ⟨verified, rest⟩)
    · exact .inr ⟨(), begun, ⟨trivial, rfl⟩, .inl refused⟩
    · refine .inr ⟨(), begun, ⟨trivial, rfl⟩, .inr ⟨(), _, ⟨verified, rfl⟩, ?_⟩⟩
      rcases rest with unread | ⟨profile, later, failed, read⟩
      · exact .inl unread
      · exact .inr ⟨profile, later, read, .inl failed⟩

/-- A blank username is refused before anyone is asked. -/
theorem fails_verify_of_blank (blank : Text.trim request.username = "") (e : Error) :
    Task.Fails environment ((service.verify context request.provider request.username
      request.password).adapt Error.hidingProvider) begun e ↔ e = .invalidCredentials := by
  rw [verify_eq, if_pos (.inl blank), Task.fails_adapt]
  simp only [Task.fails_bind, Task.not_fails_log, Task.fails_throw, Task.succeeds_log, false_or]
  constructor
  · rintro ⟨_, ⟨_, _, _, rfl⟩, rfl⟩
    rfl
  · rintro rfl
    exact ⟨.invalidCredentials, ⟨(), begun, rfl, rfl⟩, rfl⟩

variable {request} in
/-- A verification in a sign-in ends with a failed connection at the hurdles of its session. -/
theorem verify_connectionFailed_iff (password_present : request.password ≠ "")
    (reads : environment.ReadsFailAsStore) :
    Task.Fails environment ((service.verify context request.provider request.username
        request.password).adapt Error.hidingProvider) begun
        (.connectionFailed request.provider) ↔
      Text.trim request.username ≠ "" ∧
        ∃ hurdle error, Session.FailsAt environment service.settings context request.provider
          (fun session => session.FailsToVerify environment request.username request.password)
          begun hurdle error ∧ error.OutOfReach := by
  by_cases blank : Text.trim request.username = ""
  · rw [service.fails_verify_of_blank context request blank]
    constructor
    · intro impossible
      cases impossible
    · rintro ⟨present, -⟩
      exact absurd blank present
  · rw [verify_eq, if_neg (not_or.mpr ⟨blank, password_present⟩)]
    rw [Session.fails_with_connectionFailed_iff reads fun session opened cause =>
      session.fails_verifyWithin _ _ password_present cause]
    exact (and_iff_right blank).symm

variable {request} in
/-- It ends with invalid credentials if the username is blank, the provider is unknown, or at the
hurdles of its session. -/
theorem verify_invalidCredentials_iff (password_present : request.password ≠ "")
    (reads : environment.ReadsFailAsStore) :
    Task.Fails environment ((service.verify context request.provider request.username
        request.password).adapt Error.hidingProvider) begun .invalidCredentials ↔
      Text.trim request.username = "" ∨ Text.trim request.username ≠ "" ∧
        ((environment.store (.getConfig context.tenant.id request.provider) begun.state).1 =
            .ok none ∨
          ∃ hurdle error, Session.FailsAt environment service.settings context request.provider
            (fun session => session.FailsToVerify environment request.username request.password)
            begun hurdle error ∧ ¬ error.OutOfReach) := by
  by_cases blank : Text.trim request.username = ""
  · rw [service.fails_verify_of_blank context request blank]
    exact ⟨fun _ => .inl blank, fun _ => rfl⟩
  · rw [verify_eq, if_neg (not_or.mpr ⟨blank, password_present⟩)]
    rw [Session.fails_with_invalidCredentials_iff reads fun session opened cause =>
      session.fails_verifyWithin _ _ password_present cause]
    constructor
    · exact fun refused => .inr ⟨blank, refused⟩
    · rintro (missing | ⟨-, refused⟩)
      · exact absurd missing blank
      · exact refused

variable {request} in
/-- A sign-in ends with a failed connection if it stops at a hurdle with an error that says that the
directory could not be reached in time. -/
theorem signIn_connectionFailed_iff (valid : request.check = .ok ())
    (reads : environment.ReadsFailAsStore) :
    Task.Fails environment (service.signIn context request) begun
        (.connectionFailed request.provider) ↔
      ∃ hurdle error, service.StopsAt context request environment begun hurdle error ∧
        error.OutOfReach := by
  have password_present := ((request.check_eq_ok_iff).mp valid).2.1
  rw [fails_signIn service context request valid,
    service.verify_connectionFailed_iff context password_present reads, readProfile,
    Session.fails_with_connectionFailed_iff reads fun session opened cause =>
      session.fails_readProfileWithin _ cause]
  constructor
  · rintro (⟨present, hurdle, error, failed, outOfReach⟩ |
      ⟨verified, ⟨hurdle, error, failed, outOfReach⟩ | ⟨profile, later, failed, -⟩⟩)
    · exact ⟨hurdle, error, .verifying present failed, outOfReach⟩
    · exact ⟨hurdle, error, .reading verified failed, outOfReach⟩
    · exact absurd rfl ((Reconciliation.ne_of_fails_reconcile reads failed).1 _)
  · rintro ⟨hurdle, error, stops, outOfReach⟩
    cases stops with
    | verifying present failed => exact .inl ⟨present, hurdle, error, failed, outOfReach⟩
    | reading verified failed => exact .inr ⟨verified, .inl ⟨hurdle, error, failed, outOfReach⟩⟩

variable {request} in
/-- A sign-in ends with invalid credentials if the username is blank, if the provider is unknown, or
if it stops at a hurdle with any other error. -/
theorem signIn_invalidCredentials_iff (valid : request.check = .ok ())
    (reads : environment.ReadsFailAsStore) :
    Task.Fails environment (service.signIn context request) begun .invalidCredentials ↔
      Text.trim request.username = "" ∨ service.FindsNoProvider context request environment begun ∨
        ∃ hurdle error, service.StopsAt context request environment begun hurdle error ∧
          ¬ error.OutOfReach := by
  have password_present := ((request.check_eq_ok_iff).mp valid).2.1
  rw [fails_signIn service context request valid,
    service.verify_invalidCredentials_iff context password_present reads, readProfile,
    Session.fails_with_invalidCredentials_iff reads fun session opened cause =>
      session.fails_readProfileWithin _ cause]
  constructor
  · rintro ((blank | ⟨present, unknown | ⟨hurdle, error, failed, other⟩⟩) |
      ⟨verified, (unknown | ⟨hurdle, error, failed, other⟩) | ⟨profile, later, failed, -⟩⟩)
    · exact .inl blank
    · exact .inr (.inl (.verifying present unknown))
    · exact .inr (.inr ⟨hurdle, error, .verifying present failed, other⟩)
    · exact .inr (.inl (.reading verified unknown))
    · exact .inr (.inr ⟨hurdle, error, .reading verified failed, other⟩)
    · exact absurd rfl (Reconciliation.ne_of_fails_reconcile reads failed).2
  · rintro (blank | findsNone | ⟨hurdle, error, stops, other⟩)
    · exact .inl (.inl blank)
    · cases findsNone with
      | verifying present unknown => exact .inl (.inr ⟨present, .inl unknown⟩)
      | reading verified unknown => exact .inr ⟨verified, .inl (.inl unknown)⟩
    · cases stops with
      | verifying present failed =>
        exact .inl (.inr ⟨present, .inr ⟨hurdle, error, failed, other⟩⟩)
      | reading verified failed =>
        exact .inr ⟨verified, .inl (.inr ⟨hurdle, error, failed, other⟩)⟩

/-- If a form was filled in and reads of the stores fail as they should, a sign-in ends with a
failed connection exactly if it stops at a hurdle because the directory could not be reached in
time; and with invalid credentials exactly if the username is blank, the provider is unknown, or it
stops at a hurdle for any other reason.  Otherwise it succeeds, or it ends with the error of a read
that failed, with a failed write, or because a private tenant does not know the user.  A failed
connection is the only error for which another attempt is worthwhile. -/
theorem signIn_classifies (environment : Environment σ) (begun : Moment σ)
    (valid : request.check = .ok ()) (reads : environment.ReadsFailAsStore) :
    let run := (service.signIn context request).run.run environment begun
    (run.result = .error (.connectionFailed request.provider) ↔
      ∃ hurdle error, service.StopsAt context request environment begun hurdle error ∧
        error.OutOfReach) ∧
    (run.result = .error .invalidCredentials ↔
      Text.trim request.username = "" ∨ service.FindsNoProvider context request environment begun ∨
        ∃ hurdle error, service.StopsAt context request environment begun hurdle error ∧
          ¬ error.OutOfReach) ∧
    ((∃ signedIn, run.result = .ok signedIn) ∨
      run.result = .error (.connectionFailed request.provider) ∨
      run.result = .error .invalidCredentials ∨
      run.result = .error .notInvited ∨
      (∃ detail, run.result = .error (.persistenceFailure detail)) ∨
      ∃ detail, run.result = .error (.store detail) ∧
        ∃ step ∈ run.steps, step.failedRead? = some (.store detail)) ∧
    ∀ e, run.result = .error e →
      (e.isRetryable = true ↔ e = .connectionFailed request.provider) := by
  intro run
  have outcomes : ∀ e, run.result = .error e → Refusal request.provider e ∨
      ∃ detail, e = .store detail ∧
        ∃ step ∈ run.steps, step.failedRead? = some (.store detail) := by
    intro e failed
    rcases (service.explains_signIn context request valid).fails failed with
      refusal | ⟨step, made, told⟩
    · exact .inl refusal
    · obtain ⟨detail, rfl⟩ := reads.of_failedRead made told
      exact .inr ⟨detail, rfl, step, made, told⟩
  refine ⟨service.signIn_connectionFailed_iff context valid reads,
    service.signIn_invalidCredentials_iff context valid reads, ?_, fun e failed => ?_⟩
  · cases ended : run.result with
    | ok signedIn => exact .inl ⟨signedIn, rfl⟩
    | error e =>
      rcases outcomes e ended with refusal | ⟨detail, rfl, told⟩
      · cases refusal with
        | connectionFailed => exact .inr (.inl rfl)
        | invalidCredentials => exact .inr (.inr (.inl rfl))
        | notInvited => exact .inr (.inr (.inr (.inl rfl)))
        | persistenceFailure detail => exact .inr (.inr (.inr (.inr (.inl ⟨detail, rfl⟩))))
      · exact .inr (.inr (.inr (.inr (.inr ⟨detail, rfl, told⟩))))
  · rw [e.isRetryable_iff]
    constructor
    · rintro ⟨provider, rfl⟩
      rcases outcomes _ failed with refusal | ⟨detail, impossible, -⟩
      · cases refusal
        rfl
      · cases impossible
    · rintro rfl
      exact ⟨_, rfl⟩

/-- In calm surroundings no directory answers before the deadline. -/
theorem signIn_classifies_calm :
    let memory : Memory Unit := ⟨(Memory.sample {}).configs, .empty, ()⟩
    let environment := Surroundings.calm.withMemory
    SignInRequest.sample.check = .ok () ∧ environment.ReadsFailAsStore ∧
      ((Service.sample.signIn .sample .sample).run.run environment ⟨0, memory⟩).result =
        .error (.connectionFailed "ldap") ∧
      ∃ hurdle error, Service.sample.StopsAt .sample .sample environment ⟨0, memory⟩ hurdle error ∧
        error.OutOfReach := by
  intro memory environment
  have valid : SignInRequest.sample.check = .ok () := rfl
  have reads : environment.ReadsFailAsStore := Surroundings.faultless_calm.readsFailAsStore
  have failed : ((Service.sample.signIn .sample .sample).run.run environment ⟨0, memory⟩).result =
      .error (.connectionFailed "ldap") := by
    decide +kernel
  obtain ⟨connection, -⟩ :=
    signIn_classifies .sample .sample .sample environment ⟨0, memory⟩ valid reads
  exact ⟨valid, reads, failed, connection.mp failed⟩

end Service

end DirectorySignIn
