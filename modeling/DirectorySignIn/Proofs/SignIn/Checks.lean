import DirectorySignIn.Proofs.SignIn.PublicErrors

/-!
# What a check of a provider blames

A check connects and binds the service account, so whatever goes wrong concerns the directory and
the account that the operator has set up, and nobody's credentials.  The two calls are reported by
two tables, though.  The one for the bind knows of checks; the one for connecting is that of a
sign-in, where an error that does not say that the directory was out of reach means that the
credentials were wrong.

Main results:

- `Service.fails_checkProvider`: a check fails because the provider could not be looked up, or with
  the error of its hurdle by the table of that hurdle.
- `Service.checkProvider_classifies`: what a check ends with, and when; it blames the credentials
  exactly if the error is one of a user, or if connecting failed by a rejection or a broken
  protocol, as in `Service.checkProvider_broken_connection`.
-/

namespace DirectorySignIn

variable {σ : Type} {environment : Environment σ} {begun : Moment σ}

/-! ## Blame -/

/-- Errors that only the look-up or the bind of a user should meet with. -/
inductive DirectoryError.OfUser : DirectoryError → Prop
  | search (detail : String) : OfUser (.search detail)
  | userNotFound (matchCount : Nat) : OfUser (.userNotFound matchCount)
  | userBind (detail : String) : OfUser (.userBind detail)

/-- Errors of a directory that was reached and rejects a bind, or does not keep to the protocol. -/
inductive DirectoryError.OfService : DirectoryError → Prop
  | bind (detail : String) : OfService (.bind detail)
  | serviceBind (detail : String) : OfService (.serviceBind detail)
  | protocol (detail : String) : OfService (.protocol detail)

/-- The errors that a check blames on credentials. -/
inductive Hurdle.Misblamed : Hurdle → DirectoryError → Prop
  | ofUser (hurdle : Hurdle) {error : DirectoryError} (h : error.OfUser) : Misblamed hurdle error
  | ofService {error : DirectoryError} (h : error.OfService) : Misblamed .connect error

namespace DirectoryError

/-- A directory is out of reach, or the error is one of the service account or of a user. -/
theorem not_outOfReach_iff (error : DirectoryError) :
    ¬ error.OutOfReach ↔ error.OfService ∨ error.OfUser := by
  rw [← isConnectionFailure_iff]
  constructor
  · intro h
    cases error with
    | bind detail => exact .inl (.bind detail)
    | serviceBind detail => exact .inl (.serviceBind detail)
    | protocol detail => exact .inl (.protocol detail)
    | search detail => exact .inr (.search detail)
    | userNotFound matchCount => exact .inr (.userNotFound matchCount)
    | userBind detail => exact .inr (.userBind detail)
    | invalidUrl _ | dial _ | startTls _ | transport _ | tls _ | timeout _ | deadline =>
      exact absurd rfl h
  · rintro (h | h)
    · cases h with
      | _ => exact Bool.false_ne_true
    · cases h with
      | _ => exact Bool.false_ne_true

/-- By the table for the bind of a check, only the errors of users are blamed on credentials. -/
theorem toCheckFailure_eq (error : DirectoryError) (provider : String) :
    error.OfUser ∧ error.toCheckFailure provider = .invalidCredentials ∨
      ¬ error.OfUser ∧ error.toCheckFailure provider = .connectionFailed provider := by
  cases error with
  | search detail => exact .inl ⟨.search detail, rfl⟩
  | userNotFound matchCount => exact .inl ⟨.userNotFound matchCount, rfl⟩
  | userBind detail => exact .inl ⟨.userBind detail, rfl⟩
  | _ => exact .inr ⟨nofun, rfl⟩

end DirectoryError

/-! ## Hurdles -/

namespace Hurdle

/-- What a check reports of an error at a hurdle: the bind has a table of its own. -/
def checkFailure : Hurdle → DirectoryError → String → Error
  | serviceBind => fun error => (serviceBind.relabel error).toCheckFailure
  | _ => DirectoryError.toPublic

/-- An error at the bind of the service account concerns a user exactly if it did before it was
relabelled. -/
theorem ofUser_relabel_iff (error : DirectoryError) :
    (serviceBind.relabel error).OfUser ↔ error.OfUser := by
  cases error with
  | bind detail => exact ⟨nofun, nofun⟩
  | _ => exact Iff.rfl

/-- At the bind of the service account the errors that concern a user are misblamed. -/
theorem misblamed_serviceBind_iff (error : DirectoryError) :
    serviceBind.Misblamed error ↔ error.OfUser := by
  constructor
  · intro h
    cases h with
    | ofUser _ h => exact h
  · exact .ofUser _

/-- At the opening of a connection the errors of a directory within reach are misblamed. -/
theorem misblamed_connect_iff (error : DirectoryError) :
    connect.Misblamed error ↔ ¬ error.OutOfReach := by
  rw [error.not_outOfReach_iff]
  constructor
  · intro h
    cases h with
    | ofUser _ h => exact .inr h
    | ofService h => exact .inl h
  · rintro (h | h)
    · exact .ofService h
    · exact .ofUser _ h

end Hurdle

/-- No target can be derived only if there is no URL. -/
theorem Target.outOfReach_of_error {config : ProviderConfig} {settings : Settings}
    {error : DirectoryError} (h : Target.ofConfig config settings = .error error) :
    error.OutOfReach := by
  have noUrl : Target.urlOf config = .error error := by
    unfold ofConfig at h
    cases url : Target.urlOf config with
    | ok url => rw [url] at h; cases h
    | error other => rw [url] at h; cases h; rfl
  unfold urlOf at noUrl
  by_cases blank : Text.trim config.hostname = ""
  · rw [if_pos blank] at noUrl
    cases noUrl
    exact .invalidUrl _
  · rw [if_neg blank] at noUrl
    cases parsed : Url.parse (Target.rawUrl config) with
    | ok url => rw [parsed] at noUrl; cases noUrl
    | error e =>
      rw [parsed] at noUrl
      cases noUrl
      exact .invalidUrl _

namespace Session

variable {settings : Settings} {context : Context} {provider : String} {hurdle : Hurdle}
  {error : DirectoryError}

/-- A check fails at a hurdle: the session is not opened, or the service account is not bound. -/
abbrev FailsCheck (environment : Environment σ) (settings : Settings) (context : Context)
    (provider : String) (begun : Moment σ) : Hurdle → DirectoryError → Prop :=
  FailsAt environment settings context provider (fun session => session.FailsToBind environment)
    begun

/-- What is told of a hurdle of a check. -/
theorem FailsCheck.checkFailure_eq
    (failed : FailsCheck environment settings context provider begun hurdle error) :
    hurdle.Misblamed error ∧ hurdle.checkFailure error provider = .invalidCredentials ∨
      ¬ hurdle.Misblamed error ∧
        hurdle.checkFailure error provider = .connectionFailed provider := by
  cases failed with
  | opening failed =>
    cases failed with
    | target _ invalid =>
      have outOfReach := Target.outOfReach_of_error invalid
      refine .inr ⟨?_, (error.toPublic_eq_connectionFailed_iff provider).mpr outOfReach⟩
      intro misblamed
      cases misblamed with
      | ofUser _ ofUser => exact error.not_outOfReach_iff.mpr (.inr ofUser) outOfReach
    | connect _ _ _ =>
      rw [Hurdle.misblamed_connect_iff]
      by_cases outOfReach : error.OutOfReach
      · exact .inr ⟨not_not.mpr outOfReach,
          (error.toPublic_eq_connectionFailed_iff provider).mpr outOfReach⟩
      · exact .inl ⟨outOfReach, (error.toPublic_eq_invalidCredentials_iff provider).mpr outOfReach⟩
  | working _ failed =>
    cases failed with
    | serviceBind _ =>
      rw [Hurdle.misblamed_serviceBind_iff, ← Hurdle.ofUser_relabel_iff]
      exact DirectoryError.toCheckFailure_eq _ _

end Session

namespace Service

variable (service : Service) (context : Context) (provider : String)

/-- A check fails because the provider could not be looked up, or at a hurdle. -/
theorem fails_checkProvider (e : Error) :
    Task.Fails environment (service.checkProvider context provider) begun e ↔
      Task.Fails environment (Session.findConfig context.tenant.id provider) begun e ∨
        ∃ hurdle error,
          Session.FailsCheck environment service.settings context provider begun hurdle error ∧
            hurdle.checkFailure error provider = e := by
  unfold checkProvider
  rw [Task.fails_bind, Session.fails_within, Session.fails_start]
  simp only [Task.not_fails_log, Session.fails_bindService, or_assoc]
  apply or_congr_right
  constructor
  · rintro (⟨hurdle, error, failed, rfl⟩ |
      ⟨session, opened, _, established, ⟨hurdle, error, failed, rfl⟩, rfl⟩ | ⟨_, _, _, impossible⟩)
    · refine ⟨hurdle, error, .opening failed, ?_⟩
      cases failed with
      | target _ _ => rfl
      | connect _ _ _ => rfl
    · refine ⟨hurdle, error, .working established failed, ?_⟩
      cases failed with
      | serviceBind _ => rfl
    · exact impossible.elim
  · rintro ⟨hurdle, error, failed, rfl⟩
    cases failed with
    | opening failed =>
      refine .inl ⟨hurdle, error, failed, ?_⟩
      cases failed with
      | target _ _ => rfl
      | connect _ _ _ => rfl
    | working established failed =>
      refine .inr (.inl ⟨_, _, _, established, ⟨hurdle, error, failed, rfl⟩, ?_⟩)
      cases failed with
      | serviceBind _ => rfl

/-- A check succeeds if a session is opened and the service account is bound. -/
theorem checkProvider_eq_ok_iff (environment : Environment σ) (begun : Moment σ) :
    ((service.checkProvider context provider).run.run environment begun).result = .ok () ↔
      ∃ session opened bound,
        Session.Established environment service.settings context provider begun session opened ∧
          session.budget.Grants environment session.serviceBind opened () bound := by
  rw [Task.result_eq_ok_iff]
  unfold checkProvider
  simp only [Task.succeeds_bind, Task.succeeds_log, Session.succeeds_within,
    Session.succeeds_start_iff, Session.succeeds_bindService]
  constructor
  · rintro ⟨_, _, _, ⟨session, opened, bound, established, granted, -⟩, -⟩
    exact ⟨session, opened, bound, established, granted⟩
  · rintro ⟨session, opened, bound, established, granted⟩
    exact ⟨_, (), _, ⟨session, opened, bound, established, granted, rfl⟩, rfl⟩

/-- If reads of the stores fail as they should, a check fails with the error of the look-up, because
the provider is unknown, or with the error that is told of its hurdle. -/
theorem fails_checkProvider_cases (reads : environment.ReadsFailAsStore) (e : Error) :
    Task.Fails environment (service.checkProvider context provider) begun e ↔
      (∃ detail, (environment.store (.getConfig context.tenant.id provider) begun.state).1 =
          .error (.store detail) ∧ e = .store detail) ∨
        ((environment.store (.getConfig context.tenant.id provider) begun.state).1 = .ok none ∧
          e = .configurationNotFound provider) ∨
        ∃ hurdle error,
          Session.FailsCheck environment service.settings context provider begun hurdle error ∧
            (hurdle.Misblamed error ∧ e = .invalidCredentials ∨
              ¬ hurdle.Misblamed error ∧ e = .connectionFailed provider) := by
  rw [fails_checkProvider, Session.fails_findConfig, or_assoc]
  constructor
  · rintro (failed | unknown | ⟨hurdle, error, failed, rfl⟩)
    · obtain ⟨detail, rfl⟩ := reads _ _ e rfl failed
      exact .inl ⟨detail, failed, rfl⟩
    · exact .inr (.inl unknown)
    · exact .inr (.inr ⟨hurdle, error, failed, failed.checkFailure_eq⟩)
  · rintro (⟨detail, failed, rfl⟩ | unknown | ⟨hurdle, error, failed, told⟩)
    · exact .inl failed
    · exact .inr (.inl unknown)
    · refine .inr (.inr ⟨hurdle, error, failed, ?_⟩)
      rcases told with ⟨misblamed, rfl⟩ | ⟨justified, rfl⟩
      · rcases failed.checkFailure_eq with ⟨-, h⟩ | ⟨justified, -⟩
        · exact h
        · exact absurd misblamed justified
      · rcases failed.checkFailure_eq with ⟨misblamed, -⟩ | ⟨-, h⟩
        · exact absurd misblamed justified
        · exact h

/-- If reads of the stores fail as they should, a check ends well exactly if the service account is
bound; it says that the provider is unknown exactly if the store does not know it, and that the
store failed exactly if the look-up did.  At every hurdle it says that the directory could not be
reached, unless the error is one that is blamed on credentials: a rejection or a broken protocol
while connecting, or an error that only a user should meet with. -/
theorem checkProvider_classifies (environment : Environment σ) (begun : Moment σ)
    (reads : environment.ReadsFailAsStore) :
    let result := ((service.checkProvider context provider).run.run environment begun).result
    let answer := (environment.store (.getConfig context.tenant.id provider) begun.state).1
    (result = .ok () ↔ ∃ session opened bound,
      Session.Established environment service.settings context provider begun session opened ∧
        session.budget.Grants environment session.serviceBind opened () bound) ∧
    (result = .error (.configurationNotFound provider) ↔ answer = .ok none) ∧
    (∀ detail, result = .error (.store detail) ↔ answer = .error (.store detail)) ∧
    (result = .error (.connectionFailed provider) ↔ ∃ hurdle error,
      Session.FailsCheck environment service.settings context provider begun hurdle error ∧
        ¬ hurdle.Misblamed error) ∧
    (result = .error .invalidCredentials ↔ ∃ hurdle error,
      Session.FailsCheck environment service.settings context provider begun hurdle error ∧
        hurdle.Misblamed error) ∧
    ∀ e, result = .error e → e = .configurationNotFound provider ∨ (∃ detail, e = .store detail) ∨
      e = .connectionFailed provider ∨ e = .invalidCredentials := by
  intro result answer
  have failing (e : Error) : result = .error e ↔ _ :=
    service.fails_checkProvider_cases context provider reads e
  refine ⟨service.checkProvider_eq_ok_iff context provider environment begun, ?_, fun detail => ?_,
    ?_, ?_, fun e ended => ?_⟩
  · simpa using failing (.configurationNotFound provider)
  · simpa [eq_comm] using failing (.store detail)
  · simpa using failing (.connectionFailed provider)
  · simpa using failing .invalidCredentials
  · rcases (failing e).mp ended with ⟨detail, -, rfl⟩ | ⟨-, rfl⟩ | ⟨_, _, -, ⟨-, rfl⟩ | ⟨-, rfl⟩⟩
    · exact .inr (.inl ⟨detail, rfl⟩)
    · exact .inl rfl
    · exact .inr (.inr (.inr rfl))
    · exact .inr (.inr (.inl rfl))

/-- In calm surroundings no directory lets itself be connected to before the deadline, and a check
says so. -/
theorem checkProvider_classifies_calm :
    let memory : Memory Unit := ⟨(Memory.sample {}).configs, .empty, ()⟩
    let environment := Surroundings.calm.withMemory
    environment.ReadsFailAsStore ∧
      ((Service.sample.checkProvider .sample "ldap").run.run environment ⟨0, memory⟩).result =
        .error (.connectionFailed "ldap") ∧
      ∃ hurdle error,
        Session.FailsCheck environment Service.sample.settings .sample "ldap" ⟨0, memory⟩ hurdle
            error ∧
          ¬ hurdle.Misblamed error := by
  intro memory environment
  have reads : environment.ReadsFailAsStore := Surroundings.faultless_calm.readsFailAsStore
  have failed : ((Service.sample.checkProvider .sample "ldap").run.run environment
      ⟨0, memory⟩).result = .error (.connectionFailed "ldap") := by
    decide +kernel
  obtain ⟨-, -, -, connection, -⟩ :=
    checkProvider_classifies .sample .sample "ldap" environment ⟨0, memory⟩ reads
  exact ⟨reads, failed, connection.mp failed⟩

/-- A directory that answers a connection with something unexpected has the check say that the
credentials were wrong. -/
theorem checkProvider_broken_connection :
    let surroundings : Surroundings Unit :=
      { Surroundings.calm with
        directory := fun _ _ => (⟨0, .error (.protocol "unexpected response")⟩, ()) }
    let memory : Memory Unit := ⟨(Memory.sample {}).configs, .empty, ()⟩
    surroundings.withMemory.ReadsFailAsStore ∧
      ((Service.sample.checkProvider .sample "ldap").run.run surroundings.withMemory
        ⟨0, memory⟩).result = .error .invalidCredentials := by
  intro surroundings memory
  have faultless : surroundings.Faultless := fun _ _ => rfl
  exact ⟨faultless.readsFailAsStore, by decide +kernel⟩

end Service

end DirectorySignIn
