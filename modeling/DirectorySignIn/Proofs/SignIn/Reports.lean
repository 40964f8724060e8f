import DirectorySignIn.Proofs.SignIn.Checks
import DirectorySignIn.Proofs.SignIn.PublicErrors
import DirectorySignIn.Proofs.SignIn.Unbinding

/-!
# Reports of failed steps

An operation that stops because a step on a directory failed reports this step to the operator, once
and at the level that its error calls for; otherwise it reports nothing.  The reports come from
three places: two of them stand where a session is opened, and one behind the closing of it, which
may itself fail and be noted.

Main results:

- `Session.reported_within`: what is reported of a session depends on where it stops, whatever work
  is done in it.
- `Reported.bind`: what is reported of two sessions in a row.
- `Service.failures_reported`: which reports the operations make, what the reports say, and that a
  failed closing adds nothing but a note.
-/

namespace DirectorySignIn

variable {σ α : Type} {environment : Environment σ} {begun opened : Moment σ}

/-! ## What a report says -/

/-- How loud the report of a failed step is.  What the operator has to mend is an error, what may
pass by itself is a warning, and what the user got wrong is neither. -/
inductive DirectoryError.Urgency : DirectoryError → LogLevel → Prop
  | invalidUrl (detail : String) : Urgency (.invalidUrl detail) .error
  | dial (detail : String) : Urgency (.dial detail) .error
  | startTls (detail : String) : Urgency (.startTls detail) .error
  | tls (detail : String) : Urgency (.tls detail) .error
  | transport (detail : String) : Urgency (.transport detail) .error
  | serviceBind (detail : String) : Urgency (.serviceBind detail) .error
  | search (detail : String) : Urgency (.search detail) .error
  | timeout (operation : String) : Urgency (.timeout operation) .warn
  | deadline : Urgency .deadline .warn
  | bind (detail : String) : Urgency (.bind detail) .warn
  | protocol (detail : String) : Urgency (.protocol detail) .warn
  | userNotFound (matchCount : Nat) : Urgency (.userNotFound matchCount) .debug
  | userBind (detail : String) : Urgency (.userBind detail) .debug

/-- An error is reported at the level of its urgency. -/
theorem DirectoryError.logLevel_eq_iff (error : DirectoryError) (level : LogLevel) :
    error.logLevel = level ↔ error.Urgency level := by
  constructor
  · rintro rfl
    cases error <;> constructor
  · intro urgent
    cases urgent with
    | _ => rfl

/-- The stage of a step that failed at a hurdle: a rejected bind has the stage of the account that
was to be bound. -/
def Hurdle.stageOf : Hurdle → DirectoryError → String
  | serviceBind, .bind _ => "service_bind"
  | userBind, .bind _ => "user_bind"
  | _, error => error.stage

/-- An error that is relabelled at a hurdle tells the stage of the hurdle. -/
theorem Hurdle.stage_relabel (hurdle : Hurdle) (error : DirectoryError) :
    (hurdle.relabel error).stage = hurdle.stageOf error := by
  cases hurdle with
  | serviceBind => cases error <;> rfl
  | userBind => cases error <;> rfl
  | _ => rfl

namespace LogEvent

variable (provider url : String) (error : DirectoryError)

/-- The report of a failure names the stage. -/
theorem lookup_stage_failure :
    (failure provider url error).fields.lookup "stage" = some (.string error.stage) := by
  cases error <;> rfl

/-- What the user got wrong is reported without the server. -/
theorem lookup_url_failure (quiet : error.logLevel = .debug) :
    (failure provider url error).fields.lookup "url" = none := by
  cases (error.logLevel_eq_iff _).mp quiet with
  | _ => rfl

/-- That an unbind failed is told at the lowest level. -/
theorem level_of_isUnbindFailure {event : LogEvent} (note : event.isUnbindFailure = true) :
    event.level = .debug := by
  cases event with
  | unbindFailed _ _ => rfl
  | _ => cases note

end LogEvent

/-! ## Sessions -/

namespace Session

variable {settings : Settings} {context : Context} {provider : String} {session : Session}
  {hurdle : Hurdle} {error : DirectoryError}

/-- What is reported of the outcome of a step. -/
def reportsOf (provider url : String) : Except DirectoryError α → List LogEvent
  | .ok _ => []
  | .error error => [.failure provider url error]

/-- To settle an outcome reports the error, if it is one. -/
theorem reports_settle (reduce : DirectoryError → String → Error) (provider url : String)
    (outcome : Except DirectoryError α) :
    Task.reports environment (settle reduce provider url outcome) begun =
      reportsOf provider url outcome := by
  cases outcome <;> rfl

/-- What is reported by opening a session after the provider was found. -/
theorem reports_start_of_found {config : ProviderConfig} {target : Target}
    {outcome : Except DirectoryError Unit} {later : Moment σ}
    (found : (environment.store (.getConfig context.tenant.id provider) begun.state).1 =
      .ok (some config))
    (valid : Target.ofConfig config settings = .ok target)
    (asked : Task.Succeeds environment (ExceptT.lift (Budget.call
        ⟨settings.operationTimeout, context.deadline⟩ "connect" (.connect target)).run :
        Task Error (Except DirectoryError Unit))
      (afterLookup environment context.tenant.id provider begun) outcome later) :
    Task.reports environment (start settings context provider) begun =
      reportsOf provider target.url.text outcome := by
  have looked_up : Task.Succeeds environment (findConfig context.tenant.id provider) begun config
      (afterLookup environment context.tenant.id provider begun) :=
    (succeeds_findConfig _ _ _).mpr ⟨found, rfl⟩
  have settled : Task.Succeeds environment (settle DirectoryError.toPublic provider config.hostname
      (Target.ofConfig config settings))
      (afterLookup environment context.tenant.id provider begun) target _ :=
    (succeeds_settle _ _ _ _ _).mpr ⟨valid, rfl⟩
  have connecting : Task.Plain (Budget.call ⟨settings.operationTimeout, context.deadline⟩ "connect"
      (.connect target)) := Budget.plain_call _ _ fun _ => rfl
  unfold start
  rw [(plain_findConfig _ _).reports_bind looked_up, Task.reports_bind_of_succeeds settled, valid,
    reports_settle, reportsOf, List.nil_append, connecting.lift.reports_bind asked]
  cases outcome with
  | ok u => rfl
  | error error => rfl

/-- Opening a session that is opened is not reported. -/
theorem reports_start_of_established
    (established : Established environment settings context provider begun session opened) :
    Task.reports environment (start settings context provider) begun = [] := by
  obtain ⟨found, valid, budget_eq, granted⟩ := established
  have asked := (Task.succeeds_lift (ε := Error) _ _).mpr
    ((Budget.succeeds_call _ "connect" _ _).mpr (budget_eq ▸ granted))
  exact reports_start_of_found found valid asked

/-- What keeps a session from being opened is reported. -/
theorem reports_start_of_failsToOpen
    (failed : FailsToOpen environment settings context provider begun hurdle error) :
    ∃ url, Task.reports environment (start settings context provider) begun =
      [.failure provider url error] := by
  cases failed with
  | @target config _ found invalid =>
    have looked_up := (succeeds_findConfig context.tenant.id provider config).mpr ⟨found, rfl⟩
    refine ⟨config.hostname, ?_⟩
    unfold start
    rw [(plain_findConfig _ _).reports_bind looked_up, invalid,
      Task.reports_bind_of_fails ((fails_settle _ _ _ _ _).mpr ⟨error, rfl, rfl⟩),
      reports_settle, reportsOf]
  | @connect config target _ found valid refused =>
    obtain ⟨later, asked⟩ := (Task.fails_iff_succeeds_lift (ε := Error) _ _).mp
      ((Budget.fails_call _ "connect" _ _).mpr refused)
    exact ⟨_, reports_start_of_found found valid asked⟩

/-- A look-up of a provider that fails is not reported. -/
theorem reports_start_of_findConfig {e : Error}
    (failed : Task.Fails environment (findConfig context.tenant.id provider) begun e) :
    Task.reports environment (start settings context provider) begun = [] := by
  unfold start
  rw [Task.reports_bind_of_fails failed, (plain_findConfig _ _).reports]

/-- In a session that was opened, the error of the work is all that is reported. -/
theorem reports_within_of_established (reduce : DirectoryError → String → Error)
    {work : Session → Task DirectoryError α} (plain : ∀ session, Task.Plain (work session))
    (established : Established environment settings context provider begun session opened) :
    Task.reports environment (within settings context provider reduce work) begun =
      reportsOf provider session.target.url.text
        ((work session).run.run environment opened).result := by
  have started := (succeeds_start_iff settings context provider session).mpr established
  have worked : Task.Succeeds environment (ExceptT.lift (work session).run :
      Task Error (Except DirectoryError α)) opened _ _ := (Task.succeeds_lift _ _).mpr ⟨rfl, rfl⟩
  have closed : Task.Succeeds environment (ExceptT.lift session.close : Task Error Unit)
      ((work session).run.run environment opened).after () _ :=
    (Task.succeeds_lift _ _).mpr ⟨rfl, rfl⟩
  unfold within
  rw [Task.reports_bind_of_succeeds started, reports_start_of_established established,
    List.nil_append, (plain session).lift.reports_bind worked, Task.reports_bind_of_succeeds closed,
    Task.reports_lift, reports_close, List.nil_append, reports_settle]

end Session

/-! ## What is reported of an operation -/

/-- What was reported of a run of an operation: if it has stopped at a hurdle, the error of that
hurdle, once; and else nothing. -/
structure Reported (run : Run σ (Except Error α)) (provider : String)
    (stopsAt : Hurdle → DirectoryError → Prop) : Prop where
  once : ∀ hurdle error, stopsAt hurdle error →
    (∃ e, run.result = .error e) ∧
      ∃ url, run.reports = [.failure provider url (hurdle.relabel error)]
  otherwise : (¬ ∃ hurdle error, stopsAt hurdle error) → run.reports = []

namespace Reported

variable {β : Type} {provider : String} {stopsAt stopsAt' : Hurdle → DirectoryError → Prop}
  {task : Task Error α} {f : α → Task Error β}

/-- Reports depend on nothing but where the run stops. -/
theorem congr {run : Run σ (Except Error α)} (reported : Reported run provider stopsAt)
    (same : ∀ hurdle error, stopsAt hurdle error ↔ stopsAt' hurdle error) :
    Reported run provider stopsAt' where
  once hurdle error stops := reported.once hurdle error ((same hurdle error).mpr stops)
  otherwise goes_on := by
    refine reported.otherwise fun ⟨hurdle, error, stops⟩ => goes_on ?_
    exact ⟨hurdle, error, (same hurdle error).mp stops⟩

/-- A plain task reports no failure. -/
theorem of_plain (plain : Task.Plain task) :
    Reported (task.run.run environment begun) provider fun _ _ => False where
  once _ _ impossible := impossible.elim
  otherwise _ := plain.reports

/-- A change of errors does not change what is reported. -/
theorem adapt (reported : Reported (task.run.run environment begun) provider stopsAt)
    (change : Error → Error) :
    Reported ((ExceptT.adapt change task).run.run environment begun) provider stopsAt where
  once hurdle error stops := by
    obtain ⟨⟨e, failed⟩, url, told⟩ := reported.once hurdle error stops
    exact ⟨⟨_, (Task.fails_adapt task change _).mpr ⟨e, failed, rfl⟩⟩, url,
      (Task.reports_adapt task change).trans told⟩
  otherwise goes_on := (Task.reports_adapt task change).trans (reported.otherwise goes_on)

/-- Two tasks in a row stop where the first one does, or else where the second one does. -/
theorem bind {later : α → Moment σ → Hurdle → DirectoryError → Prop}
    (first : Reported (task.run.run environment begun) provider stopsAt)
    (rest : ∀ a middle, Task.Succeeds environment task begun a middle →
      Reported ((f a).run.run environment middle) provider (later a middle)) :
    Reported ((task >>= f).run.run environment begun) provider fun hurdle error =>
      stopsAt hurdle error ∨ ∃ a middle, Task.Succeeds environment task begun a middle ∧
        later a middle hurdle error where
  once hurdle error stops := by
    rcases stops with stops | ⟨a, middle, succeeded, stops⟩
    · obtain ⟨⟨e, failed⟩, url, told⟩ := first.once hurdle error stops
      exact ⟨⟨e, (Task.fails_bind task f e).mpr (.inl failed)⟩, url,
        (Task.reports_bind_of_fails failed).trans told⟩
    · have goes_on : ¬ ∃ hurdle error, stopsAt hurdle error := by
        rintro ⟨hurdle, error, stops⟩
        obtain ⟨⟨e, failed⟩, -⟩ := first.once hurdle error stops
        cases failed.symm.trans succeeded.1
      obtain ⟨⟨e, failed⟩, url, told⟩ := (rest a middle succeeded).once hurdle error stops
      refine ⟨⟨e, (Task.fails_bind task f e).mpr (.inr ⟨a, middle, succeeded, failed⟩)⟩, url, ?_⟩
      have none_before : Task.reports environment task begun = [] := first.otherwise goes_on
      exact ((Task.reports_bind_of_succeeds succeeded).trans
        (congrArg (· ++ _) none_before)).trans told
  otherwise goes_on := by
    have none_before : Task.reports environment task begun = [] :=
      first.otherwise fun ⟨hurdle, error, stops⟩ => goes_on ⟨hurdle, error, .inl stops⟩
    change Task.reports environment (task >>= f) begun = []
    rcases Task.succeeds_or_fails environment task begun with ⟨a, middle, succeeded⟩ | ⟨e, failed⟩
    · have none_after : Task.reports environment (f a) middle = [] :=
        (rest a middle succeeded).otherwise fun ⟨hurdle, error, stops⟩ =>
          goes_on ⟨hurdle, error, .inr ⟨a, middle, succeeded, stops⟩⟩
      rw [Task.reports_bind_of_succeeds succeeded, none_before, none_after, List.append_nil]
    · rw [Task.reports_bind_of_fails failed, none_before]

/-- What plain tasks do afterwards is not reported. -/
theorem bind_plain (first : Reported (task.run.run environment begun) provider stopsAt)
    (plain : ∀ a, Task.Plain (f a)) :
    Reported ((task >>= f).run.run environment begun) provider stopsAt :=
  (first.bind fun a _ _ => of_plain (plain a)).congr fun hurdle error => by simp

end Reported

namespace Session

variable {settings : Settings} {context : Context} {provider : String}

/-- A session is reported once if it is not opened or if the work in it fails, and not at all
else. -/
theorem reported_within (reduce : DirectoryError → String → Error)
    {work : Session → Task DirectoryError α}
    {working : Session → Moment σ → Hurdle → DirectoryError → Prop}
    (plain : ∀ session, Task.Plain (work session))
    (works : ∀ session opened cause, Task.Fails environment (work session) opened cause ↔
      ∃ hurdle error, working session opened hurdle error ∧ hurdle.relabel error = cause) :
    Reported ((within settings context provider reduce work).run.run environment begun) provider
      (FailsAt environment settings context provider working begun) where
  once hurdle error stops := by
    cases stops with
    | opening failed =>
      have unopened := (fails_start settings context provider _).mpr
        (.inr ⟨hurdle, error, failed, rfl⟩)
      obtain ⟨url, told⟩ := reports_start_of_failsToOpen failed
      have unchanged : hurdle.relabel error = error := by
        cases failed with
        | _ => rfl
      refine ⟨⟨_, (fails_within _ _ _ reduce work _).mpr (.inl unopened)⟩, url, ?_⟩
      rw [unchanged, ← told]
      exact Task.reports_bind_of_fails unopened
    | @working session opened _ _ established failed =>
      have worked := (works session opened _).mpr ⟨hurdle, error, failed, rfl⟩
      refine ⟨⟨_, (fails_within _ _ _ reduce work _).mpr
        (.inr ⟨session, opened, _, established, worked, rfl⟩)⟩, session.target.url.text, ?_⟩
      have told := reports_within_of_established reduce plain established
      rw [worked] at told
      exact told
  otherwise goes_on := by
    change Task.reports environment (within settings context provider reduce work) begun = []
    rcases Task.succeeds_or_fails environment (start settings context provider) begun with
      ⟨session, opened, succeeded⟩ | ⟨e, failed⟩
    · have established := (succeeds_start_iff settings context provider session).mp succeeded
      rw [reports_within_of_established reduce plain established]
      cases outcome : ((work session).run.run environment opened).result with
      | ok a => rfl
      | error cause =>
        obtain ⟨hurdle, error, stops, -⟩ := (works session opened cause).mp outcome
        exact absurd ⟨hurdle, error, .working established stops⟩ goes_on
    · have told := Task.reports_bind_of_fails (f := fun session => do
        let outcome ← ExceptT.lift (work session).run
        ExceptT.lift session.close
        settle reduce provider session.target.url.text outcome) failed
      rcases (fails_start settings context provider e).mp failed with
        unknown | ⟨hurdle, error, stops, -⟩
      · exact told.trans (reports_start_of_findConfig unknown)
      · exact absurd ⟨hurdle, error, .opening stops⟩ goes_on

end Session

namespace Service

variable (service : Service) (context : Context) (provider username password : String)

/-- The check of a provider reports where it fails. -/
theorem reported_checkProvider (environment : Environment σ) (begun : Moment σ) :
    Reported ((service.checkProvider context provider).run.run environment begun) provider
      (Session.FailsCheck environment service.settings context provider begun) :=
  (Session.reported_within _ Session.plain_bindService fun session _ cause =>
    session.fails_bindService cause).bind_plain fun _ => Task.plain_log rfl

/-- A verification reports where it fails, unless the credentials are missing. -/
theorem reported_verify (environment : Environment σ) (begun : Moment σ) :
    Reported ((service.verify context provider username password).run.run environment begun)
      provider fun hurdle error => (Text.trim username ≠ "" ∧ password ≠ "") ∧
        Session.FailsAt environment service.settings context provider
          (fun session => session.FailsToVerify environment username password) begun hurdle
          error := by
  rw [verify_eq]
  by_cases missing : Text.trim username = "" ∨ password = ""
  · rw [if_pos missing]
    have plain : Task.Plain (do
        Task.log .credentialsMissing
        throw .invalidCredentials : Task Error Unit) :=
      Task.Plain.bind (Task.plain_log rfl) fun _ => Task.plain_throw _
    refine (Reported.of_plain plain).congr fun hurdle error => ?_
    exact ⟨False.elim, fun stops => not_and_or.mpr (missing.imp not_not.mpr not_not.mpr) stops.1⟩
  · rw [if_neg missing]
    have present := not_or.mp missing
    refine (Session.reported_within _ (fun session => session.plain_verifyWithin _ _)
      fun session _ cause => session.fails_verifyWithin _ _ present.2 cause).congr ?_
    exact fun hurdle error => (and_iff_right present).symm

/-- To read a profile reports where it fails. -/
theorem reported_readProfile (environment : Environment σ) (begun : Moment σ) :
    Reported ((service.readProfile context provider username).run.run environment begun) provider
      (Session.FailsAt environment service.settings context provider
        (fun session => session.FailsToRead environment username) begun) :=
  Session.reported_within _ (fun session => session.plain_readProfileWithin _)
    fun session _ cause => session.fails_readProfileWithin _ cause

/-- A sign-in that passes its check reports where it stops. -/
theorem reported_signIn (request : SignInRequest) (environment : Environment σ)
    (begun : Moment σ) :
    Reported ((service.signIn context request).run.run environment begun) request.provider
      fun hurdle error => request.check = .ok () ∧
        service.StopsAt context request environment begun hurdle error := by
  have afterwards (profile : Profile) : Task.Plain (do
      let reconciliation ← Reconciliation.reconcile context.tenant request.provider profile
      return (⟨profile, reconciliation⟩ : SignedIn)) :=
    (Reconciliation.plain_reconcile _ _ _).bind fun _ => Task.plain_pure _
  have reading (verified : Moment σ) := ((service.reported_readProfile context request.provider
    request.username environment verified).adapt Error.hidingProvider).bind_plain afterwards
  have sessions := ((service.reported_verify context request.provider request.username
    request.password environment begun).adapt Error.hidingProvider).bind
      fun _ verified _ => reading verified
  refine ((Reported.of_plain (Task.plain_ofExcept request.check)).bind
    fun _ _ checked => ((Task.succeeds_ofExcept _ _).mp checked).2 ▸ sessions).congr ?_
  intro hurdle error
  simp only [false_or, Task.succeeds_ofExcept, Task.succeeds_adapt]
  constructor
  · rintro ⟨_, _, ⟨checked, rfl⟩, ⟨⟨present, -⟩, failed⟩ | ⟨_, _, ⟨verified, rfl⟩, failed⟩⟩
    · exact ⟨checked, .verifying present failed⟩
    · exact ⟨checked, .reading verified failed⟩
  · rintro ⟨checked, stops⟩
    have password_present := ((request.check_eq_ok_iff).mp checked).2.1
    refine ⟨(), begun, ⟨checked, rfl⟩, ?_⟩
    cases stops with
    | verifying present failed => exact .inl ⟨⟨present, password_present⟩, failed⟩
    | reading verified failed => exact .inr ⟨(), _, ⟨verified, rfl⟩, failed⟩

/-- An operation makes exactly one report if it stops at a hurdle, of the error that stopped it, and
none otherwise; and it takes one note of each session that it cannot close.  A report has the stage
and the level of its error, and without the server if the user was wrong.  A note is for debugging,
and before directories that answer alike but for the closing of sessions all other events are the
same; a sign-in goes on after it has closed its first session, so there the closing has to take as
long. -/
theorem failures_reported (request : SignInRequest) :
    (∀ {σ : Type} (environment : Environment σ) (begun : Moment σ),
      let checked := (service.checkProvider context provider).run.run environment begun
      let verified := (service.verify context provider username password).run.run environment begun
      let read := (service.readProfile context provider username).run.run environment begun
      let signedIn := (service.signIn context request).run.run environment begun
      (Reported checked provider
          (Session.FailsCheck environment service.settings context provider begun) ∧
        Reported verified provider (fun hurdle error =>
          (Text.trim username ≠ "" ∧ password ≠ "") ∧
            Session.FailsAt environment service.settings context provider
              (fun session => session.FailsToVerify environment username password) begun hurdle
              error) ∧
        Reported read provider
          (Session.FailsAt environment service.settings context provider
            (fun session => session.FailsToRead environment username) begun) ∧
        Reported signedIn request.provider (fun hurdle error => request.check = .ok () ∧
          service.StopsAt context request environment begun hurdle error)) ∧
      UnbindsTold checked.steps ∧ UnbindsTold verified.steps ∧ UnbindsTold read.steps ∧
        UnbindsTold signedIn.steps) ∧
    (∀ (hurdle : Hurdle) (error : DirectoryError) (provider url : String),
      let event := LogEvent.failure provider url (hurdle.relabel error)
      event.fields.lookup "stage" = some (.string (hurdle.stageOf error)) ∧
        (∀ level, event.level = level ↔ (hurdle.relabel error).Urgency level) ∧
        (event.level = .debug → event.fields.lookup "url" = none)) ∧
    (∀ event : LogEvent, event.isUnbindFailure = true → event.level = .debug) ∧
    ∀ {σ τ : Type} {left : Environment σ} {right : Environment τ} {related : σ → τ → Prop},
      AlikeButClosing left right related → ∀ clock {s t}, related s t →
        ((service.checkProvider context provider).run.run left ⟨clock, s⟩).eventsButClosing =
            ((service.checkProvider context provider).run.run right ⟨clock, t⟩).eventsButClosing ∧
          ((service.verify context provider username password).run.run left
              ⟨clock, s⟩).eventsButClosing =
            ((service.verify context provider username password).run.run right
              ⟨clock, t⟩).eventsButClosing ∧
          ((service.readProfile context provider username).run.run left
              ⟨clock, s⟩).eventsButClosing =
            ((service.readProfile context provider username).run.run right
              ⟨clock, t⟩).eventsButClosing ∧
          (ClosingTakesAsLong left right related →
            ((service.signIn context request).run.run left ⟨clock, s⟩).eventsButClosing =
              ((service.signIn context request).run.run right ⟨clock, t⟩).eventsButClosing) := by
  refine ⟨fun environment begun => ⟨⟨?_, ?_, ?_, ?_⟩, ?_, ?_, ?_, ?_⟩,
    fun hurdle error provider url => ⟨?_, fun level => ?_, ?_⟩,
    fun event => LogEvent.level_of_isUnbindFailure, ?_⟩
  · exact service.reported_checkProvider context provider environment begun
  · exact service.reported_verify context provider username password environment begun
  · exact service.reported_readProfile context provider username environment begun
  · exact service.reported_signIn context request environment begun
  · exact service.tellsOfUnbinds_checkProvider context provider _ environment begun
  · exact service.tellsOfUnbinds_verify context provider username password _ environment begun
  · exact service.tellsOfUnbinds_readProfile context provider username _ environment begun
  · exact service.tellsOfUnbinds_signIn context request _ environment begun
  · rw [LogEvent.lookup_stage_failure, hurdle.stage_relabel]
  · exact (hurdle.relabel error).logLevel_eq_iff level
  · exact LogEvent.lookup_url_failure provider url (hurdle.relabel error)
  · intro σ τ left right related alike clock s t hst
    exact service.eventsButClosing_eq context provider username password request alike clock hst

/-- A directory rejects the password of a user and then breaks off: the rejection is reported and
the break is noted, and without the break there would have been the report all the same. -/
theorem failures_reported_rejected :
    let answering (outcome : Except DirectoryError Unit) :=
      Script.surroundings.withMemory.closingWith fun memory => (⟨3, outcome⟩, memory)
    let closing := answering (.ok ())
    let breaking := answering (.error (.transport "reset"))
    let script : Script :=
      { reactions := fun
          | .search => [{ entries := [.sample "ada"] }]
          | .bind => [{}, { error := some (.bind "data 52e") }]
          | _ => [] }
    let begun : Moment (Memory Script) := ⟨0, .sample script⟩
    let verify := Service.sample.verify .sample "ldap" "ada" "ada-pw"
    let signIn := Service.sample.signIn .sample .sample
    AlikeButClosing closing breaking (· = ·) ∧ ClosingTakesAsLong closing breaking (· = ·) ∧
      (∃ hurdle error,
        Session.FailsAt breaking Service.sample.settings .sample "ldap"
          (fun session => session.FailsToVerify breaking "ada" "ada-pw") begun hurdle error ∧
        hurdle.relabel error = .userBind "data 52e") ∧
      (eventsOf (verify.run.run breaking begun).steps).countP LogEvent.isUnbindFailure = 1 ∧
      UnbindsTold (verify.run.run breaking begun).steps ∧
      (verify.run.run closing begun).eventsButClosing =
        (verify.run.run breaking begun).eventsButClosing ∧
      (signIn.run.run closing begun).eventsButClosing =
        (signIn.run.run breaking begun).eventsButClosing := by
  intro answering closing breaking script begun verify signIn
  have alike : AlikeButClosing closing breaking (· = ·) :=
    Script.surroundings.withMemory.alikeButClosing _ _
  have asLong : ClosingTakesAsLong closing breaking (· = ·) := by
    rintro s _ rfl
    exact ⟨rfl, rfl⟩
  obtain ⟨runs, -, -, same⟩ := failures_reported .sample .sample "ldap" "ada" "ada-pw" .sample
  obtain ⟨⟨-, reported, -, -⟩, -, told, -, -⟩ := runs breaking begun
  have reports : (verify.run.run breaking begun).reports =
      [.failure "ldap" "ldaps://ldap.example.org:636" (.userBind "data 52e")] := by
    decide +kernel
  obtain ⟨hurdle, error, present, stops⟩ := not_not.mp fun goes_on =>
    List.cons_ne_nil _ _ (reports.symm.trans (reported.otherwise goes_on))
  obtain ⟨-, url, once⟩ := reported.once hurdle error ⟨present, stops⟩
  obtain ⟨-, relabelled⟩ : url = _ ∧ hurdle.relabel error = .userBind "data 52e" := by
    simpa using once.symm.trans reports
  obtain ⟨-, verified, -, signedIn⟩ := same alike 0 (rfl : begun.state = begun.state)
  exact ⟨alike, asLong, ⟨hurdle, error, stops, relabelled⟩, by decide +kernel, told, verified,
    signedIn asLong⟩

end Service

end DirectorySignIn
