import DirectorySignIn.Proofs.Program.Events
import DirectorySignIn.Proofs.SignIn.Closing

/-!
# Sessions that cannot be closed

A session that a directory does not close in time is noted for the operator, and that is all that
comes of it.  In every run there are as many notes as sessions that could not be closed; and in two
runs before directories that answer everything alike but the closing of sessions, all that the
operator is told besides is the same.

Main results:

- `Reconciliation.plain_reconcile`, `Session.plain_verifyWithin`, `Session.plain_readProfileWithin`:
  the parts of the operations that have nothing to do with the closing of sessions.
- `Session.tells_close`: a closing that fails tells just that, and any other one nothing.
- `Service.tellsOfUnbinds_signIn` and its like: each failed closing is noted, and nothing else is
  noted as one.
- `Service.eventsButClosing_eq`: the other events do not depend on the closing of sessions.
-/

namespace DirectorySignIn

variable {σ τ α : Type}

/-! ## Plain parts -/

namespace Session

variable (session : Session)

/-- To look a configuration up is plain. -/
theorem plain_findConfig (tenant : TenantId) (provider : String) :
    Task.Plain (findConfig tenant provider) := by
  refine (Task.plain_store _).bind fun found => ?_
  cases found with
  | none => exact Task.plain_throw _
  | some config => exact Task.plain_pure config

theorem plain_bindService : Task.Plain session.bindService :=
  (Budget.plain_call _ _ fun _ => rfl).adapt _

theorem plain_bindUser (entry : Entry) (password : String) :
    Task.Plain (session.bindUser entry password) :=
  (Budget.plain_call _ _ fun _ => rfl).adapt _

theorem plain_findUser (username : String) (attributes : List String) :
    Task.Plain (session.findUser username attributes) :=
  (Budget.plain_call _ _ fun _ => rfl).bind fun _ => Task.plain_ofExcept _

/-- The work of a verification is plain. -/
theorem plain_verifyWithin (username password : String) :
    Task.Plain (Service.verifyWithin username password session) := by
  unfold Service.verifyWithin
  split
  · exact Task.plain_throw _
  · refine session.plain_bindService.bind fun _ => ?_
    exact (session.plain_findUser _ _).bind fun entry => session.plain_bindUser entry password

/-- The work of reading a profile is plain. -/
theorem plain_readProfileWithin (username : String) :
    Task.Plain (Service.readProfileWithin username session) := by
  refine session.plain_bindService.bind fun _ => ?_
  exact (session.plain_findUser _ _).bind fun entry => Task.plain_ofExcept _

end Session

namespace Reconciliation

theorem plain_register (user : User) : Task.Plain (Registry.register user) :=
  (Task.plain_store _).bind fun _ => Task.plain_log rfl

theorem plain_attach (user : UserId) (provider uid : String) :
    Task.Plain (Registry.attach user provider uid) :=
  (Task.plain_store _).bind fun _ => Task.plain_log rfl

/-- The linking of an account is plain. -/
theorem plain_linkAccount (user : User) (provider uid : String) :
    Task.Plain (linkAccount user provider uid) := by
  have warned : Task.Plain (warnOfReplacement user provider) := by
    unfold warnOfReplacement
    split
    · exact Task.plain_log rfl
    · exact Task.plain_pure _
  refine warned.bind fun _ => ((plain_attach _ _ _).adapt _).bind fun _ => ?_
  exact Task.Plain.bind (Task.plain_log rfl) fun _ => Task.plain_pure _

/-- The registration of a visitor is plain. -/
theorem plain_registerVisitor (tenant : TenantId) (provider : String) (profile : Profile) :
    Task.Plain (registerVisitor tenant provider profile) := by
  refine Task.plain_newUserId.bind fun _ => ((plain_register _).adapt _).bind fun _ => ?_
  exact Task.Plain.bind (Task.plain_log rfl) fun _ => Task.plain_pure _

/-- A reconciliation has nothing to do with directories. -/
theorem plain_reconcile (tenant : Tenant) (provider : String) (profile : Profile) :
    Task.Plain (reconcile tenant provider profile) := by
  refine (Task.plain_store _).bind fun known => ?_
  cases known with
  | some user => exact Task.Plain.bind (Task.plain_log rfl) fun _ => Task.plain_pure _
  | none =>
    refine Task.Plain.bind ?_ fun found => ?_
    · unfold findEmail
      split
      · exact Task.plain_pure _
      · exact Task.plain_store _
    · cases found with
      | some user => exact plain_linkAccount user provider profile.id
      | none =>
        dsimp only
        split
        · exact Task.Plain.bind (Task.plain_log rfl) fun _ => Task.plain_throw _
        · exact plain_registerVisitor _ _ _

end Reconciliation

/-! ## Notes of a run -/

namespace Session

variable (session : Session)

/-- To settle an outcome tells nothing of unbinds. -/
theorem tellsOfUnbinds_settle (reduce : DirectoryError → String → Error) (provider url : String)
    (outcome : Except DirectoryError α) :
    Task.TellsOfUnbinds (settle reduce provider url outcome) := by
  cases outcome with
  | ok a => exact (Task.plain_pure a).tellsOfUnbinds
  | error e =>
    exact (Task.tellsOfUnbinds_log rfl).bind fun _ => (Task.plain_throw _).tellsOfUnbinds

/-- The opening of a session tells nothing of unbinds. -/
theorem tellsOfUnbinds_start (settings : Settings) (context : Context) (provider : String) :
    Task.TellsOfUnbinds (start settings context provider) := by
  refine (plain_findConfig _ _).tellsOfUnbinds.bind fun config => ?_
  refine (tellsOfUnbinds_settle _ _ _ _).bind fun target => ?_
  have connecting : Task.Plain (Budget.call ⟨settings.operationTimeout, context.deadline⟩ "connect"
      (.connect target)) := Budget.plain_call _ _ fun _ => rfl
  refine connecting.lift.tellsOfUnbinds.bind fun connected => ?_
  exact (tellsOfUnbinds_settle _ _ _ _).bind fun _ => (Task.plain_pure _).tellsOfUnbinds

/-- Closing a session fails and tells one thing, which is just that, or it does not fail and tells
nothing. -/
theorem tells_close (environment : Environment σ) (moment : Moment σ) :
    let steps := (session.close.run environment moment).steps
    (steps.countP Step.failsToClose = 1 ∧
        ∃ error, eventsOf steps = [.unbindFailed session.target.url.text error]) ∨
      steps.countP Step.failsToClose = 0 ∧ eventsOf steps = [] := by
  unfold close
  rw [Program.run_bind, Budget.run_call]
  dsimp only
  rcases environment.reply moment (.directory .unbind (session.budget.limit moment.clock)) with
    ⟨reply, after⟩
  match reply with
  | none => exact .inl ⟨rfl, _, rfl⟩
  | some (.ok ()) => exact .inr ⟨rfl, rfl⟩
  | some (.error error) => exact .inl ⟨rfl, error, rfl⟩

/-- Where closing a session fails, one note is taken of it. -/
theorem tellsOfUnbinds_close :
    Task.TellsOfUnbinds (ExceptT.lift session.close : Task Error Unit) := by
  intro σ environment moment
  rw [Task.steps_lift, UnbindsTold]
  rcases session.tells_close environment moment with ⟨fails, error, told⟩ | ⟨closes, silent⟩
  · rw [fails, told]
    rfl
  · rw [closes, silent]
    rfl

/-- Closing a session is not reported, whatever comes of it. -/
theorem reports_close (environment : Environment σ) (moment : Moment σ) :
    (session.close.run environment moment).reports = [] := by
  rcases session.tells_close environment moment with ⟨-, error, told⟩ | ⟨-, silent⟩
  · rw [Run.reports, told]
    rfl
  · rw [Run.reports, silent]
    rfl

/-- Closing a session tells of nothing but its own failure. -/
theorem eventsButClosing_close (environment : Environment σ) (moment : Moment σ) :
    (session.close.run environment moment).eventsButClosing = [] := by
  rcases session.tells_close environment moment with ⟨-, error, told⟩ | ⟨-, silent⟩
  · rw [Run.eventsButClosing, told]
    rfl
  · rw [Run.eventsButClosing, silent]
    rfl

/-- A session with plain work tells of its unbind. -/
theorem tellsOfUnbinds_within (settings : Settings) (context : Context) (provider : String)
    (reduce : DirectoryError → String → Error) {work : Session → Task DirectoryError α}
    (plain : ∀ session, Task.Plain (work session)) :
    Task.TellsOfUnbinds (within settings context provider reduce work) := by
  refine (tellsOfUnbinds_start _ _ _).bind fun session => ?_
  refine (plain session).lift.tellsOfUnbinds.bind fun outcome => ?_
  exact session.tellsOfUnbinds_close.bind fun _ => tellsOfUnbinds_settle _ _ _ _

end Session

namespace Service

variable (service : Service) (context : Context) (provider username password : String)

/-- The check of a provider tells of its unbind. -/
theorem tellsOfUnbinds_checkProvider :
    Task.TellsOfUnbinds (service.checkProvider context provider) :=
  (Session.tellsOfUnbinds_within _ _ _ _ Session.plain_bindService).bind
    fun _ => Task.tellsOfUnbinds_log rfl

/-- A verification tells of its unbind. -/
theorem tellsOfUnbinds_verify :
    Task.TellsOfUnbinds (service.verify context provider username password) := by
  unfold verify
  split
  · exact (Task.tellsOfUnbinds_log rfl).bind fun _ => (Task.plain_throw _).tellsOfUnbinds
  · exact Session.tellsOfUnbinds_within _ _ _ _ fun session => session.plain_verifyWithin _ _

/-- To read a profile tells of its unbind. -/
theorem tellsOfUnbinds_readProfile :
    Task.TellsOfUnbinds (service.readProfile context provider username) :=
  Session.tellsOfUnbinds_within _ _ _ _ fun session => session.plain_readProfileWithin _

/-- A sign-in tells of both of its unbinds. -/
theorem tellsOfUnbinds_signIn (request : SignInRequest) :
    Task.TellsOfUnbinds (service.signIn context request) := by
  refine (Task.plain_ofExcept _).tellsOfUnbinds.bind fun _ => ?_
  refine ((service.tellsOfUnbinds_verify _ _ _ _).adapt _).bind fun _ => ?_
  refine ((service.tellsOfUnbinds_readProfile _ _ _).adapt _).bind fun profile => ?_
  exact ((Reconciliation.plain_reconcile _ _ _).bind fun _ => Task.plain_pure _).tellsOfUnbinds

end Service

/-! ## The other events of two runs -/

namespace Progress

/-- The events so far that do not concern the closing of sessions. -/
def eventsButClosing (progress : Progress σ) : List LogEvent :=
  progress.events.filter (!·.isUnbindFailure)

/-- A run adds its events that do not concern closing. -/
theorem eventsButClosing_after (progress : Progress σ) (run : Run σ α) :
    (progress.after run).eventsButClosing = progress.eventsButClosing ++ run.eventsButClosing := by
  simp [eventsButClosing, events, after, Run.eventsButClosing, eventsOf]

/-- Actions that report the same keep the events alike that do not concern closing. -/
theorem eventsButClosing_act {left : Environment σ} {right : Environment τ} {s : Progress σ}
    {t : Progress τ} (told : s.eventsButClosing = t.eventsButClosing) {action action' : Action}
    (same : action.event? = action'.event?) :
    (s.act left action).eventsButClosing = (t.act right action').eventsButClosing := by
  rw [eventsButClosing, eventsButClosing] at told ⊢
  rw [events_act, events_act, List.filter_append, List.filter_append, told, same]

end Progress

namespace AlikeButClosing

variable {left : Environment σ} {right : Environment τ} {related : σ → τ → Prop}
  (h : AlikeButClosing left right related)

/-- What is asked of two sides that go alike and have told the same so far, but for the closing of
sessions. -/
def telling : Coupling σ τ where
  toComparison := h.coupling.toComparison
  alike s t := h.coupling.alike s t ∧ s.eventsButClosing = t.eventsButClosing
  events := (· = ·)
  errors := (· = ·)
  urls := (· = ·)
  configs := (· = ·)
  calls := h.coupling.calls
  events_refl _ := rfl
  errors_congruence := DirectoryError.congruence_eq
  events_failure := LogEvent.failure_congr
  clock_eq hst := h.coupling.clock_eq hst.1
  readClock := by
    rintro s t ⟨halike, told⟩
    exact ⟨h.coupling.readClock halike, Progress.eventsButClosing_act told rfl⟩
  log := by
    rintro s t event _ ⟨halike, told⟩ rfl
    exact ⟨h.coupling.log halike rfl, Progress.eventsButClosing_act told rfl⟩
  directory := by
    rintro s t call call' ⟨halike, told⟩ calls limit
    obtain ⟨after, answered⟩ := h.coupling.directory halike calls limit
    exact ⟨⟨after, Progress.eventsButClosing_act told rfl⟩, answered⟩

/-- A request is served alike whatever closing sessions comes to. -/
theorem serves_telling (settings : Settings) (tenant : TenantId) (request : SignInRequest) :
    h.telling.Serves settings tenant request request :=
  let serves := h.serves settings tenant request
  { provider_eq := rfl
    check_eq := rfl
    username_blank := rfl
    password_empty := Iff.rfl
    lookup := by
      rintro s t ⟨halike, told⟩
      obtain ⟨after, answered⟩ := serves.lookup halike
      exact ⟨⟨after, Progress.eventsButClosing_act told rfl⟩, answered⟩
    target := serves.target
    serviceBind := serves.serviceBind
    search := serves.search
    userBind := serves.userBind
    attributes := serves.attributes
    profile := serves.profile }

/-- Closing sessions leaves the events alike that do not concern it. -/
theorem eventsButClosing_closed {s : Progress σ} {t : Progress τ}
    (told : s.eventsButClosing = t.eventsButClosing) (session session' : Session) :
    (s.after (session.close.run left s.moment)).eventsButClosing =
      (t.after (session'.close.run right t.moment)).eventsButClosing := by
  rw [Progress.eventsButClosing_after, Progress.eventsButClosing_after,
    session.eventsButClosing_close, session'.eventsButClosing_close, told]

/-- Closing sessions keeps the other events alike. -/
theorem closes_telling :
    h.telling.Closes fun s t => s.eventsButClosing = t.eventsButClosing where
  of_alike _ _ hst := hst.2
  log := by
    rintro s t event _ told rfl
    exact Progress.eventsButClosing_act told rfl
  close := by
    intro session session' _ s t hst one two _
    exact eventsButClosing_closed hst.2 session session'

/-- If closing takes as long on both sides, sessions are closed alike. -/
theorem closes_telling_alike (asLong : ClosingTakesAsLong left right related) :
    h.telling.Closes h.telling.alike where
  of_alike _ _ hst := hst
  log hst events := h.telling.log hst events
  close := by
    intro session session' sessions s t hst one two granted
    exact ⟨(h.closes_alike asLong).close ⟨sessions.config, sessions.url, sessions.budget⟩ s t hst.1
      granted, eventsButClosing_closed hst.2 session session'⟩

/-- A reconciliation ends alike whatever closing sessions comes to. -/
theorem reconcile_telling (tenant : Tenant) (provider : String) (profile : Profile) :
    Task.EndAlike h.telling.toComparison h.telling.alike
      (Reconciliation.reconcile tenant provider profile)
      (Reconciliation.reconcile tenant provider profile) h.telling.alike := by
  refine Coupling.reconcile ?_ ?_ tenant provider profile
  · rintro s t ⟨⟨hclock, hstate⟩, told⟩ call _
    obtain ⟨answered, hafter⟩ := h.store hstate call
    exact ⟨answered, ⟨hclock, hafter⟩, Progress.eventsButClosing_act told rfl⟩
  · rintro s t ⟨⟨hclock, hstate⟩, told⟩
    obtain ⟨answered, hafter⟩ := h.drawUserId hstate
    exact ⟨answered, ⟨hclock, hafter⟩, Progress.eventsButClosing_act told rfl⟩

end AlikeButClosing

/-- Two environments that answer alike but for the closing of sessions have the same told in the
operations with one session, but for the closing, and in a sign-in if closing takes as long. -/
theorem Service.eventsButClosing_eq (service : Service) (context : Context)
    (provider username password : String) (request : SignInRequest) {left : Environment σ}
    {right : Environment τ} {related : σ → τ → Prop} (h : AlikeButClosing left right related)
    (clock : Nat) {s : σ} {t : τ} (hst : related s t) :
    ((service.checkProvider context provider).run.run left ⟨clock, s⟩).eventsButClosing =
        ((service.checkProvider context provider).run.run right ⟨clock, t⟩).eventsButClosing ∧
      ((service.verify context provider username password).run.run left
          ⟨clock, s⟩).eventsButClosing =
        ((service.verify context provider username password).run.run right
          ⟨clock, t⟩).eventsButClosing ∧
      ((service.readProfile context provider username).run.run left ⟨clock, s⟩).eventsButClosing =
        ((service.readProfile context provider username).run.run right
          ⟨clock, t⟩).eventsButClosing ∧
      (ClosingTakesAsLong left right related →
        ((service.signIn context request).run.run left ⟨clock, s⟩).eventsButClosing =
          ((service.signIn context request).run.run right ⟨clock, t⟩).eventsButClosing) := by
  have begun : h.telling.alike (.begin ⟨clock, s⟩) (.begin ⟨clock, t⟩) := ⟨⟨rfl, hst⟩, rfl⟩
  have serves := h.serves_telling service.settings context.tenant.id ⟨provider, username, password⟩
  refine ⟨?_, ?_, ?_, fun asLong => ?_⟩
  · exact ((Coupling.checkProvider serves h.closes_telling).run begun trivial).2
  · exact ((Coupling.verify serves h.closes_telling).run begun trivial).2
  · exact ((Coupling.readProfile serves h.closes_telling).run begun trivial).2
  · have signedIn := Coupling.signIn
      (h.serves_telling service.settings context.tenant.id request) (h.closes_telling_alike asLong)
      (fun _ _ hst => hst) (h.reconcile_telling context.tenant request.provider)
    exact (signedIn.run begun trivial).2.2

end DirectorySignIn
