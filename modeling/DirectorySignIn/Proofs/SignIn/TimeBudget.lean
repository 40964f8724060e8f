import DirectorySignIn.Proofs.Program.Timing
import DirectorySignIn.Proofs.SignIn.AllOrNothing

/-!
# The time budget of a request

How long the operations of the service take, and what becomes of a call that was cut off.  Every
operation is made of sessions; a session makes one call to connect, one to close, and those of the
work in between.  Since each call has no more time than is left before the deadline, an operation
ends by the deadline unless it was begun after it, and then it takes no time at all.

Main results:

- `Session.keepsTime_within`: a session takes the time of the work in it and of two calls more, and
  reports the call that was cut off.
- `Service.operations_keep_time`: the time of a check, a verification, a look-up of a profile and a
  sign-in.
-/

namespace DirectorySignIn

open Program (Consequence Timely)

variable {σ ε α β : Type} {environment : Environment σ}

/-! ## Cut-off calls -/

namespace Budget

variable {budget : Budget} {count : Nat} {provider url operation : String} {started : Nat}
  {call : DirectoryCall} {events : List LogEvent}

/-- A call that is cut off makes the work that it belongs to fail, with the error that tells whether
it was the deadline. -/
def Stops (budget : Budget) : Consequence (Except DirectoryError α) :=
  fun started _ _ result => ∃ operation, result = .error (budget.cutOff operation started)

/-- What the operator and the caller are told of a call that was cut off. -/
inductive Reported (budget : Budget) (provider : String) (started : Nat) :
    DirectoryCall → List LogEvent → Except Error α → Prop
  /-- If it was to close a session, the operator is told at once, and that is all. -/
  | closing {operation url : String} {events : List LogEvent} {result : Except Error α} :
      Reported budget provider started .unbind
        (.unbindFailed url (budget.cutOff operation started) :: events) result
  /-- Otherwise the operator is told in the end, and the caller that the directory could not be
  reached. -/
  | working {call : DirectoryCall} {operation url : String} {events : List LogEvent} :
      Reported budget provider started call
        (events ++ [.failure provider url (budget.cutOff operation started)])
        (.error (.connectionFailed provider))

/-- A call that was cut off though all went well was to close a session, and that stays reported
whatever follows. -/
theorem Reported.of_ok {a : α} (h : budget.Reported provider started call events (.ok a))
    (new : List LogEvent) (result : Except Error β) :
    budget.Reported provider started call (events ++ new) result := by
  cases h with
  | closing => exact .closing

/-- What was reported of an error does not depend on the result that was hoped for. -/
theorem Reported.of_error {e : Error}
    (h : budget.Reported provider started call events (.error e : Except Error α)) :
    budget.Reported provider started call events (.error e : Except Error β) := by
  cases h with
  | closing => exact .closing
  | working => exact .working

/-- Hiding which provider is unknown does not hide that one could not be reached. -/
theorem Reported.hidingProvider {result : Except Error α}
    (h : budget.Reported provider started call events result) :
    budget.Reported provider started call events (result.mapError Error.hidingProvider) := by
  cases h with
  | closing => exact .closing
  | working => exact .working

/-- A cut-off call is no rejected bind. -/
theorem atServiceBind_cutOff (budget : Budget) (operation : String) (started : Nat) :
    (budget.cutOff operation started).atServiceBind = budget.cutOff operation started := by
  unfold cutOff
  split
  · rfl
  · rfl

/-- A bind of a user that was cut off is not relabelled. -/
theorem atUserBind_cutOff (budget : Budget) (operation : String) (started : Nat) :
    (budget.cutOff operation started).atUserBind = budget.cutOff operation started := by
  unfold cutOff
  split
  · rfl
  · rfl

/-- To be cut off is a failure of the connection. -/
theorem isConnectionFailure_cutOff (budget : Budget) (operation : String) (started : Nat) :
    (budget.cutOff operation started).isConnectionFailure = true := by
  unfold cutOff
  split
  · rfl
  · rfl

/-- In public a call that was cut off is a failed connection. -/
theorem toPublic_cutOff (budget : Budget) (operation : String) (started : Nat)
    (provider : String) :
    (budget.cutOff operation started).toPublic provider = .connectionFailed provider := by
  rw [DirectoryError.toPublic, isConnectionFailure_cutOff, if_pos rfl]

/-- For a check a call that was cut off is a failed connection. -/
theorem toCheckFailure_cutOff (budget : Budget) (operation : String) (started : Nat)
    (provider : String) :
    (budget.cutOff operation started).toCheckFailure provider = .connectionFailed provider := by
  unfold cutOff
  split
  · rfl
  · rfl

end Budget

/-! ## Tasks -/

namespace Task

/-- Begun at any moment, a task takes no longer than so many calls may, and every call that was cut
off is reported. -/
abbrev KeepsTime (environment : Environment σ) (budget : Budget) (count : Nat) (provider : String)
    (task : Task Error α) : Prop :=
  task.run.Timely environment budget count (budget.Reported provider)

/-- Begun at any moment, some work takes no longer than so many calls may, and fails if one of them
is cut off. -/
abbrev WorksInTime (environment : Environment σ) (budget : Budget) (count : Nat)
    (work : Task DirectoryError α) : Prop :=
  work.run.Timely environment budget count budget.Stops

variable {budget : Budget} {count more : Nat} {provider : String}

/-- Tasks in a row keep the time of both. -/
theorem KeepsTime.bind {task : Task Error α} {f : α → Task Error β}
    (first : KeepsTime environment budget count provider task)
    (second : ∀ a moment after, Succeeds environment task moment a after →
      KeepsTime environment budget more provider (f a)) :
    KeepsTime environment budget (count + more) provider (task >>= f) :=
  timely_bind first second (fun _ _ _ _ new result came => came.of_ok new result)
    (fun _ _ _ _ came => came.of_error)

/-- What takes no time may come first. -/
theorem KeepsTime.after {task : Task Error α} {f : α → Task Error β}
    (first : KeepsTime environment budget 0 provider task)
    (second : ∀ a moment later, Succeeds environment task moment a later →
      KeepsTime environment budget count provider (f a)) :
    KeepsTime environment budget count provider (task >>= f) := by
  have both := first.bind second
  rwa [Nat.zero_add] at both

/-- Work in a row is in the time of both. -/
theorem WorksInTime.bind {work : Task DirectoryError α} {f : α → Task DirectoryError β}
    (first : WorksInTime environment budget count work)
    (second : ∀ a, WorksInTime environment budget more (f a)) :
    WorksInTime environment budget (count + more) (work >>= f) := by
  refine timely_bind first (fun a _ _ _ => second a) ?_ ?_
  · rintro started call events a new result ⟨operation, impossible⟩
    cases impossible
  · rintro started call events e ⟨operation, h⟩
    exact ⟨operation, congrArg _ (Except.error.inj h)⟩

/-- Work that is cut off may be relabelled by anything that leaves the reason alone. -/
theorem WorksInTime.adapt {work : Task DirectoryError α}
    (h : WorksInTime environment budget count work) {change : DirectoryError → DirectoryError}
    (kept : ∀ operation started,
      change (budget.cutOff operation started) = budget.cutOff operation started) :
    WorksInTime environment budget count (ExceptT.adapt change work) := by
  refine timely_adapt h ?_
  rintro started call events result ⟨operation, rfl⟩
  exact ⟨operation, congrArg Except.error (kept operation started)⟩

/-- A call within a budget takes the time of one call. -/
theorem worksInTime_call (budget : Budget) (operation : String) (call : DirectoryCall) :
    WorksInTime environment budget 1 (budget.call operation call) :=
  (budget.timely_call operation call).weaken fun _ _ _ _ came => ⟨operation, came.2.2⟩

end Task

/-! ## Sessions -/

namespace Session

variable {budget : Budget} {count : Nat} {provider : String}
  {reduce : DirectoryError → String → Error}

/-- Reporting takes no time. -/
theorem keepsTime_settle (url : String) (outcome : Except DirectoryError α) :
    Task.KeepsTime environment budget 0 provider (settle reduce provider url outcome) := by
  cases outcome with
  | ok a => exact Program.timely_pure _
  | error error =>
    exact Task.KeepsTime.after (Task.timely_log _) fun _ _ _ _ => Program.timely_pure _

/-- To look a configuration up takes no time. -/
theorem keepsTime_findConfig (tenant : TenantId) (key : String) :
    Task.KeepsTime environment budget 0 provider (findConfig tenant key) := by
  refine Task.KeepsTime.after (Task.timely_store _) fun found _ _ _ => ?_
  cases found with
  | none => exact Program.timely_pure _
  | some config => exact Program.timely_pure _

/-- When some work was stopped, its failure is the last thing to be reported. -/
theorem reported_settle (moment : Moment σ) (url : String) {started : Nat} {call : DirectoryCall}
    {events : List LogEvent} {outcome : Except DirectoryError α}
    (reduced : ∀ operation, reduce (budget.cutOff operation started) provider =
      .connectionFailed provider)
    (stopped : budget.Stops started call events outcome) :
    budget.Reported provider started call
      (events ++ ((settle reduce provider url outcome).run.run environment moment).events)
      ((settle reduce provider url outcome).run.run environment moment).result := by
  obtain ⟨operation, rfl⟩ := stopped
  have told : ((settle reduce provider url (.error (budget.cutOff operation started)) :
      Task Error α).run.run environment moment) =
      ⟨.error (.connectionFailed provider),
        [⟨moment.clock, .log (.failure provider url (budget.cutOff operation started)), ()⟩],
        moment⟩ := by
    rw [← reduced operation]
    rfl
  rw [told]
  exact .working

/-- Some work takes no longer if its outcome is reported. -/
theorem keepsTime_report (url : String) {work : Task DirectoryError α}
    (working : Task.WorksInTime environment budget count work)
    (reduced : ∀ operation started,
      reduce (budget.cutOff operation started) provider = .connectionFailed provider) :
    Task.KeepsTime environment budget count provider (do
      let outcome ← ExceptT.lift work.run
      settle reduce provider url outcome) := by
  rw [Task.KeepsTime, Task.run_lift_bind]
  change Program.Timely environment budget (count + 0) _ _
  refine Program.Timely.bind working (fun _ => keepsTime_settle _ _) ?_
  intro moment started call events outcome stopped
  exact reported_settle _ _ (fun operation => reduced operation started) stopped

/-- Closing a session takes the time of one call. -/
theorem timely_close (session : Session) :
    session.close.Timely environment session.budget 1 fun started call events _ =>
      call = .unbind ∧ ∃ operation url rest,
        events = .unbindFailed url (session.budget.cutOff operation started) :: rest := by
  unfold close
  change Program.Timely environment session.budget (1 + 0) _ (_ >>= _)
  refine (session.budget.timely_call "unbind" .unbind).bind (fun moment => ?_) ?_
  · cases ((session.budget.call "unbind" .unbind).run.run environment moment).result with
    | ok u => exact Program.timely_pure u
    | error error => exact Program.timely_log _
  · rintro moment started call events outcome ⟨rfl, rfl, rfl⟩
    exact ⟨rfl, _, _, _, rfl⟩

/-- When some work has been done in an open session, it is closed, and then what went wrong is
reported. -/
theorem keepsTime_finish (session : Session) {work : Task DirectoryError α}
    (working : Task.WorksInTime environment session.budget count work)
    (reduced : ∀ operation started,
      reduce (session.budget.cutOff operation started) provider = .connectionFailed provider) :
    Task.KeepsTime environment session.budget (count + (1 + 0)) provider (do
      let outcome ← ExceptT.lift work.run
      ExceptT.lift session.close
      settle reduce provider session.target.url.text outcome) := by
  rw [Task.KeepsTime, Task.run_lift_bind]
  refine Program.Timely.bind working (fun moment => ?_)
    fun moment started call events outcome stopped => ?_
  · rw [Task.run_lift_bind]
    refine session.timely_close.bind (fun _ => keepsTime_settle _ _) ?_
    rintro later started call events u ⟨rfl, operation, url, rest, rfl⟩
    exact .closing
  · rw [Task.run_lift_bind, Program.events_run_bind, ← List.append_assoc, Program.run_bind]
    exact reported_settle _ _ (fun operation => reduced operation started) stopped

/-- Opening a session takes the time of one call. -/
theorem keepsTime_start (settings : Settings) (context : Context) :
    Task.KeepsTime environment ⟨settings.operationTimeout, context.deadline⟩ 1 provider
      (start settings context provider) := by
  refine Task.KeepsTime.after (keepsTime_findConfig _ _) fun config _ _ _ => ?_
  refine Task.KeepsTime.after (keepsTime_settle _ _) fun target _ _ _ => ?_
  rw [← bind_assoc]
  have connecting : Task.KeepsTime environment ⟨settings.operationTimeout, context.deadline⟩ 1
      provider (do
        let connected ← ExceptT.lift (Budget.call ⟨settings.operationTimeout, context.deadline⟩
          "connect" (.connect target)).run
        settle DirectoryError.toPublic provider target.url.text connected) :=
    keepsTime_report _ (Task.worksInTime_call _ _ _) fun _ _ => Budget.toPublic_cutOff _ _ _ _
  exact connecting.bind fun _ _ _ _ => Program.timely_pure _

/-- A session takes the time of the work in it and of two calls more. -/
theorem keepsTime_within (settings : Settings) (context : Context)
    {work : Session → Task DirectoryError α}
    (working : ∀ session, Task.WorksInTime environment session.budget count (work session))
    (reduced : ∀ budget : Budget, ∀ operation started,
      reduce (budget.cutOff operation started) provider = .connectionFailed provider) :
    Task.KeepsTime environment ⟨settings.operationTimeout, context.deadline⟩ (count + 2) provider
      (within settings context provider reduce work) := by
  have opening : Task.KeepsTime environment ⟨settings.operationTimeout, context.deadline⟩ 1 provider
      (start settings context provider) := keepsTime_start settings context
  have whole : Task.KeepsTime environment ⟨settings.operationTimeout, context.deadline⟩
      (1 + (count + (1 + 0))) provider (within settings context provider reduce work) := by
    refine opening.bind fun session moment later started => ?_
    obtain ⟨-, -, budget_eq, -⟩ := (succeeds_start settings context provider session).mp started
    rw [← budget_eq]
    exact keepsTime_finish session (working session) (reduced _)
  exact whole.mono (by omega)

/-! ## Working -/

/-- The bind of the service account takes the time of one call. -/
theorem worksInTime_bindService (session : Session) :
    Task.WorksInTime environment session.budget 1 session.bindService :=
  (Task.worksInTime_call _ _ _).adapt fun _ _ => Budget.atServiceBind_cutOff _ _ _

/-- The bind of a user takes the time of one call. -/
theorem worksInTime_bindUser (session : Session) (entry : Entry) (password : String) :
    Task.WorksInTime environment session.budget 1 (session.bindUser entry password) :=
  (Task.worksInTime_call _ _ _).adapt fun _ _ => Budget.atUserBind_cutOff _ _ _

/-- The search for a user takes the time of one call. -/
theorem worksInTime_findUser (session : Session) (username : String) (attributes : List String) :
    Task.WorksInTime environment session.budget 1 (session.findUser username attributes) :=
  (Task.worksInTime_call _ _ _).bind fun _ => Task.timely_ofExcept _

end Session

/-! ## The operations of the service -/

namespace Service

variable (service : Service) (context : Context) (provider username password : String)

/-- The budget of the calls of a request. -/
def budget : Budget :=
  ⟨service.settings.operationTimeout, context.deadline⟩

/-- The work of a verification takes the time of three calls: two binds and a search. -/
theorem worksInTime_verifyWithin (session : Session) :
    Task.WorksInTime environment session.budget 3 (verifyWithin username password session) := by
  unfold verifyWithin
  by_cases missing : password = ""
  · rw [if_pos missing]
    have stopped : Task.WorksInTime environment session.budget 0
        (throw (.userBind "empty password") : Task DirectoryError Unit) := Program.timely_pure _
    exact stopped.mono (Nat.zero_le _)
  · rw [if_neg missing]
    exact session.worksInTime_bindService.bind fun _ =>
      (session.worksInTime_findUser _ _).bind fun entry => session.worksInTime_bindUser _ _

/-- The work of reading a profile takes the time of two calls: a bind and a search. -/
theorem worksInTime_readProfileWithin (session : Session) :
    Task.WorksInTime environment session.budget 2 (readProfileWithin username session) :=
  session.worksInTime_bindService.bind fun _ =>
    (session.worksInTime_findUser _ _).bind fun _ => Task.timely_ofExcept _

/-- The check of a provider takes the time of three calls. -/
theorem keepsTime_checkProvider :
    Task.KeepsTime environment (service.budget context) 3 provider
      (service.checkProvider context provider) := by
  have session : Task.KeepsTime environment (service.budget context) 3 provider
      (Session.within service.settings context provider DirectoryError.toCheckFailure
        Session.bindService) :=
    Session.keepsTime_within _ _ Session.worksInTime_bindService
      fun _ _ _ => Budget.toCheckFailure_cutOff _ _ _ _
  exact session.bind fun _ _ _ _ => Task.timely_log _

/-- A verification takes the time of five calls: three of work, the opening and the closing. -/
theorem keepsTime_verify :
    Task.KeepsTime environment (service.budget context) 5 provider
      (service.verify context provider username password) := by
  unfold verify
  by_cases missing : (Text.isBlankText username || password == "") = true
  · rw [if_pos missing]
    have refused : Task.KeepsTime environment (service.budget context) 0 provider (do
        Task.log .credentialsMissing
        throw .invalidCredentials : Task Error Unit) :=
      Task.KeepsTime.after (Task.timely_log _) fun _ _ _ _ => Program.timely_pure _
    exact refused.mono (Nat.zero_le _)
  · rw [if_neg missing]
    exact Session.keepsTime_within _ _ (worksInTime_verifyWithin username password)
      fun _ _ _ => Budget.toPublic_cutOff _ _ _ _

/-- To read a profile takes the time of four calls: two of work, the opening and the closing. -/
theorem keepsTime_readProfile :
    Task.KeepsTime environment (service.budget context) 4 provider
      (service.readProfile context provider username) :=
  Session.keepsTime_within _ _ (worksInTime_readProfileWithin username)
    fun _ _ _ => Budget.toPublic_cutOff _ _ _ _

/-- A reconciliation asks nothing of a directory. -/
theorem keepsTime_reconcile (budget : Budget) (tenant : Tenant) (profile : Profile) :
    Task.KeepsTime environment budget 0 provider
      (Reconciliation.reconcile tenant provider profile) := by
  refine Program.timely_of_away fun moment call made => ?_
  have onAccounts := (Reconciliation.obeys_reconcile tenant provider profile []).calls environment
    moment _ made
  exact Bool.noConfusion onAccounts

/-- A sign-in takes the time of nine calls: those of a verification and of reading a profile. -/
theorem keepsTime_signIn (request : SignInRequest) :
    Task.KeepsTime environment (service.budget context) 9 request.provider
      (service.signIn context request) := by
  refine Task.KeepsTime.after (Task.timely_ofExcept _) fun _ _ _ _ => ?_
  have verified : Task.KeepsTime environment (service.budget context) 5 request.provider
      ((service.verify context request.provider request.username request.password).adapt
        Error.hidingProvider) :=
    Task.timely_adapt (service.keepsTime_verify _ _ _ _) fun _ _ _ _ came => came.hidingProvider
  have read : Task.KeepsTime environment (service.budget context) 4 request.provider
      ((service.readProfile context request.provider request.username).adapt
        Error.hidingProvider) :=
    Task.timely_adapt (service.keepsTime_readProfile _ _ _) fun _ _ _ _ came => came.hidingProvider
  have reconciled : ∀ profile, Task.KeepsTime environment (service.budget context) 0
      request.provider (do
        let reconciliation ← Reconciliation.reconcile context.tenant request.provider profile
        return (⟨profile, reconciliation⟩ : SignedIn)) := fun profile =>
    Task.KeepsTime.after (keepsTime_reconcile _ _ _ _) fun _ _ _ _ => Program.timely_pure _
  change Task.KeepsTime environment (service.budget context) (5 + (4 + 0)) request.provider _
  exact verified.bind fun _ _ _ _ => read.bind fun profile _ _ _ => reconciled profile

/-- However long a directory takes to answer and whatever it answers, a check takes no longer than
three calls may, a verification five, a look-up of a profile four and a sign-in nine, and none of
them goes on beyond the deadline unless it was begun after it.  Every call that was cut off is
reported, and it was the deadline if no more time was left before it than one call may take; and
unless the call was to close a session, the directory is said to be unreachable. -/
theorem operations_keep_time (environment : Environment σ) :
    (∀ provider, Task.KeepsTime environment (service.budget context) 3 provider
      (service.checkProvider context provider)) ∧
    (∀ provider username password, Task.KeepsTime environment (service.budget context) 5 provider
      (service.verify context provider username password)) ∧
    (∀ provider username, Task.KeepsTime environment (service.budget context) 4 provider
      (service.readProfile context provider username)) ∧
    ∀ request : SignInRequest, Task.KeepsTime environment (service.budget context) 9
      request.provider (service.signIn context request) :=
  ⟨service.keepsTime_checkProvider context, service.keepsTime_verify context,
    service.keepsTime_readProfile context, service.keepsTime_signIn context⟩

end Service

end DirectorySignIn
