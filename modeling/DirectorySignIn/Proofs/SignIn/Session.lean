import DirectorySignIn.Proofs.Program.Conduct
import DirectorySignIn.Proofs.Program.Success
import DirectorySignIn.SignIn.Session

/-!
# What sessions do

The success and the conduct of the parts of a session: a call within a budget, opening, closing,
and the whole of a session around some work.  All operations on a directory are made of these.

Main results:

- `Session.succeeds_start`: when a session is opened, said of the store and the directory alone.
- `Session.succeeds_within`: the work decides on the success of a session, closing it does not.
- `Session.ensures_start`, `Session.ensures_close`: the calls that opening and closing make.
-/

namespace DirectorySignIn

/-! ## Calls within a budget -/

/-- The answer of a directory that came in time and was no failure. -/
def Budget.granted? {call : DirectoryCall} :
    Option (Except DirectoryError call.Answer) → Option call.Answer
  | some (.ok answer) => some answer
  | _ => none

/-- A call within a budget makes that one call on the directory. -/
theorem Budget.ensures_call {permits : List Step → Call → Prop} {earlier : List Step}
    {call : DirectoryCall} {goal : call.Answer → List Step → Prop}
    {failure : DirectoryError → List Step → Prop} (budget : Budget) (operation : String)
    (allowed : permits (callSteps earlier) (.directory call))
    (granted : ∀ started limit answer history,
      callSteps history =
        callSteps earlier ++ [⟨started, .directory call limit, some (.ok answer)⟩] →
      goal answer history)
    (refused : ∀ started limit reply error history, granted? reply = none →
      callSteps history = callSteps earlier ++ [⟨started, .directory call limit, reply⟩] →
      failure error history) :
    Task.Ensures (.onCalls permits) goal failure (budget.call operation call) earlier := by
  refine ⟨Rule.onCalls_of_silent rfl, fun started time => ?_⟩
  refine ⟨?_, fun asked reply => ?_⟩
  · exact (Rule.onCalls_iff _ rfl).mpr (by simpa using allowed)
  · match reply with
    | some (.ok answer) => exact granted asked (budget.limit time) answer _ (by simp)
    | some (.error error) =>
      exact refused asked (budget.limit time) (some (.error error)) error _ rfl (by simp)
    | none =>
      refine ⟨Rule.onCalls_of_silent rfl, fun ended now => ?_⟩
      exact refused asked (budget.limit time) none _ _ rfl (by simp)

namespace Session

/-! ## Opening -/

section Success

variable {σ α : Type} {environment : Environment σ} {moment later : Moment σ}

/-- To settle an outcome succeeds if the outcome is good. -/
@[simp]
theorem succeeds_settle (reduce : DirectoryError → String → Error) (provider url : String)
    (outcome : Except DirectoryError α) (a : α) :
    Task.Succeeds environment (settle reduce provider url outcome) moment a later ↔
      outcome = .ok a ∧ moment = later := by
  cases outcome with
  | ok b => simp [settle]
  | error e => simp [settle, fail]

/-- A provider is found if the store answers with its configuration. -/
theorem succeeds_findConfig (tenant : TenantId) (provider : String) (config : ProviderConfig) :
    Task.Succeeds environment (findConfig tenant provider) moment config later ↔
      (environment.store (.getConfig tenant provider) moment.state).1 = .ok (some config) ∧
        later =
          ⟨moment.clock, (environment.store (.getConfig tenant provider) moment.state).2⟩ := by
  unfold findConfig
  rw [Task.succeeds_bind]
  constructor
  · rintro ⟨answer, middle, asked, rest⟩
    obtain ⟨found, rfl⟩ := (Task.succeeds_store _ _).mp asked
    cases answer with
    | none => exact absurd rest (Task.not_succeeds_throw _ _)
    | some other =>
        obtain ⟨rfl, rfl⟩ := (Task.succeeds_pure _ _).mp rest
        exact ⟨found, rfl⟩
  · rintro ⟨found, rfl⟩
    exact ⟨some config, _, (Task.succeeds_store _ _).mpr ⟨found, rfl⟩,
      (Task.succeeds_pure _ _).mpr ⟨rfl, rfl⟩⟩

/-- The moment at which a configuration was asked for and the directory was not yet. -/
def afterLookup (environment : Environment σ) (tenant : TenantId) (provider : String)
    (moment : Moment σ) : Moment σ :=
  ⟨moment.clock, (environment.store (.getConfig tenant provider) moment.state).2⟩

/-- A session is opened if the store has a configuration with a target and the directory lets
itself be connected to in time. -/
theorem succeeds_start (settings : Settings) (context : Context) (provider : String)
    (session : Session) :
    Task.Succeeds environment (start settings context provider) moment session later ↔
      (environment.store (.getConfig context.tenant.id provider) moment.state).1 =
          .ok (some session.config) ∧
        Target.ofConfig session.config settings = .ok session.target ∧
        session.budget = ⟨settings.operationTimeout, context.deadline⟩ ∧
        session.budget.Grants environment (.connect session.target)
          (afterLookup environment context.tenant.id provider moment) () later := by
  simp only [start, Task.succeeds_bind, Task.succeeds_pure, succeeds_settle, succeeds_findConfig]
  constructor
  · rintro ⟨config, _, ⟨found, rfl⟩, target, _, ⟨target_eq, rfl⟩, outcome, _, asked, _, _,
      ⟨rfl, rfl⟩, rfl, rfl⟩
    have connected := (Task.succeeds_lift _ _).mp asked
    exact ⟨found, target_eq, rfl, (Budget.succeeds_call _ _ _ _).mp connected⟩
  · rintro ⟨found, target_eq, budget_eq, connected⟩
    obtain ⟨config, target, budget⟩ := session
    subst budget_eq
    refine ⟨config, _, ⟨found, rfl⟩, target, _, ⟨target_eq, rfl⟩, .ok (), later, ?_, (), later,
      ⟨rfl, rfl⟩, rfl, rfl⟩
    exact (Task.succeeds_lift _ _).mpr ((Budget.succeeds_call _ "connect" _ _).mpr connected)

/-- Closing a session has no say in whether the work in it succeeded. -/
theorem succeeds_within (settings : Settings) (context : Context) (provider : String)
    (reduce : DirectoryError → String → Error) (work : Session → Task DirectoryError α) (a : α) :
    Task.Succeeds environment (within settings context provider reduce work) moment a later ↔
      ∃ session opened worked,
        Task.Succeeds environment (start settings context provider) moment session opened ∧
          Task.Succeeds environment (work session) opened a worked ∧
          later = (session.close.run environment worked).after := by
  simp only [within, Task.succeeds_bind, Task.succeeds_lift, succeeds_settle]
  constructor
  · rintro ⟨session, opened, started, outcome, worked, done, _, closed, ⟨-, rfl⟩, rfl, rfl⟩
    exact ⟨session, opened, worked, started, done, rfl⟩
  · rintro ⟨session, opened, worked, started, done, rfl⟩
    exact ⟨session, opened, started, .ok a, worked, done, (), _, ⟨trivial, rfl⟩, rfl, rfl⟩

/-! ## Working -/

/-- An entry is the only one if it is all that was found. -/
theorem unique_eq_ok_iff (entries : List Entry) (entry : Entry) :
    unique entries = .ok entry ↔ entries = [entry] := by
  unfold unique
  split <;> simp_all

/-- The bind of the service account succeeds if the directory takes it in time. -/
theorem succeeds_bindService (session : Session) (u : Unit) :
    Task.Succeeds environment session.bindService moment u later ↔
      session.budget.Grants environment
        (.bind session.config.bindUsername session.config.bindPassword.reveal) moment u later :=
  (Task.succeeds_adapt _ _ _).trans (Budget.succeeds_call _ _ _ _)

/-- The bind of a user succeeds if the directory takes it in time. -/
theorem succeeds_bindUser (session : Session) (entry : Entry) (password : String) (u : Unit) :
    Task.Succeeds environment (session.bindUser entry password) moment u later ↔
      session.budget.Grants environment (.bind entry.dn password) moment u later :=
  (Task.succeeds_adapt _ _ _).trans (Budget.succeeds_call _ _ _ _)

/-- A user is found if the search finds one entry alone. -/
theorem succeeds_findUser (session : Session) (username : String) (attributes : List String)
    (entry : Entry) :
    Task.Succeeds environment (session.findUser username attributes) moment entry later ↔
      session.budget.Grants environment (.search session.config.rootDn session.config.scope
        (Filter.forUser session.config username) attributes) moment [entry] later := by
  unfold findUser
  rw [Task.succeeds_bind]
  simp only [Task.succeeds_ofExcept, unique_eq_ok_iff]
  constructor
  · rintro ⟨entries, middle, searched, rfl, rfl⟩
    exact (Budget.succeeds_call _ _ _ _).mp searched
  · intro searched
    exact ⟨[entry], later, (Budget.succeeds_call _ _ _ _).mpr searched, rfl, rfl⟩

end Success

/-! ## Conduct -/

section Conduct

variable {α : Type} {permits : List Step → Call → Prop} {earlier : List Step}

/-- Reporting a failure makes no call. -/
theorem ensures_settle (reduce : DirectoryError → String → Error) (provider url : String)
    (outcome : Except DirectoryError α) {goal : α → List Step → Prop}
    {failure : Error → List Step → Prop}
    (settled : ∀ a, outcome = .ok a → goal a earlier)
    (failed : ∀ error history, outcome = .error error → callSteps history = callSteps earlier →
      failure (reduce error provider) history) :
    Task.Ensures (.onCalls permits) goal failure (settle reduce provider url outcome) earlier := by
  cases outcome with
  | ok a => exact settled a rfl
  | error error =>
      simp only [settle, fail, Task.ensures_bind, Task.ensures_log, Task.ensures_throw]
      exact ⟨Rule.onCalls_of_silent rfl, fun started => failed error _ rfl (by simp)⟩

/-- Looking up a provider asks the store for its configuration. -/
theorem ensures_findConfig (tenant : TenantId) (provider : String)
    {goal : ProviderConfig → List Step → Prop} {failure : Error → List Step → Prop}
    (allowed : permits (callSteps earlier) (.store (.getConfig tenant provider)))
    (found : ∀ started config history,
      callSteps history = callSteps earlier ++
        [⟨started, .store (.getConfig tenant provider), .ok (some config)⟩] →
      goal config history)
    (failed : ∀ error history, failure error history) :
    Task.Ensures (.onCalls permits) goal failure (findConfig tenant provider) earlier := by
  refine (Task.ensures_bind _ _).mpr ?_
  refine (Task.ensures_store _).mpr ⟨(Rule.onCalls_iff _ rfl).mpr allowed, fun started reply => ?_⟩
  match reply with
  | .error error => exact failed error _
  | .ok none => exact failed _ _
  | .ok (some config) => exact found started config _ (by simp)

/-- Opening a session asks the store for the configuration, and connects to its target if there is
one. -/
theorem ensures_start (settings : Settings) (context : Context) (provider : String)
    {goal : Session → List Step → Prop} {failure : Error → List Step → Prop}
    (lookup : permits (callSteps earlier) (.store (.getConfig context.tenant.id provider)))
    (connect : ∀ found config target, Target.ofConfig config settings = .ok target →
      permits (callSteps earlier ++
          [⟨found, .store (.getConfig context.tenant.id provider), .ok (some config)⟩])
        (.directory (.connect target)))
    (opened : ∀ found config target connected limit history,
      Target.ofConfig config settings = .ok target →
      callSteps history = callSteps earlier ++
        [⟨found, .store (.getConfig context.tenant.id provider), .ok (some config)⟩,
          ⟨connected, .directory (.connect target) limit, some (.ok ())⟩] →
      goal ⟨config, target, ⟨settings.operationTimeout, context.deadline⟩⟩ history)
    (failed : ∀ error history, failure error history) :
    Task.Ensures (.onCalls permits) goal failure (start settings context provider) earlier := by
  refine (Task.ensures_bind _ _).mpr ?_
  refine ensures_findConfig _ _ lookup (fun found config history known => ?_) failed
  refine (Task.ensures_bind _ _).mpr ?_
  refine ensures_settle _ _ _ _ (fun target target_eq => ?_) (fun _ _ _ _ => failed _ _)
  refine (Task.ensures_bind _ _).mpr ((Task.ensures_lift_run _).mpr ?_)
  refine Budget.ensures_call _ _ ?_ (fun connected limit _ after calls => ?_)
    (fun _ _ _ error after _ _ => ?_)
  · rw [known]
    exact connect found config target target_eq
  · refine (Task.ensures_bind _ _).mpr ?_
    refine ensures_settle _ _ _ _ (fun _ _ => ?_) (fun _ _ _ _ => failed _ _)
    exact opened found config target connected limit after target_eq (by simp [calls, known])
  · refine (Task.ensures_bind _ _).mpr ?_
    refine ensures_settle _ _ _ _ (fun _ impossible => ?_) (fun _ _ _ _ => failed _ _)
    cases impossible

/-- Closing a session makes the one call that closes it. -/
theorem ensures_close (session : Session) {goal : Unit → List Step → Prop}
    (allowed : permits (callSteps earlier) (.directory .unbind))
    (closed : ∀ started limit reply history,
      callSteps history =
        callSteps earlier ++ [⟨started, .directory .unbind limit, reply⟩] →
      goal () history) :
    session.close.Ensures (.onCalls permits) goal earlier := by
  unfold close
  rw [Program.ensures_bind]
  have called : Task.Ensures (.onCalls permits)
      (fun _ history => ∃ started limit reply, callSteps history =
        callSteps earlier ++ [⟨started, .directory .unbind limit, reply⟩])
      (fun _ history => ∃ started limit reply, callSteps history =
        callSteps earlier ++ [⟨started, .directory .unbind limit, reply⟩])
      (session.budget.call "unbind" .unbind) earlier :=
    Budget.ensures_call _ _ allowed
      (fun started limit _ _ calls => ⟨started, limit, _, calls⟩)
      (fun started limit reply _ _ _ calls => ⟨started, limit, reply, calls⟩)
  refine Program.Ensures.mono called fun outcome history met => ?_
  cases outcome with
  | ok u =>
      obtain ⟨started, limit, reply, calls⟩ := met
      exact closed started limit reply history calls
  | error error =>
      obtain ⟨started, limit, reply, calls⟩ := met
      refine ⟨Rule.onCalls_of_silent rfl, fun logged u => ?_⟩
      exact closed started limit reply _ (by simp [calls])

/-- The bind of the service account makes that one call on the directory. -/
theorem ensures_bindService (session : Session) {goal : Unit → List Step → Prop}
    {failure : DirectoryError → List Step → Prop}
    (allowed : permits (callSteps earlier)
      (.directory (.bind session.config.bindUsername session.config.bindPassword.reveal)))
    (granted : ∀ started limit history,
      callSteps history = callSteps earlier ++ [⟨started, .directory
        (.bind session.config.bindUsername session.config.bindPassword.reveal) limit,
        some (.ok ())⟩] →
      goal () history)
    (failed : ∀ error history, failure error history) :
    Task.Ensures (.onCalls permits) goal failure session.bindService earlier :=
  (Task.ensures_adapt _ _).mpr <| Budget.ensures_call _ _ allowed
    (fun started limit _ history calls => granted started limit history calls)
    (fun _ _ _ _ _ _ _ => failed _ _)

/-- The bind of a user makes that one call on the directory. -/
theorem ensures_bindUser (session : Session) (entry : Entry) (password : String)
    {goal : Unit → List Step → Prop} {failure : DirectoryError → List Step → Prop}
    (allowed : permits (callSteps earlier) (.directory (.bind entry.dn password)))
    (granted : ∀ started limit history,
      callSteps history = callSteps earlier ++
        [⟨started, .directory (.bind entry.dn password) limit, some (.ok ())⟩] →
      goal () history)
    (failed : ∀ error history, failure error history) :
    Task.Ensures (.onCalls permits) goal failure (session.bindUser entry password) earlier :=
  (Task.ensures_adapt _ _).mpr <| Budget.ensures_call _ _ allowed
    (fun started limit _ history calls => granted started limit history calls)
    (fun _ _ _ _ _ _ _ => failed _ _)

/-- A look-up goes on only if the search found one entry alone. -/
theorem ensures_findUser (session : Session) (username : String) (attributes : List String)
    {goal : Entry → List Step → Prop} {failure : DirectoryError → List Step → Prop}
    (allowed : permits (callSteps earlier) (.directory (.search session.config.rootDn
      session.config.scope (Filter.forUser session.config username) attributes)))
    (found : ∀ started limit entry history,
      callSteps history = callSteps earlier ++ [⟨started, .directory (.search
        session.config.rootDn session.config.scope (Filter.forUser session.config username)
        attributes) limit, some (.ok [entry])⟩] →
      goal entry history)
    (failed : ∀ error history, failure error history) :
    Task.Ensures (.onCalls permits) goal failure (session.findUser username attributes)
      earlier := by
  refine (Task.ensures_bind _ _).mpr ?_
  refine Budget.ensures_call _ _ allowed (fun started limit entries history calls => ?_)
    (fun _ _ _ _ _ _ _ => failed _ _)
  rw [Task.ensures_ofExcept]
  cases only : unique entries with
  | error error => exact failed error history
  | ok entry =>
      obtain rfl := (unique_eq_ok_iff entries entry).mp only
      exact found started limit entry history calls

/-- A session obeys a rule that lets it be closed at any time, if opening it and the work in it
do. -/
theorem obeys_within (settings : Settings) (context : Context) (provider : String)
    (reduce : DirectoryError → String → Error) (work : Session → Task DirectoryError α)
    (closing : ∀ calls, permits calls (.directory .unbind))
    (opening : Task.Ensures (.onCalls permits)
      (fun session => Task.Obeys (.onCalls permits) (work session)) (fun _ _ => True)
      (start settings context provider) earlier) :
    Task.Obeys (.onCalls permits) (within settings context provider reduce work) earlier := by
  refine (Task.ensures_bind _ _).mpr (opening.mono (fun session history working => ?_)
    (fun _ _ _ => trivial))
  refine (Task.ensures_bind _ _).mpr ((Task.ensures_lift_run _).mpr ?_)
  have settled : ∀ (outcome : Except DirectoryError α) history,
      Task.Obeys (.onCalls permits) (do
        ExceptT.lift session.close
        settle reduce provider session.target.url.text outcome) history := by
    intro outcome history
    refine (Task.ensures_bind _ _).mpr ((Task.ensures_lift _).mpr ?_)
    exact ensures_close session (closing _) fun _ _ _ _ _ =>
      ensures_settle _ _ _ _ (fun _ _ => trivial) (fun _ _ _ _ => trivial)
  exact working.mono (fun _ _ _ => settled _ _) (fun _ _ _ => settled _ _)

end Conduct

end Session

end DirectorySignIn
