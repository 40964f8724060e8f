import DirectorySignIn.Program.Script
import DirectorySignIn.Proofs.SignIn.Reconciliation
import DirectorySignIn.Proofs.SignIn.Session
import DirectorySignIn.SignIn.Service

/-!
# Sessions are closed

A session is open from the connect that yields it to the unbind.  Operations open one session at a
time, ask nothing of a directory but in an open session, and leave none open, whatever a directory
or a store replies and whenever the time is up.  What is kept all the way is how many sessions are
open; this is counted over the steps, so that it can be told after every action.

Main results:

- `Session.keeps_within`: work that keeps its session open is done with no session left open.
- `Service.keeps_checkProvider`, `Service.keeps_verify`, `Service.keeps_readProfile`,
  `Service.keeps_signIn`: no operation leaves a session open.
- `Task.Keeps.bracketed`: so in every run each session is closed by the last call made in it, and
  before another one is opened.
-/

namespace DirectorySignIn

variable {σ ε ε' α β : Type}

/-! ## Open sessions -/

namespace Step

/-- Whether a step yielded a session. -/
def opens : Step → Bool
  | ⟨_, .directory (.connect _) _, some (.ok ())⟩ => true
  | _ => false

/-- Whether a step closed a session, as far as the service can do it. -/
def closes : Step → Bool
  | ⟨_, .directory .unbind _, _⟩ => true
  | _ => false

/-- Whether a step connected to a directory, in vain or not. -/
def connects : Step → Bool
  | ⟨_, .directory (.connect _) _, _⟩ => true
  | _ => false

/-- Whether a step asked something in a session. -/
def asks : Step → Bool
  | ⟨_, .directory (.connect _) _, _⟩ => false
  | ⟨_, .directory _ _, _⟩ => true
  | _ => false

end Step

/-- After some steps, so many sessions are open. -/
def OpenSessions (count : Nat) (steps : List Step) : Prop :=
  steps.countP Step.opens = steps.countP Step.closes + count

namespace OpenSessions

variable {count : Nat} {steps : List Step} {step : Step}

/-- A step that neither opens nor closes a session leaves as many open. -/
theorem append (h : OpenSessions count steps) (opens : step.opens = false)
    (closes : step.closes = false) : OpenSessions count (steps ++ [step]) := by
  simp only [OpenSessions, List.countP_append, List.countP_singleton, opens, closes] at h ⊢
  simpa using h

/-- A step that opens a session leaves one more open. -/
theorem append_opens (h : OpenSessions count steps) (opens : step.opens = true)
    (closes : step.closes = false) : OpenSessions (count + 1) (steps ++ [step]) := by
  simp only [OpenSessions, List.countP_append, List.countP_singleton, opens, closes] at h ⊢
  simp only [if_true, Bool.false_eq_true, if_false]
  omega

/-- A step that closes a session leaves one less open. -/
theorem append_closes (h : OpenSessions (count + 1) steps) (opens : step.opens = false)
    (closes : step.closes = true) : OpenSessions count (steps ++ [step]) := by
  simp only [OpenSessions, List.countP_append, List.countP_singleton, opens, closes] at h ⊢
  simp only [if_true, Bool.false_eq_true, if_false]
  omega

end OpenSessions

/-- What counts only calls counts the same among calls alone. -/
theorem countP_callSteps (p : Step → Bool) (h : ∀ step, p step = true → step.call?.isSome = true)
    (steps : List Step) : (callSteps steps).countP p = steps.countP p := by
  rw [callSteps, List.countP_filter]
  refine List.countP_congr fun step _ => ?_
  simp only [Bool.and_eq_true]
  exact ⟨And.left, fun hp => ⟨hp, h step hp⟩⟩

/-- Sessions are opened and closed by calls alone. -/
@[simp]
theorem openSessions_callSteps (count : Nat) (steps : List Step) :
    OpenSessions count (callSteps steps) ↔ OpenSessions count steps := by
  have opens : ∀ step : Step, step.opens = true → step.call?.isSome = true := by
    intro step h
    unfold Step.opens at h
    split at h
    · rfl
    · contradiction
  have closes : ∀ step : Step, step.closes = true → step.call?.isSome = true := by
    intro step h
    unfold Step.closes at h
    split at h
    · rfl
    · contradiction
  rw [OpenSessions, OpenSessions, countP_callSteps _ opens, countP_callSteps _ closes]

/-- A session is opened only if none is open, and everything else is asked in the one that is
open. -/
def bracketing (steps : List Step) : Call → Prop
  | .directory (.connect _) => OpenSessions 0 steps
  | .directory _ => OpenSessions 1 steps
  | .store _ => True

/-- The rule that sessions do not overlap and that nothing is asked outside of them. -/
abbrev Rule.bracketing : Rule :=
  .onCalls DirectorySignIn.bracketing

/-! ## Keeping sessions open -/

namespace Task

/-- Begun with so many sessions open, a task obeys the rule and ends with as many, whatever comes of
it. -/
def Keeps (count : Nat) (task : Task ε α) : Prop :=
  ∀ earlier, OpenSessions count earlier →
    Ensures .bracketing (fun _ => OpenSessions count) (fun _ => OpenSessions count) task earlier

variable {count : Nat} {task : Task ε α} {f : α → Task ε β}

theorem keeps_pure (a : α) : Keeps count (pure a : Task ε α) :=
  fun _ h => h

theorem keeps_throw (e : ε) : Keeps count (throw e : Task ε α) :=
  fun _ h => h

/-- An outcome that is there at once opens and closes no session. -/
theorem keeps_ofExcept (outcome : Except ε α) : Keeps count (ofExcept outcome) := by
  cases outcome with
  | ok a => exact fun _ h => h
  | error e => exact fun _ h => h

/-- To log an event opens and closes no session. -/
theorem keeps_log (event : LogEvent) : Keeps count (log event : Task ε Unit) :=
  fun _ h => (ensures_log _).mpr ⟨Rule.onCalls_of_silent rfl, fun _ => h.append rfl rfl⟩

/-- A call on a store opens and closes no session. -/
theorem keeps_store (call : StoreCall) : Keeps count (store call) := by
  intro earlier h
  refine ensures_iff_run.mpr ⟨?_, fun started reply => h.append rfl rfl⟩
  exact (Rule.onCalls_iff (.store call) rfl).mpr trivial

/-- Tasks in a row leave as many sessions open if all their parts do. -/
theorem Keeps.bind (first : Keeps count task) (rest : ∀ a, Keeps count (f a)) :
    Keeps count (task >>= f) :=
  fun earlier h => (ensures_bind _ _).mpr <|
    (first earlier h).mono (fun a history => rest a history) fun _ _ h => h

/-- A change of errors opens and closes no session. -/
theorem Keeps.adapt (h : Keeps count task) (change : ε → ε') :
    Keeps count (ExceptT.adapt change task) :=
  fun earlier hopen => (ensures_adapt _ _).mpr (h earlier hopen)

/-- A task that asks nothing of directories leaves their sessions as they are. -/
theorem Obeys.keeps (h : ∀ earlier, Obeys .onAccounts task earlier) : Keeps count task := by
  have quiet : ∀ (steps : List Step) (action : Action), Rule.onAccounts steps action →
      ∀ call limit, action ≠ .directory call limit := by
    rintro steps action onAccounts call limit rfl
    exact Bool.noConfusion ((Rule.onCalls_iff _ rfl).mp onAccounts)
  intro earlier hopen
  refine ensures_iff_run.mpr ((ensures_iff_run.mp (h earlier)).invariant hopen ?_ ?_)
  · intro steps action _ obeyed
    cases action with
    | store call => exact (Rule.onCalls_iff (.store call) rfl).mpr trivial
    | directory call limit => exact absurd rfl (quiet _ _ obeyed call limit)
    | readClock => exact Rule.onCalls_of_silent rfl
    | drawUserId => exact Rule.onCalls_of_silent rfl
    | log event => exact Rule.onCalls_of_silent rfl
  · rintro steps ⟨started, action, reply⟩ hopen obeyed
    cases action with
    | directory call limit => exact absurd rfl (quiet _ _ obeyed call limit)
    | _ => exact hopen.append rfl rfl

end Task

/-- Whether a call neither opens nor closes a session. -/
def DirectoryCall.isWork : DirectoryCall → Bool
  | bind _ _ | search _ _ _ _ => true
  | connect _ | unbind => false

/-- A call that neither opens nor closes a session may be made in an open one. -/
theorem Budget.keeps_call (budget : Budget) (operation : String) {call : DirectoryCall}
    (work : call.isWork = true) : Task.Keeps 1 (budget.call operation call) := by
  have asked : ∀ started limit reply,
      (⟨started, .directory call limit, reply⟩ : Step).opens = false ∧
        (⟨started, .directory call limit, reply⟩ : Step).closes = false := by
    intro started limit reply
    cases call with
    | connect target => contradiction
    | unbind => contradiction
    | _ => exact ⟨rfl, rfl⟩
  have kept : ∀ {earlier history : List Step} {started limit reply}, OpenSessions 1 earlier →
      callSteps history = callSteps earlier ++ [⟨started, .directory call limit, reply⟩] →
      OpenSessions 1 history := by
    intro earlier history started limit reply hopen calls
    rw [← openSessions_callSteps, calls]
    obtain ⟨opens, closes⟩ := asked started limit reply
    exact ((openSessions_callSteps _ _).mpr hopen).append opens closes
  intro earlier hopen
  refine ensures_call budget operation ?_ (fun _ _ _ _ => kept hopen) fun _ _ _ _ _ _ => kept hopen
  cases call with
  | connect target => contradiction
  | _ => exact (openSessions_callSteps _ _).mpr hopen

namespace Session

variable {session : Session}

/-! ## Opening and closing -/

/-- To settle an outcome opens and closes no session. -/
theorem keeps_settle (count : Nat) (reduce : DirectoryError → String → Error)
    (provider url : String) (outcome : Except DirectoryError α) :
    Task.Keeps count (settle reduce provider url outcome) := by
  cases outcome with
  | ok a => exact Task.keeps_pure a
  | error e => exact (Task.keeps_log _).bind fun _ => Task.keeps_throw _

/-- To look a configuration up opens and closes no session. -/
theorem keeps_findConfig (tenant : TenantId) (provider : String) :
    Task.Keeps 0 (findConfig tenant provider) := by
  refine (Task.keeps_store _).bind fun found => ?_
  cases found with
  | none => exact Task.keeps_throw _
  | some config => exact Task.keeps_pure config

/-- Where a session is opened, it is the only one; where opening it fails, there is none. -/
theorem ensures_start_open (settings : Settings) (context : Context) (provider : String)
    {earlier : List Step} (hopen : OpenSessions 0 earlier) :
    Task.Ensures .bracketing (fun _ => OpenSessions 1) (fun _ => OpenSessions 0)
      (start settings context provider) earlier := by
  refine (Task.ensures_bind _ _).mpr ?_
  refine (keeps_findConfig _ _ earlier hopen).mono (fun config found hfound => ?_) fun _ _ h => h
  refine (Task.ensures_bind _ _).mpr ?_
  refine (keeps_settle 0 _ _ _ _ found hfound).mono (fun target asked hasked => ?_) fun _ _ h => h
  refine (Task.ensures_bind _ _).mpr ((Task.ensures_lift_run _).mpr ?_)
  refine Budget.ensures_call _ _ ((openSessions_callSteps _ _).mpr hasked) ?_ ?_
  · intro connected limit answer history calls
    have opened : OpenSessions 1 history := by
      rw [← openSessions_callSteps, calls]
      exact ((openSessions_callSteps _ _).mpr hasked).append_opens rfl rfl
    exact opened
  · intro connected limit reply error history refused calls
    have closed : OpenSessions 0 history := by
      rw [← openSessions_callSteps, calls]
      refine ((openSessions_callSteps _ _).mpr hasked).append ?_ rfl
      match reply, refused with
      | none, _ => rfl
      | some (.error e), _ => rfl
    refine (Task.ensures_bind _ _).mpr ((Task.ensures_bind _ _).mpr ?_)
    exact (Task.ensures_log _).mpr ⟨Rule.onCalls_of_silent rfl, fun _ => closed.append rfl rfl⟩

/-- Closing the only session leaves none open, even if the directory does not answer. -/
theorem ensures_close_open (session : Session) {earlier : List Step}
    (hopen : OpenSessions 1 earlier) :
    session.close.Ensures .bracketing (fun _ => OpenSessions 0) earlier := by
  have open_calls := (openSessions_callSteps _ _).mpr hopen
  refine ensures_close session open_calls fun started limit reply history calls => ?_
  rw [← openSessions_callSteps, calls]
  exact open_calls.append_closes rfl rfl

/-- Work that keeps its session open is done with no session left open. -/
theorem keeps_within (settings : Settings) (context : Context) (provider : String)
    (reduce : DirectoryError → String → Error) (work : Session → Task DirectoryError α)
    (working : ∀ session, Task.Keeps 1 (work session)) :
    Task.Keeps 0 (within settings context provider reduce work) := by
  intro earlier hopen
  refine (Task.ensures_bind _ _).mpr ?_
  refine (ensures_start_open settings context provider hopen).mono ?_ fun _ _ h => h
  intro session opened hopened
  refine (Task.ensures_bind _ _).mpr ((Task.ensures_lift _).mpr ?_)
  refine (Task.ensures_iff_run.mp (working session opened hopened)).mono ?_
  intro outcome worked hworked
  refine (Task.ensures_bind _ _).mpr ((Task.ensures_lift _).mpr ?_)
  refine (ensures_close_open session hworked).mono fun _ closed hclosed => ?_
  exact keeps_settle 0 reduce provider _ outcome closed hclosed

/-! ## Working -/

/-- The bind of the service account leaves its session open. -/
theorem keeps_bindService (session : Session) : Task.Keeps 1 session.bindService :=
  Task.Keeps.adapt (Budget.keeps_call _ _ rfl) _

/-- The bind of a user leaves the session open. -/
theorem keeps_bindUser (session : Session) (entry : Entry) (password : String) :
    Task.Keeps 1 (session.bindUser entry password) :=
  Task.Keeps.adapt (Budget.keeps_call _ _ rfl) _

/-- The search for a user leaves the session open. -/
theorem keeps_findUser (session : Session) (username : String) (attributes : List String) :
    Task.Keeps 1 (session.findUser username attributes) :=
  Task.Keeps.bind (Budget.keeps_call _ _ rfl) fun entries => Task.keeps_ofExcept (unique entries)

end Session

/-! ## Runs -/

/-- In some steps each session is closed by the last call made in it, and before another one is
opened. -/
structure Bracketed (steps : List Step) : Prop where
  /-- As many sessions were closed as were opened. -/
  balanced : steps.countP Step.closes = steps.countP Step.opens
  /-- When a directory is connected to, every session that was opened before was closed. -/
  one_at_a_time : ∀ before step after, steps = before ++ step :: after → step.connects = true →
    before.countP Step.closes = before.countP Step.opens
  /-- When something is asked, all but one of the sessions that were opened before were closed. -/
  asked_while_open : ∀ before step after, steps = before ++ step :: after → step.asks = true →
    before.countP Step.opens = before.countP Step.closes + 1
  /-- After a session was closed, nothing is asked until another one was opened. -/
  closed_last : ∀ before closing between step after,
    steps = before ++ closing :: (between ++ step :: after) → closing.closes = true →
      step.asks = true → ∃ opening ∈ between, opening.opens = true

namespace Step

variable {earlier : List Step} {step : Step}

/-- If sessions are bracketed, one is opened only when none is open. -/
theorem openSessions_of_connects (obeys : Rule.bracketing earlier step.action)
    (connects : step.connects = true) : OpenSessions 0 earlier := by
  unfold Step.connects at connects
  split at connects
  · exact (openSessions_callSteps _ _).mp (obeys _ rfl)
  · contradiction

/-- If sessions are bracketed, a directory is asked only when one is open. -/
theorem openSessions_of_asks (obeys : Rule.bracketing earlier step.action)
    (asks : step.asks = true) : OpenSessions 1 earlier := by
  rcases step with ⟨_, action, _⟩
  cases action with
  | directory call limit =>
    cases call with
    | connect target => contradiction
    | _ => exact (openSessions_callSteps _ _).mp (obeys _ rfl)
  | _ => contradiction

/-- To close a session asks the directory and opens none. -/
theorem asks_and_not_opens_of_closes (closes : step.closes = true) :
    step.asks = true ∧ step.opens = false := by
  unfold Step.closes at closes
  split at closes
  · exact ⟨rfl, rfl⟩
  · contradiction

end Step

/-- A run that begins and ends with no session open has closed each of them in time. -/
theorem Task.Keeps.bracketed {task : Task ε α} (h : Task.Keeps 0 task)
    (environment : Environment σ) (moment : Moment σ) :
    Bracketed (task.run.run environment moment).steps := by
  have none_open : OpenSessions 0 [] := rfl
  obtain ⟨obeys, ended⟩ :=
    (Task.ensures_iff_run.mp (h [] none_open)).run environment moment
  simp only [List.nil_append] at obeys ended
  have asked : ∀ before step after, (task.run.run environment moment).steps =
      before ++ step :: after → step.asks = true → OpenSessions 1 before :=
    fun before step after split => Step.openSessions_of_asks (obeys before step after split)
  refine ⟨Eq.symm ended, ?_, asked, ?_⟩
  · intro before step after split connects
    exact Eq.symm (Step.openSessions_of_connects (obeys before step after split) connects)
  · intro before closing between step after split closes asks
    obtain ⟨closing_asks, closing_opens⟩ := Step.asks_and_not_opens_of_closes closes
    have before_closing := asked before closing _ split closing_asks
    have before_step := asked (before ++ closing :: between) step after (by simp [split]) asks
    have opened : 0 < between.countP Step.opens := by
      simp only [OpenSessions, List.countP_append, List.countP_cons, closes, closing_opens,
        if_true, Bool.false_eq_true, if_false] at before_closing before_step
      omega
    exact List.countP_pos_iff.mp opened

/-! ## Operations -/

namespace Service

variable (service : Service) (context : Context) (provider username password : String)

/-- The work of a verification leaves its session open. -/
theorem keeps_verifyWithin (session : Session) :
    Task.Keeps 1 (verifyWithin username password session) := by
  unfold verifyWithin
  split
  · exact Task.keeps_throw _
  · refine session.keeps_bindService.bind fun _ => ?_
    exact (session.keeps_findUser _ _).bind fun entry => session.keeps_bindUser entry password

/-- The work of reading a profile leaves its session open. -/
theorem keeps_readProfileWithin (session : Session) :
    Task.Keeps 1 (readProfileWithin username session) := by
  refine session.keeps_bindService.bind fun _ => ?_
  exact (session.keeps_findUser _ _).bind fun entry => Task.keeps_ofExcept _

/-- The check of a provider leaves no session open. -/
theorem keeps_checkProvider : Task.Keeps 0 (service.checkProvider context provider) :=
  (Session.keeps_within _ _ _ _ _ Session.keeps_bindService).bind fun _ => Task.keeps_log _

/-- A verification leaves no session open. -/
theorem keeps_verify : Task.Keeps 0 (service.verify context provider username password) := by
  unfold verify
  split
  · exact (Task.keeps_log _).bind fun _ => Task.keeps_throw _
  · exact Session.keeps_within _ _ _ _ _ (keeps_verifyWithin username password)

/-- To read a profile leaves no session open. -/
theorem keeps_readProfile : Task.Keeps 0 (service.readProfile context provider username) :=
  Session.keeps_within _ _ _ _ _ (keeps_readProfileWithin username)

/-- A sign-in leaves no session open. -/
theorem keeps_signIn (request : SignInRequest) : Task.Keeps 0 (service.signIn context request) := by
  refine (Task.keeps_ofExcept _).bind fun _ => ?_
  refine ((service.keeps_verify _ _ _ _).adapt _).bind fun _ => ?_
  refine ((service.keeps_readProfile _ _ _).adapt _).bind fun profile => ?_
  refine Task.Keeps.bind (Task.Obeys.keeps ?_) fun _ => Task.keeps_pure _
  exact Reconciliation.obeys_reconcile context.tenant request.provider profile

end Service

/-! ## A rehearsed sign-in -/

/-- A script in which one search after the other finds certain entries. -/
def Script.finding (found : List (List Entry)) : Script where
  reactions
    | .search => found.map fun entries => { entries }
    | _ => []

/-- A service with the standard settings. -/
def Service.sample : Service :=
  ⟨.standard, rfl⟩

/-- A request of a public tenant without a deadline. -/
def Context.sample : Context :=
  ⟨⟨⟨⟨0⟩⟩, "demo", false⟩, none⟩

/-- A directory of people with a uid. -/
def ProviderConfig.sample : ProviderConfig where
  id := 1
  provider := "ldap"
  displayName := "Directory"
  status := .enabled
  protocol := .ldaps
  certCheck := true
  hostname := "ldap.example.org"
  port := ⟨636, by decide, by decide⟩
  bindUsername := "cn=reader,dc=example,dc=org"
  bindPassword := ⟨"reader-pw"⟩
  rootDn := "dc=example,dc=org"
  scope := .wholeSubtree
  userSearchFilter := ""
  usernameAttribute := "uid"
  nameAttribute := "cn"
  mailAttribute := "mail"

/-- The entry of someone with a uid. -/
def Entry.sample (uid : String) : Entry :=
  ⟨"uid=" ++ uid ++ ",dc=example,dc=org", [("uid", [uid])]⟩

/-- The sample tenant has the sample directory, and there are no accounts. -/
def Memory.sample (script : Script) : Memory Script :=
  ⟨⟨fun tenant => if tenant = Context.sample.tenant.id then [.sample] else []⟩, .empty, script⟩

/-- A form that was filled in. -/
def SignInRequest.sample : SignInRequest :=
  ⟨"ldap", "ada", "ada-pw"⟩

/-- The two sessions of a sign-in are closed one after the other. -/
example :
    ((Service.sample.signIn .sample .sample).run.run Script.surroundings.withMemory
      ⟨0, .sample (.finding [[.sample "ada"], [.sample "ada"]])⟩).calls.filterMap
        (fun | .directory call => some call.method | .store _ => none) =
      [.connect, .bind, .search, .bind, .unbind, .connect, .bind, .search, .unbind] := by
  decide +kernel

end DirectorySignIn
