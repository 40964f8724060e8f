import DirectorySignIn.Proofs.Program.Comparison
import DirectorySignIn.Proofs.SignIn.Reconciliation
import DirectorySignIn.SignIn.Service

/-!
# Couplings

The same operation of a service, done on two sides: with other usernames or passwords, against
other stores, or before other directories.  A coupling says when the two sides count as alike and
which calls, failures, configurations and log events are made for each other.  All that has to be
checked of it concerns single actions; that whole operations then end alike is shown here once.

Main results:

- `Coupling.within`: work that ends alike does so with the session around it.
- `Coupling.reconcile`: reconciliations end alike if the accounts are alike.
- `Coupling.checkProvider`, `Coupling.verify`, `Coupling.readProfile`, `Coupling.signIn`: so do the
  operations of a service.
-/

namespace DirectorySignIn

variable {σ τ α : Type}

/-! ## What is made for each other -/

/-- The entries that are found by a call that was answered. -/
def DirectoryCall.entries : (call : DirectoryCall) → call.Answer → List Entry
  | search _ _ _ _, entries => entries
  | connect _, _ | bind _ _, _ | unbind, _ => []

/-- A relation between failures that nobody but the operator tells apart. -/
structure DirectoryError.Congruence (errors : DirectoryError → DirectoryError → Prop) : Prop where
  refl : ∀ e, errors e e
  atServiceBind : ∀ {e e'}, errors e e' → errors e.atServiceBind e'.atServiceBind
  atUserBind : ∀ {e e'}, errors e e' → errors e.atUserBind e'.atUserBind
  toPublic : ∀ {e e'}, errors e e' → ∀ provider, e.toPublic provider = e'.toPublic provider
  toCheckFailure : ∀ {e e'}, errors e e' →
    ∀ provider, e.toCheckFailure provider = e'.toCheckFailure provider

/-- Equal failures are told apart by nobody. -/
theorem DirectoryError.congruence_eq : Congruence (· = ·) where
  refl _ := rfl
  atServiceBind h := congrArg atServiceBind h
  atUserBind h := congrArg atUserBind h
  toPublic h _ := h ▸ rfl
  toCheckFailure h _ := h ▸ rfl

/-- Failures are reported alike if all that is said of them is equal. -/
theorem LogEvent.failure_congr {provider url url' : String} {e e' : DirectoryError}
    (urls : url = url') (errors : e = e') :
    LogEvent.failure provider url e = .failure provider url' e' := by
  rw [urls, errors]

/-- The last of some calls connects to a directory. -/
def EndsConnecting (calls : List Call) : Prop :=
  ∃ target, calls.getLast? = some (.directory (.connect target))

/-- The last of some calls is a search. -/
def EndsSearching (calls : List Call) : Prop :=
  ∃ base scope filter attributes,
    calls.getLast? = some (.directory (.search base scope filter attributes))

/-- When two sides count as alike, and what is made for each other on them. -/
structure Coupling (σ τ : Type) extends Comparison σ τ where
  alike : Progress σ → Progress τ → Prop
  events : LogEvent → LogEvent → Prop
  errors : DirectoryError → DirectoryError → Prop
  urls : String → String → Prop
  configs : ProviderConfig → ProviderConfig → Prop
  /-- Which calls on a directory are made for each other after the calls so far. -/
  calls : List Call → DirectoryCall → DirectoryCall → Prop
  events_refl : ∀ event, events event event
  errors_congruence : DirectoryError.Congruence errors
  events_failure : ∀ {provider url url' e e'}, urls url url' → errors e e' →
    events (.failure provider url e) (.failure provider url' e')
  clock_eq : ∀ {s t}, alike s t → s.moment.clock = t.moment.clock
  readClock : ∀ {s t}, alike s t → alike (s.act left .readClock) (t.act right .readClock)
  log : ∀ {s t event event'}, alike s t → events event event' →
    alike (s.act left (.log event)) (t.act right (.log event'))
  /-- Directories answer calls that are made for each other in the same time, with the same
  entries or with failures that are made for each other. -/
  directory : ∀ {s t call call'}, alike s t → calls s.calls call call' → ∀ limit,
    alike (s.act left (.directory call limit)) (t.act right (.directory call' limit)) ∧
      (left.directory call s.moment.state).1.latency =
        (right.directory call' t.moment.state).1.latency ∧
      Paired (fun a a' => call.entries a = call'.entries a') errors
        (left.directory call s.moment.state).1.outcome
        (right.directory call' t.moment.state).1.outcome

namespace Coupling

variable (coupling : Coupling σ τ)

/-- Sessions that were opened for each other. -/
structure Sessions (session session' : Session) : Prop where
  config : coupling.configs session.config session'.config
  url : coupling.urls session.target.url.text session'.target.url.text
  budget : session.budget = session'.budget

/-- A coupling serves two requests of a tenant if the calls for them are made for each other and the
stores and configurations have the same to say of both. -/
structure Serves (settings : Settings) (tenant : TenantId) (request request' : SignInRequest) :
    Prop where
  provider_eq : request'.provider = request.provider
  check_eq : request'.check = request.check
  username_blank : Text.isBlankText request.username = Text.isBlankText request'.username
  password_empty : request.password = "" ↔ request'.password = ""
  lookup : ∀ {s t}, coupling.alike s t →
    let call := StoreCall.getConfig tenant request.provider
    coupling.alike (s.act coupling.left (.store call)) (t.act coupling.right (.store call)) ∧
      Paired (Option.Rel coupling.configs) (· = ·) (coupling.left.store call s.moment.state).1
        (coupling.right.store call t.moment.state).1
  target : ∀ {config config'}, coupling.configs config config' →
    Paired
      (fun target target' => coupling.urls target.url.text target'.url.text ∧
        ∀ calls, coupling.calls calls (.connect target) (.connect target'))
      (fun e e' => coupling.errors e e' ∧ coupling.urls config.hostname config'.hostname)
      (Target.ofConfig config settings) (Target.ofConfig config' settings)
  serviceBind : ∀ {config config' calls}, coupling.configs config config' →
    EndsConnecting calls →
    coupling.calls calls (.bind config.bindUsername config.bindPassword.reveal)
      (.bind config'.bindUsername config'.bindPassword.reveal)
  search : ∀ {config config'}, coupling.configs config config' → ∀ calls attributes,
    coupling.calls calls
      (.search config.rootDn config.scope (Filter.forUser config request.username) attributes)
      (.search config'.rootDn config'.scope (Filter.forUser config' request'.username) attributes)
  userBind : ∀ {calls}, EndsSearching calls → ∀ dn,
    coupling.calls calls (.bind dn request.password) (.bind dn request'.password)
  attributes : ∀ {config config'}, coupling.configs config config' →
    config.profileAttributes = config'.profileAttributes
  profile : ∀ {config config'}, coupling.configs config config' → ∀ entry,
    Profile.ofEntry config entry = Profile.ofEntry config' entry

/-- What a relation has to meet for two sides to be in it after their sessions were closed. -/
structure Closes (ended : Progress σ → Progress τ → Prop) : Prop where
  of_alike : ∀ s t, coupling.alike s t → ended s t
  log : ∀ {s t event event'}, ended s t → coupling.events event event' →
    ended (s.act coupling.left (.log event)) (t.act coupling.right (.log event'))
  close : ∀ {session session'}, coupling.Sessions session session' →
    Program.Beside coupling.toComparison coupling.alike session.close session'.close
      fun _ _ => ended

variable {coupling} {settings : Settings} {context : Context} {request request' : SignInRequest}
  {ended : Progress σ → Progress τ → Prop}

/-! ## Calls within a budget -/

/-- Calls that are made for each other within one budget end alike. -/
theorem call (budget : Budget) (operation : String) {call call' : DirectoryCall}
    {before : Progress σ → Progress τ → Prop}
    (h : ∀ s t, before s t → coupling.alike s t ∧ coupling.calls s.calls call call') :
    Task.Beside coupling.toComparison before (budget.call operation call)
      (budget.call operation call')
      (fun a a' s t => call.entries a = call'.entries a' ∧ coupling.alike s t ∧
        s.calls.getLast? = some (.directory call))
      (fun e e' s t => coupling.errors e e' ∧ coupling.alike s t) := by
  have started : Program.Beside coupling.toComparison before Program.now Program.now
      (fun now now' s t => now = now' ∧ coupling.alike s t ∧
        coupling.calls s.calls call call') := by
    refine Program.beside_perform fun s t hst _ => ?_
    obtain ⟨halike, hcalls⟩ := h s t hst
    exact ⟨coupling.clock_eq halike, coupling.readClock halike, by simpa [Action.call?] using hcalls⟩
  refine Program.beside_bind started fun now now' => Program.beside_of_assuming fun same => ?_
  subst same
  have asked : Program.Beside coupling.toComparison
      (fun s t => coupling.alike s t ∧ coupling.calls s.calls call call')
      (Program.perform (.directory call (budget.limit now)))
      (Program.perform (.directory call' (budget.limit now)))
      (fun reply reply' s t =>
        Option.Rel (Paired (fun a a' => call.entries a = call'.entries a') coupling.errors)
          reply reply' ∧
        coupling.alike s t ∧ s.calls.getLast? = some (.directory call)) := by
    refine Program.beside_perform fun s t hst _ => ?_
    obtain ⟨halike, hlatency, houtcome⟩ := coupling.directory hst.1 hst.2 (budget.limit now)
    refine ⟨?_, halike, by simp [Action.call?]⟩
    change Option.Rel _ (Response.await _ _) (Response.await _ _)
    simp only [Response.await, hlatency]
    split
    · exact .some houtcome
    · exact .none
  refine Program.beside_bind asked fun reply reply' => Program.beside_of_assuming fun paired => ?_
  cases paired with
  | some paired =>
    refine Program.beside_done fun s t hst => ?_
    exact paired.mono (fun _ _ same => ⟨same, hst⟩) (fun _ _ related => ⟨related, hst.1⟩)
  | none =>
    have ended : Program.Beside coupling.toComparison
        (fun s t => coupling.alike s t ∧ s.calls.getLast? = some (.directory call))
        Program.now Program.now (fun now now' s t => now = now' ∧ coupling.alike s t) :=
      Program.beside_perform fun s t hst _ =>
        ⟨coupling.clock_eq hst.1, coupling.readClock hst.1⟩
    refine Program.beside_bind ended fun now now' => Program.beside_done fun s t hst => ?_
    obtain ⟨rfl, halike⟩ := hst
    exact .error ⟨coupling.errors_congruence.refl _, halike⟩

/-! ## Opening and closing -/

section Telling

variable
  (log : ∀ {s t event event'}, ended s t → coupling.events event event' →
    ended (s.act coupling.left (.log event)) (t.act coupling.right (.log event')))

include log

/-- Events that are made for each other are logged alike. -/
theorem tell {ε : Type} {event event' : LogEvent} (events : coupling.events event event') :
    Task.EndAlike coupling.toComparison ended (Task.log event : Task ε Unit) (Task.log event')
      ended :=
  Task.beside_log fun _ _ hst => ⟨rfl, log hst events⟩

variable {reduce : DirectoryError → String → Error}
  (reduced : ∀ {e e'}, coupling.errors e e' → ∀ provider, reduce e provider = reduce e' provider)
  (provider : String) {url url' : String}

include reduced

/-- Failures that are made for each other are reported and reduced alike. -/
theorem fail {e e' : DirectoryError} (errors : coupling.errors e e')
    (urls : coupling.urls url url') :
    Task.Beside coupling.toComparison ended (Session.fail reduce provider url e : Task Error α)
      (Session.fail reduce provider url' e' : Task Error α) (fun _ _ _ _ => False)
      (fun e e' s t => e = e' ∧ ended s t) := by
  refine Task.beside_bind (tell log (coupling.events_failure urls errors)) fun _ _ => ?_
  exact Task.beside_throw fun s t hst => ⟨reduced errors provider, hst.2⟩

/-- Outcomes that are made for each other are settled alike. -/
theorem settle {goal : α → α → Prop} {outcome outcome' : Except DirectoryError α}
    (h : Paired goal (fun e e' => coupling.errors e e' ∧ coupling.urls url url') outcome
      outcome') :
    Task.Beside coupling.toComparison ended (Session.settle reduce provider url outcome)
      (Session.settle reduce provider url' outcome') (fun a b s t => goal a b ∧ ended s t)
      (fun e e' s t => e = e' ∧ ended s t) := by
  cases h with
  | ok met => exact Task.beside_pure fun s t hst => ⟨met, hst⟩
  | error related =>
    refine (fail log reduced provider related.1 related.2).mono (fun _ _ hst => hst) ?_ ?_
    · exact fun _ _ _ _ impossible => impossible.elim
    · exact fun _ _ _ _ failed => failed

end Telling

/-- A session is closed alike if directories may answer the closing of sessions like any other
call. -/
theorem closes_alike (unbind : ∀ calls, coupling.calls calls .unbind .unbind)
    (events_unbindFailed : ∀ {url url' e e'}, coupling.urls url url' → coupling.errors e e' →
      coupling.events (.unbindFailed url e) (.unbindFailed url' e')) :
    coupling.Closes coupling.alike where
  of_alike _ _ h := h
  log h events := coupling.log h events
  close := by
    intro session session' sessions
    have closed : Task.Beside coupling.toComparison coupling.alike
        (session.budget.call "unbind" .unbind) (session'.budget.call "unbind" .unbind)
        (fun _ _ => coupling.alike)
        (fun e e' s t => coupling.errors e e' ∧ coupling.alike s t) := by
      rw [← sessions.budget]
      refine (coupling.call _ _ fun s t hst => ⟨hst, unbind _⟩).mono (fun _ _ hst => hst) ?_ ?_
      · exact fun _ _ s t met => met.2.1
      · exact fun _ _ s t met => met
    refine Program.beside_bind closed (Program.beside_of_paired (fun _ _ => ?_) fun e e' => ?_)
    · exact Program.beside_done fun _ _ hst => hst
    · refine Program.beside_of_assuming fun related => ?_
      exact Program.beside_perform fun s t hst _ =>
        coupling.log hst (events_unbindFailed sessions.url related)

section Sessions

variable (serves : coupling.Serves settings context.tenant.id request request')

include serves

/-- A look-up of the configuration finds configurations that are made for each other. -/
theorem findConfig :
    Task.Beside coupling.toComparison coupling.alike
      (Session.findConfig context.tenant.id request.provider)
      (Session.findConfig context.tenant.id request.provider)
      (fun config config' s t => coupling.configs config config' ∧ coupling.alike s t)
      (fun e e' s t => e = e' ∧ coupling.alike s t) := by
  have asked : Task.Beside coupling.toComparison coupling.alike
      (Task.store (.getConfig context.tenant.id request.provider))
      (Task.store (.getConfig context.tenant.id request.provider))
      (fun found found' s t => Option.Rel coupling.configs found found' ∧ coupling.alike s t)
      (fun e e' s t => e = e' ∧ coupling.alike s t) := by
    refine Task.beside_store fun s t hst _ => ?_
    obtain ⟨halike, hpaired⟩ := serves.lookup hst
    exact hpaired.mono (fun _ _ related => ⟨related, halike⟩) (fun _ _ same => ⟨same, halike⟩)
  refine Task.beside_bind asked fun found found' => Task.beside_of_assuming fun related => ?_
  cases related with
  | none => exact Task.beside_throw fun s t hst => ⟨rfl, hst⟩
  | some related => exact Task.beside_pure fun s t hst => ⟨related, hst⟩

/-- Sessions are opened for each other. -/
theorem start :
    Task.Beside coupling.toComparison coupling.alike
      (Session.start settings context request.provider)
      (Session.start settings context request.provider)
      (fun session session' s t => coupling.Sessions session session' ∧
        coupling.alike s t ∧ EndsConnecting s.calls)
      (fun e e' s t => e = e' ∧ coupling.alike s t) := by
  refine Task.beside_bind (findConfig serves) fun config config' => ?_
  refine Task.beside_of_assuming fun configs => ?_
  have targeted : Task.Beside coupling.toComparison coupling.alike _ _
      (fun target target' s t => (coupling.urls target.url.text target'.url.text ∧
        ∀ calls, coupling.calls calls (.connect target) (.connect target')) ∧ coupling.alike s t)
      (fun e e' s t => e = e' ∧ coupling.alike s t) :=
    settle coupling.log coupling.errors_congruence.toPublic request.provider
      (serves.target configs)
  refine Task.beside_bind targeted fun target target' => Task.beside_of_assuming fun targets => ?_
  obtain ⟨urls, connect⟩ := targets
  have asked : Task.Beside coupling.toComparison coupling.alike _ _ _ _ :=
    coupling.call ⟨settings.operationTimeout, context.deadline⟩ "connect"
      fun s t hst => ⟨hst, connect _⟩
  refine Task.beside_bind (Task.beside_lift asked) (Task.beside_of_paired (fun a b => ?_)
    fun e e' => ?_)
  · change Task.Beside _ _ (pure _) (pure _) _ _
    exact Task.beside_pure fun s t hst => ⟨⟨configs, urls, rfl⟩, hst.2.1, target, hst.2.2⟩
  · refine Task.beside_of_assuming fun related => ?_
    refine Task.beside_bind (fail coupling.log coupling.errors_congruence.toPublic
      request.provider related urls) fun _ _ => ?_
    exact Task.beside_pure fun _ _ impossible => impossible.elim

/-- Work that ends alike does so with the session around it. -/
theorem within (closes : coupling.Closes ended) {reduce : DirectoryError → String → Error}
    (reduced : ∀ {e e'}, coupling.errors e e' → ∀ provider, reduce e provider = reduce e' provider)
    {work work' : Session → Task DirectoryError α}
    (working : ∀ session session', coupling.Sessions session session' →
      Task.Beside coupling.toComparison
        (fun s t => coupling.alike s t ∧ EndsConnecting s.calls) (work session) (work' session')
        (fun a b s t => a = b ∧ coupling.alike s t)
        (fun e e' s t => coupling.errors e e' ∧ coupling.alike s t)) :
    Task.EndAlike coupling.toComparison coupling.alike
      (Session.within settings context request.provider reduce work)
      (Session.within settings context request.provider reduce work') ended := by
  have opened : Task.Beside coupling.toComparison coupling.alike _ _ _
      (fun e e' s t => e = e' ∧ ended s t) :=
    (start serves).mono (fun _ _ hst => hst) (fun _ _ _ _ met => met)
      fun _ _ s t failed => ⟨failed.1, closes.of_alike s t failed.2⟩
  refine Task.beside_bind opened fun session session' => Task.beside_of_assuming fun sessions => ?_
  refine Task.beside_bind (Task.beside_lift (working session session' sessions)) ?_
  intro outcome outcome'
  have closed : Program.Beside coupling.toComparison
      (fun s t => Paired (· = ·) coupling.errors outcome outcome' ∧ coupling.alike s t)
      session.close session'.close
      (fun _ _ s t => Paired (· = ·) coupling.errors outcome outcome' ∧ ended s t) := by
    refine Program.beside_of_assuming fun paired => ?_
    exact (closes.close sessions).mono (fun _ _ hst => hst) fun _ _ _ _ met => ⟨paired, met⟩
  refine Task.beside_bind (Task.beside_lift (closed.mono (fun _ _ worked => worked.and_right)
    fun _ _ _ _ met => met)) fun _ _ => Task.beside_of_assuming fun paired => ?_
  exact settle closes.log reduced request.provider
    (paired.mono (fun _ _ same => same) fun _ _ related => ⟨related, sessions.url⟩)

/-! ## Working -/

omit serves in
/-- Look-ups whose searches found the same entries end alike. -/
theorem unique_entries (entries : List Entry) :
    Paired (· = ·) coupling.errors (Session.unique entries) (Session.unique entries) :=
  paired_self _ (fun _ => rfl) coupling.errors_congruence.refl

/-- The bind of the service account is alike on both sides. -/
theorem bindService {session session' : Session} (sessions : coupling.Sessions session session') :
    Task.Beside coupling.toComparison (fun s t => coupling.alike s t ∧ EndsConnecting s.calls)
      session.bindService session'.bindService (fun a b s t => a = b ∧ coupling.alike s t)
      (fun e e' s t => coupling.errors e e' ∧ coupling.alike s t) := by
  unfold Session.bindService
  rw [← sessions.budget]
  refine Task.beside_adapt ((coupling.call _ _ fun s t hst =>
    ⟨hst.1, serves.serviceBind sessions.config hst.2⟩).mono (fun _ _ hst => hst) ?_ ?_)
  · exact fun _ _ s t met => ⟨rfl, met.2.1⟩
  · exact fun e e' s t failed =>
      ⟨coupling.errors_congruence.atServiceBind failed.1, failed.2⟩

/-- The search for a user is alike on both sides, and finds the same entry. -/
theorem findUser {session session' : Session} (sessions : coupling.Sessions session session')
    (attributes : List String) :
    Task.Beside coupling.toComparison coupling.alike
      (session.findUser request.username attributes)
      (session'.findUser request'.username attributes)
      (fun entry entry' s t => entry = entry' ∧ coupling.alike s t ∧ EndsSearching s.calls)
      (fun e e' s t => coupling.errors e e' ∧ coupling.alike s t) := by
  unfold Session.findUser
  rw [← sessions.budget]
  refine Task.beside_bind (coupling.call _ _ fun s t hst =>
    ⟨hst, serves.search sessions.config _ attributes⟩) fun entries entries' => ?_
  refine Task.beside_of_assuming fun same => ?_
  obtain rfl : entries = entries' := same
  refine Task.beside_ofExcept fun s t hst => ?_
  exact (unique_entries entries).mono (fun _ _ same => ⟨same, hst.1, _, _, _, _, hst.2⟩)
    fun _ _ related => ⟨related, hst.1⟩

/-- The bind of a user is alike on both sides. -/
theorem bindUser {session session' : Session} (sessions : coupling.Sessions session session')
    (entry : Entry) :
    Task.Beside coupling.toComparison (fun s t => coupling.alike s t ∧ EndsSearching s.calls)
      (session.bindUser entry request.password) (session'.bindUser entry request'.password)
      (fun a b s t => a = b ∧ coupling.alike s t)
      (fun e e' s t => coupling.errors e e' ∧ coupling.alike s t) := by
  unfold Session.bindUser
  rw [← sessions.budget]
  refine Task.beside_adapt ((coupling.call _ _ fun s t hst =>
    ⟨hst.1, serves.userBind hst.2 entry.dn⟩).mono (fun _ _ hst => hst) ?_ ?_)
  · exact fun _ _ s t met => ⟨rfl, met.2.1⟩
  · exact fun e e' s t failed => ⟨coupling.errors_congruence.atUserBind failed.1, failed.2⟩

/-- The work of a verification is alike on both sides. -/
theorem verifyWithin {session session' : Session} (sessions : coupling.Sessions session session') :
    Task.Beside coupling.toComparison (fun s t => coupling.alike s t ∧ EndsConnecting s.calls)
      (Service.verifyWithin request.username request.password session)
      (Service.verifyWithin request'.username request'.password session')
      (fun a b s t => a = b ∧ coupling.alike s t)
      (fun e e' s t => coupling.errors e e' ∧ coupling.alike s t) := by
  unfold Service.verifyWithin
  by_cases empty : request.password = ""
  · rw [if_pos empty, if_pos (serves.password_empty.mp empty)]
    exact Task.beside_throw fun s t hst => ⟨coupling.errors_congruence.refl _, hst.1⟩
  · rw [if_neg empty, if_neg (mt serves.password_empty.mpr empty)]
    refine Task.beside_bind (bindService serves sessions) fun _ _ => ?_
    refine Task.beside_of_assuming fun _ => ?_
    refine Task.beside_bind (findUser serves sessions _) fun entry entry' => ?_
    refine Task.beside_of_assuming fun same => ?_
    subst same
    exact bindUser serves sessions entry

/-- The work of reading a profile is alike on both sides, and reads the same one. -/
theorem readProfileWithin {session session' : Session}
    (sessions : coupling.Sessions session session') :
    Task.Beside coupling.toComparison (fun s t => coupling.alike s t ∧ EndsConnecting s.calls)
      (Service.readProfileWithin request.username session)
      (Service.readProfileWithin request'.username session')
      (fun profile profile' s t => profile = profile' ∧ coupling.alike s t)
      (fun e e' s t => coupling.errors e e' ∧ coupling.alike s t) := by
  refine Task.beside_bind (bindService serves sessions) fun _ _ => ?_
  refine Task.beside_of_assuming fun _ => ?_
  rw [← serves.attributes sessions.config]
  refine Task.beside_bind (findUser serves sessions _) fun entry entry' => ?_
  refine Task.beside_of_assuming fun same => ?_
  subst same
  refine Task.beside_ofExcept fun s t hst => ?_
  rw [← serves.profile sessions.config entry]
  exact paired_self _ (fun _ => ⟨rfl, hst.1⟩)
    fun e => ⟨coupling.errors_congruence.refl e, hst.1⟩

end Sessions

/-! ## Reconciling -/

/-- A reconciliation ends alike if calls on the accounts are answered alike and the same identifiers
are drawn. -/
theorem reconcile
    (accounts : ∀ {s t}, coupling.alike s t → ∀ call, (Call.store call).isOnAccounts = true →
      (coupling.left.store call s.moment.state).1 = (coupling.right.store call t.moment.state).1 ∧
        coupling.alike (s.act coupling.left (.store call)) (t.act coupling.right (.store call)))
    (draw : ∀ {s t}, coupling.alike s t →
      (coupling.left.drawUserId s.moment.state).1 = (coupling.right.drawUserId t.moment.state).1 ∧
        coupling.alike (s.act coupling.left .drawUserId) (t.act coupling.right .drawUserId))
    (tenant : Tenant) (provider : String) (profile : Profile) :
    Task.EndAlike coupling.toComparison coupling.alike
      (Reconciliation.reconcile tenant provider profile)
      (Reconciliation.reconcile tenant provider profile) coupling.alike := by
  refine Task.endAlike_self (Reconciliation.obeys_reconcile tenant provider profile)
    fun action s t obeyed hst _ => ?_
  cases action with
  | store call => exact accounts hst call ((Rule.onCalls_iff _ rfl).mp obeyed)
  | directory call limit =>
    exact Bool.noConfusion ((Rule.onCalls_iff _ rfl).mp obeyed)
  | readClock => exact ⟨coupling.clock_eq hst, coupling.readClock hst⟩
  | drawUserId => exact draw hst
  | log event => exact ⟨rfl, coupling.log hst (coupling.events_refl event)⟩

/-! ## Operations -/

section Operations

variable {service : Service} (serves : coupling.Serves service.settings context.tenant.id request
  request')

include serves

/-- The check of a provider ends alike on both sides. -/
theorem checkProvider (closes : coupling.Closes ended) :
    Task.EndAlike coupling.toComparison coupling.alike
      (service.checkProvider context request.provider)
      (service.checkProvider context request.provider) ended := by
  refine (within serves closes coupling.errors_congruence.toCheckFailure
    fun _ _ sessions => bindService serves sessions).bind (fun _ _ hst => hst) fun _ => ?_
  exact tell closes.log (coupling.events_refl _)

/-- A verification ends alike on both sides. -/
theorem verify (closes : coupling.Closes ended) :
    Task.EndAlike coupling.toComparison coupling.alike
      (service.verify context request.provider request.username request.password)
      (service.verify context request.provider request'.username request'.password) ended := by
  have same : (Text.isBlankText request.username || request.password == "") =
      (Text.isBlankText request'.username || request'.password == "") := by
    rw [serves.username_blank, Bool.eq_iff_iff]
    simp [serves.password_empty]
  unfold Service.verify
  rw [same]
  split
  · have told : Task.EndAlike coupling.toComparison coupling.alike
        (Task.log .credentialsMissing : Task Error Unit) (Task.log .credentialsMissing)
        coupling.alike := tell coupling.log (coupling.events_refl _)
    exact told.bind closes.of_alike fun _ =>
      Task.beside_throw fun s t hst => ⟨rfl, closes.of_alike s t hst⟩
  · exact within serves closes coupling.errors_congruence.toPublic
      fun _ _ sessions => verifyWithin serves sessions

/-- To read a profile ends alike on both sides. -/
theorem readProfile (closes : coupling.Closes ended) :
    Task.EndAlike coupling.toComparison coupling.alike
      (service.readProfile context request.provider request.username)
      (service.readProfile context request.provider request'.username) ended :=
  within serves closes coupling.errors_congruence.toPublic
    fun _ _ sessions => readProfileWithin serves sessions

/-- A sign-in goes on from session to session, so that the two sides have to be alike after each of
them. -/
theorem signIn (closes : coupling.Closes coupling.alike)
    (of_alike : ∀ s t, coupling.alike s t → ended s t)
    (reconciling : ∀ profile, Task.EndAlike coupling.toComparison coupling.alike
      (Reconciliation.reconcile context.tenant request.provider profile)
      (Reconciliation.reconcile context.tenant request.provider profile) ended) :
    Task.EndAlike coupling.toComparison coupling.alike (service.signIn context request)
      (service.signIn context request') ended := by
  unfold Service.signIn
  rw [serves.check_eq, serves.provider_eq]
  have checked : Task.EndAlike coupling.toComparison coupling.alike
      (Task.ofExcept request.check) (Task.ofExcept request.check) coupling.alike :=
    Task.beside_ofExcept fun s t hst => paired_self _ (fun _ => ⟨rfl, hst⟩) fun _ => ⟨rfl, hst⟩
  refine checked.bind of_alike fun _ => ?_
  refine ((verify serves closes).adapt Error.hidingProvider).bind of_alike fun _ => ?_
  refine ((readProfile serves closes).adapt Error.hidingProvider).bind of_alike fun profile => ?_
  refine (reconciling profile).bind (fun _ _ hst => hst) fun reconciliation => ?_
  exact Task.beside_pure fun s t hst => ⟨rfl, hst⟩

end Operations

end Coupling

end DirectorySignIn
