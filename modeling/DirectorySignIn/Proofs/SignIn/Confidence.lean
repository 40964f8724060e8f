import DirectorySignIn.Program.Script
import DirectorySignIn.Proofs.SignIn.Bracketing
import DirectorySignIn.Proofs.SignIn.Coupling

/-!
# What is kept in confidence

The submitted password, the submitted username and the password of the service account go to the
directory and nowhere else.  Two runs that differ in one of them are compared before a directory
that does not look at the arguments of its calls: then nothing else can be seen of the difference,
neither in the results nor in the accounts, in the log or in the time that is taken.  What differs
is one argument of the calls that the directory gets.

Main results:

- `Coupling.ofDifference`: runs that differ in one text given in confidence are coupled.
- `Service.keeps_confidence`: operations keep each of the three to the directory.
-/

namespace DirectorySignIn

variable {δ α : Type}

/-! ## Texts given in confidence -/

/-- The texts that are meant for the directory alone. -/
inductive Confidence where
  | password
  | username
  | bindPassword

/-- A configuration in which the password of the service account is blotted out. -/
def ProviderConfig.withoutSecret (config : ProviderConfig) : ProviderConfig :=
  { config with bindPassword := ⟨""⟩ }

/-- Two stores have the same configurations but for the passwords of the service accounts. -/
def ConfigStore.SameButSecrets (store store' : ConfigStore) : Prop :=
  ∀ tenant, (store.ofTenant tenant).map ProviderConfig.withoutSecret =
    (store'.ofTenant tenant).map ProviderConfig.withoutSecret

/-- The form and the configurations of one run differ from those of another one in nothing but one
text that is given in confidence. -/
inductive DifferIn : Confidence → SignInRequest → ConfigStore → SignInRequest → ConfigStore → Prop
  | password {provider username password password' : String} {configs : ConfigStore}
      (present : password ≠ "") (present' : password' ≠ "") :
      DifferIn .password ⟨provider, username, password⟩ configs
        ⟨provider, username, password'⟩ configs
  | username {provider username username' password : String} {configs : ConfigStore}
      (present : Text.trim username ≠ "") (present' : Text.trim username' ≠ "") :
      DifferIn .username ⟨provider, username, password⟩ configs
        ⟨provider, username', password⟩ configs
  | bindPassword {request : SignInRequest} {configs configs' : ConfigStore}
      (same : configs.SameButSecrets configs') :
      DifferIn .bindPassword request configs request configs'

/-! ## What the directory sees -/

/-- After some calls, two calls on a directory differ in nothing but the argument by which a text is
given in confidence: the password of a bind that follows a search, which is the bind of the user,
the filter of a search, or the password of a bind that follows a connect, which is the bind of the
service account. -/
inductive Confidence.Gives (calls : List Call) : Confidence → DirectoryCall → DirectoryCall → Prop
  | password {dn password password' : String} (user : EndsSearching calls) :
      Gives calls .password (.bind dn password) (.bind dn password')
  | username {base filter filter' : String} {scope : SearchScope} {attributes : List String} :
      Gives calls .username (.search base scope filter attributes)
        (.search base scope filter' attributes)
  | bindPassword {dn password password' : String} (service : EndsConnecting calls) :
      Gives calls .bindPassword (.bind dn password) (.bind dn password')

/-- Two lists of calls differ in nothing but the argument by which a text is given in confidence. -/
inductive Confidence.Traces (confidence : Confidence) : List Call → List Call → Prop
  | begin : Traces confidence [] []
  | same {calls calls' : List Call} (before : Traces confidence calls calls') (call : Call) :
      Traces confidence (calls ++ [call]) (calls' ++ [call])
  | gives {calls calls' : List Call} {call call' : DirectoryCall}
      (before : Traces confidence calls calls') (differ : confidence.Gives calls call call') :
      Traces confidence (calls ++ [.directory call]) (calls' ++ [.directory call'])

/-- A directory does not look at the arguments of its calls. -/
def Surroundings.IgnoresArguments (surroundings : Surroundings δ) : Prop :=
  ∃ react : DirectoryMethod → δ → Reaction × δ, ∀ call outside,
    surroundings.directory call outside =
      ((react call.method outside).1.response call, (react call.method outside).2)

/-- A rehearsed directory reads its answers off a script. -/
theorem Script.ignoresArguments : Script.surroundings.IgnoresArguments :=
  ⟨fun method script => script.takeReaction method, fun _ _ => rfl⟩

/-- A reaction is the same to two calls of one kind. -/
theorem Reaction.paired_response (reaction : Reaction) {call call' : DirectoryCall}
    (same : call.method = call'.method) :
    Paired (fun a a' => call.entries a = call'.entries a') (· = ·)
      (reaction.response call).outcome (reaction.response call').outcome := by
  cases failed : reaction.error with
  | some e =>
    simp only [response, failed]
    exact .error rfl
  | none =>
    simp only [response, failed]
    refine .ok ?_
    cases call <;> cases call' <;> first | rfl | contradiction

/-- Two calls of one kind get the same reaction. -/
theorem Surroundings.IgnoresArguments.directory_eq {surroundings : Surroundings δ}
    (ignores : surroundings.IgnoresArguments) {call call' : DirectoryCall}
    (same : call.method = call'.method) (outside : δ) :
    ∃ (reaction : Reaction) (after : δ),
      surroundings.directory call outside = (reaction.response call, after) ∧
        surroundings.directory call' outside = (reaction.response call', after) := by
  obtain ⟨react, reacts⟩ := ignores
  refine ⟨_, _, reacts call outside, ?_⟩
  rw [reacts call' outside, same]

/-- The same method of the directory is called with either text. -/
theorem Confidence.Gives.method_eq {calls : List Call} {confidence : Confidence}
    {call call' : DirectoryCall} (h : confidence.Gives calls call call') :
    call.method = call'.method := by
  cases h <;> rfl

/-! ## The coupling -/

namespace Confidence

/-- How the configurations of two runs may differ. -/
def Configs : Confidence → ProviderConfig → ProviderConfig → Prop
  | .bindPassword, config, config' => config.withoutSecret = config'.withoutSecret
  | _, config, config' => config = config'

/-- How the stored configurations of two runs may differ. -/
def Stores : Confidence → ConfigStore → ConfigStore → Prop
  | .bindPassword, store, store' => store.SameButSecrets store'
  | _, store, store' => store = store'

/-- Nothing can be seen so far of what two runs differ in, but in the calls that the directory
got. -/
structure Alike (confidence : Confidence) (s t : Progress (Memory δ)) : Prop where
  clock : s.moment.clock = t.moment.clock
  configs : confidence.Stores s.moment.state.configs t.moment.state.configs
  users : s.moment.state.users = t.moment.state.users
  outside : s.moment.state.outside = t.moment.state.outside
  events : s.events = t.events
  calls : confidence.Traces s.calls t.calls

end Confidence

/-- Runs that differ in a text given in confidence, before a directory that does not look at the
arguments of its calls. -/
def Coupling.ofDifference (confidence : Confidence) (surroundings : Surroundings δ)
    (ignores : surroundings.IgnoresArguments) : Coupling (Memory δ) (Memory δ) where
  left := surroundings.withMemory
  right := surroundings.withMemory
  granted _ _ := True
  granted_of_append _ := trivial
  alike := confidence.Alike
  events := (· = ·)
  errors := (· = ·)
  urls := (· = ·)
  configs := confidence.Configs
  calls before call call' := call = call' ∨ confidence.Gives before call call'
  events_refl _ := rfl
  errors_congruence := DirectoryError.congruence_eq
  events_failure := LogEvent.failure_congr
  clock_eq hst := hst.clock
  readClock hst :=
    { hst with
      events := by simpa [Action.event?] using hst.events
      calls := by simpa [Action.call?] using hst.calls }
  log := by
    rintro s t event _ hst rfl
    exact
      { hst with
        events := by simpa [Action.event?] using hst.events
        calls := by simpa [Action.call?] using hst.calls }
  directory := by
    intro s t call call' hst calls limit
    have same : call.method = call'.method := by
      rcases calls with rfl | gives
      · rfl
      · exact gives.method_eq
    obtain ⟨reaction, after, left_eq, right_eq⟩ := ignores.directory_eq same s.moment.state.outside
    have left_answer : surroundings.withMemory.directory call s.moment.state =
        (reaction.response call, { s.moment.state with outside := after }) := by
      simp only [Surroundings.withMemory, left_eq]
    have right_answer : surroundings.withMemory.directory call' t.moment.state =
        (reaction.response call', { t.moment.state with outside := after }) := by
      simp only [Surroundings.withMemory, ← hst.outside, right_eq]
    have left_after : (s.act surroundings.withMemory (.directory call limit)).moment =
        ⟨s.moment.clock + min reaction.latency limit,
          { s.moment.state with outside := after }⟩ := by
      simp only [Progress.act_moment, Environment.reply, left_answer, Reaction.response]
    have right_after : (t.act surroundings.withMemory (.directory call' limit)).moment =
        ⟨t.moment.clock + min reaction.latency limit,
          { t.moment.state with outside := after }⟩ := by
      simp only [Progress.act_moment, Environment.reply, right_answer, Reaction.response]
    rw [left_answer, right_answer]
    refine ⟨⟨?_, ?_, ?_, ?_, ?_, ?_⟩, rfl, reaction.paired_response same⟩
    · rw [left_after, right_after, hst.clock]
    · rw [left_after, right_after]
      exact hst.configs
    · rw [left_after, right_after]
      exact hst.users
    · rw [left_after, right_after]
    · simpa [Action.event?] using hst.events
    · rcases calls with rfl | gives
      · simpa [Action.call?] using hst.calls.same (.directory call)
      · simpa [Action.call?] using hst.calls.gives gives

namespace Confidence

variable {confidence : Confidence} {config config' : ProviderConfig}

/-- Whatever two runs differ in, only the password of the service account may differ in their
configurations. -/
theorem Configs.withoutSecret_eq (h : confidence.Configs config config') :
    config.withoutSecret = config'.withoutSecret := by
  cases confidence with
  | bindPassword => exact h
  | password => exact congrArg ProviderConfig.withoutSecret h
  | username => exact congrArg ProviderConfig.withoutSecret h

/-- What does not look at the password of the service account is the same in both runs. -/
theorem Configs.eq_of_blind {β : Type} (h : confidence.Configs config config')
    (f : ProviderConfig → β) (blind : ∀ config, f config.withoutSecret = f config) :
    f config = f config' := by
  rw [← blind config, h.withoutSecret_eq, blind config']

/-- Stores that may differ in secrets find configurations that may differ in secrets. -/
theorem Stores.get? {store store' : ConfigStore} (h : confidence.Stores store store')
    (tenant : TenantId) (provider : String) :
    Option.Rel confidence.Configs (store.get? tenant provider) (store'.get? tenant provider) := by
  have equal : ∀ {configs : ProviderConfig → ProviderConfig → Prop} (found : Option ProviderConfig),
      (∀ config, configs config config) → Option.Rel configs found found := by
    intro configs found refl
    cases found with
    | none => exact .none
    | some config => exact .some (refl config)
  cases confidence with
  | password =>
    obtain rfl : store = store' := h
    exact equal _ fun _ => rfl
  | username =>
    obtain rfl : store = store' := h
    exact equal _ fun _ => rfl
  | bindPassword =>
    -- A provider is found by its key, which is not blotted out.
    have found : ∀ store : ConfigStore,
        (store.get? tenant provider).map ProviderConfig.withoutSecret =
          ((store.ofTenant tenant).map ProviderConfig.withoutSecret).find?
            fun config => config.provider == provider := by
      intro store
      rw [List.find?_map]
      rfl
    have same : (store.get? tenant provider).map ProviderConfig.withoutSecret =
        (store'.get? tenant provider).map ProviderConfig.withoutSecret := by
      rw [found, found, h tenant]
    cases left : store.get? tenant provider <;> cases right : store'.get? tenant provider <;>
      rw [left, right] at same
    · exact .none
    · contradiction
    · contradiction
    · exact .some (Option.some.inj same)

namespace Alike

variable {s t : Progress (Memory δ)} (h : confidence.Alike s t)

include h

/-- After a call on the stores, two runs are still alike if the stores are. -/
theorem act_store {environment : Environment (Memory δ)} {call : StoreCall}
    (configs : confidence.Stores (environment.store call s.moment.state).2.configs
      (environment.store call t.moment.state).2.configs)
    (users : (environment.store call s.moment.state).2.users =
      (environment.store call t.moment.state).2.users)
    (outside : (environment.store call s.moment.state).2.outside =
      (environment.store call t.moment.state).2.outside) :
    confidence.Alike (s.act environment (.store call)) (t.act environment (.store call)) where
  clock := h.clock
  configs := configs
  users := users
  outside := outside
  events := by simpa [Action.event?] using h.events
  calls := by simpa [Action.call?] using h.calls.same (.store call)

/-- A configuration is looked up in both runs. -/
theorem getConfig (surroundings : Surroundings δ) (tenant : TenantId) (provider : String) :
    let call := StoreCall.getConfig tenant provider
    confidence.Alike (s.act surroundings.withMemory (.store call))
        (t.act surroundings.withMemory (.store call)) ∧
      Paired (Option.Rel confidence.Configs) (· = ·)
        (surroundings.withMemory.store call s.moment.state).1
        (surroundings.withMemory.store call t.moment.state).1 := by
  intro call
  have left := surroundings.withMemory_store call s.moment.state
  have right := surroundings.withMemory_store call t.moment.state
  rw [← h.outside] at right
  rcases failing : surroundings.failure call s.moment.state.outside with ⟨failure, outside⟩
  rw [failing] at left right
  cases failure with
  | some e =>
    refine ⟨h.act_store ?_ ?_ ?_, ?_⟩ <;> rw [left, right]
    · exact h.configs
    · exact h.users
    · exact .error rfl
  | none =>
    refine ⟨h.act_store ?_ ?_ ?_, ?_⟩ <;> rw [left, right]
    · exact h.configs
    · exact h.users
    · rfl
    · exact .ok (h.configs.get? tenant provider)

/-- The accounts are asked in both runs. -/
theorem onAccounts (surroundings : Surroundings δ) {call : StoreCall}
    (onAccounts : (Call.store call).isOnAccounts = true) :
    (surroundings.withMemory.store call s.moment.state).1 =
        (surroundings.withMemory.store call t.moment.state).1 ∧
      confidence.Alike (s.act surroundings.withMemory (.store call))
        (t.act surroundings.withMemory (.store call)) := by
  have state_eq : t.moment.state =
      { s.moment.state with configs := t.moment.state.configs } := by
    dsimp only
    rw [h.users, h.outside]
  have answered := surroundings.store_of_isOnAccounts onAccounts s.moment.state
    t.moment.state.configs
  rw [← state_eq] at answered
  refine ⟨by rw [answered], h.act_store ?_ ?_ ?_⟩
  · rw [surroundings.configs_store, surroundings.configs_store]
    exact h.configs
  · rw [answered]
  · rw [answered]

/-- The same identifier is drawn in both runs. -/
theorem drawUserId (surroundings : Surroundings δ) :
    (surroundings.withMemory.drawUserId s.moment.state).1 =
        (surroundings.withMemory.drawUserId t.moment.state).1 ∧
      confidence.Alike (s.act surroundings.withMemory .drawUserId)
        (t.act surroundings.withMemory .drawUserId) := by
  have drawn : surroundings.drawUserId s.moment.state.outside =
      surroundings.drawUserId t.moment.state.outside := by rw [h.outside]
  have reply : (surroundings.drawUserId s.moment.state.outside).1 =
      (surroundings.drawUserId t.moment.state.outside).1 := congrArg Prod.fst drawn
  exact ⟨reply,
    { clock := h.clock
      configs := h.configs
      users := h.users
      outside := congrArg Prod.snd drawn
      events := by simpa [Action.event?] using h.events
      calls := by simpa [Action.call?] using h.calls }⟩

end Alike

end Confidence

namespace DifferIn

variable {confidence : Confidence} {request request' : SignInRequest}
  {configs configs' : ConfigStore}

/-- The configurations differ in nothing but what is kept in confidence. -/
theorem stores (h : DifferIn confidence request configs request' configs') :
    confidence.Stores configs configs' := by
  cases h with
  | password _ _ => rfl
  | username _ _ => rfl
  | bindPassword same => exact same

/-- There are the same complaints about both requests. -/
theorem complaints_eq (h : DifferIn confidence request configs request' configs') :
    request'.complaints = request.complaints := by
  have silent : ∀ label {text : String}, text ≠ "" → SignInRequest.complaintOf label text = [] :=
    fun label text present => (SignInRequest.complaintOf_eq_nil_iff label text).mpr present
  cases h with
  | password present present' =>
    simp only [SignInRequest.complaints, SignInRequest.usernameComplaint,
      SignInRequest.passwordComplaint, SignInRequest.providerComplaint, silent _ present,
      silent _ present']
  | username present present' =>
    have nonempty : ∀ {username : String}, Text.trim username ≠ "" → username ≠ "" := by
      rintro _ present rfl
      exact present rfl
    simp only [SignInRequest.complaints, SignInRequest.usernameComplaint,
      SignInRequest.passwordComplaint, SignInRequest.providerComplaint, silent _ (nonempty present),
      silent _ (nonempty present')]
  | bindPassword _ => rfl

/-- Both usernames are blank or neither is. -/
theorem isBlankText_eq (h : DifferIn confidence request configs request' configs') :
    Text.isBlankText request.username = Text.isBlankText request'.username := by
  cases h with
  | password _ _ => rfl
  | username present present' =>
    rw [ne_eq, Text.trim_eq_empty_iff, Bool.not_eq_true] at present present'
    rw [present, present']
  | bindPassword _ => rfl

/-- Requests that differ in what is kept in confidence are served by the coupling. -/
theorem serves (h : DifferIn confidence request configs request' configs')
    (surroundings : Surroundings δ) (ignores : surroundings.IgnoresArguments)
    (settings : Settings) (tenant : TenantId) :
    (Coupling.ofDifference confidence surroundings ignores).Serves settings tenant request
      request' where
  provider_eq := by cases h <;> rfl
  check_eq := by
    unfold SignInRequest.check
    rw [h.complaints_eq]
  username_blank := h.isBlankText_eq
  password_empty := by
    cases h with
    | password present present' => exact iff_of_false present present'
    | username _ _ => rfl
    | bindPassword _ => rfl
  lookup := by
    intro s t hst
    exact hst.getConfig surroundings tenant request.provider
  target := by
    intro config config' hconfigs
    have same : Target.ofConfig config settings = Target.ofConfig config' settings :=
      hconfigs.eq_of_blind (Target.ofConfig · settings) fun _ => rfl
    have hostname : config.hostname = config'.hostname := hconfigs.eq_of_blind _ fun _ => rfl
    rw [same, hostname]
    exact paired_self _ (fun _ => ⟨rfl, fun _ => .inl rfl⟩) fun _ => ⟨rfl, rfl⟩
  serviceBind := by
    intro config config' calls hconfigs connecting
    have dn : config.bindUsername = config'.bindUsername := hconfigs.eq_of_blind _ fun _ => rfl
    cases confidence with
    | password =>
      obtain rfl : config = config' := hconfigs
      exact .inl rfl
    | username =>
      obtain rfl : config = config' := hconfigs
      exact .inl rfl
    | bindPassword =>
      rw [dn]
      exact .inr (.bindPassword connecting)
  search := by
    intro config config' hconfigs calls attributes
    have base : config.rootDn = config'.rootDn := hconfigs.eq_of_blind _ fun _ => rfl
    have scope : config.scope = config'.scope := hconfigs.eq_of_blind _ fun _ => rfl
    have filter : ∀ username, Filter.forUser config username = Filter.forUser config' username :=
      fun username => hconfigs.eq_of_blind (Filter.forUser · username) fun _ => rfl
    rw [base, scope, filter]
    cases h with
    | username _ _ => exact .inr .username
    | password _ _ => exact .inl rfl
    | bindPassword _ => exact .inl rfl
  userBind := by
    intro calls searching dn
    cases h with
    | password _ _ => exact .inr (.password searching)
    | username _ _ => exact .inl rfl
    | bindPassword _ => exact .inl rfl
  attributes hconfigs := hconfigs.eq_of_blind _ fun _ => rfl
  profile hconfigs entry := hconfigs.eq_of_blind (Profile.ofEntry · entry) fun _ => rfl

end DifferIn

/-! ## Operations -/

/-- Nothing can be seen of what two runs differ in, but in the calls that the directory got: they
have the same result, leave the same accounts, end at the same time, and log the same events. -/
structure Confidence.Keeps (confidence : Confidence) (one two : Run (Memory δ) α) : Prop where
  result : one.result = two.result
  users : one.after.state.users = two.after.state.users
  clock : one.after.clock = two.after.clock
  events : one.events = two.events
  calls : confidence.Traces one.calls two.calls

namespace Service

/-- Let two runs of an operation differ in nothing but the submitted password, the submitted
username, or the passwords of service accounts.  Before a directory that does not look at the
arguments of its calls, nothing can be seen of the difference, but in the passwords of the binds of
the user, in the filters of the searches, or in the passwords of the binds of the service
account. -/
theorem keeps_confidence (service : Service) (context : Context) {confidence : Confidence}
    {request request' : SignInRequest} {configs configs' : ConfigStore}
    (differ : DifferIn confidence request configs request' configs')
    {surroundings : Surroundings δ} (ignores : surroundings.IgnoresArguments) (clock : Nat)
    (users : UserStore) (outside : δ) :
    let run {ε α : Type} (task : Task ε α) (configs : ConfigStore) :=
      task.run.run surroundings.withMemory ⟨clock, configs, users, outside⟩
    confidence.Keeps (run (service.signIn context request) configs)
        (run (service.signIn context request') configs') ∧
      confidence.Keeps
        (run (service.verify context request.provider request.username request.password) configs)
        (run (service.verify context request'.provider request'.username request'.password)
          configs') ∧
      confidence.Keeps
        (run (service.readProfile context request.provider request.username) configs)
        (run (service.readProfile context request'.provider request'.username) configs') ∧
      confidence.Keeps (run (service.checkProvider context request.provider) configs)
        (run (service.checkProvider context request'.provider) configs') := by
  intro run
  let coupling := Coupling.ofDifference confidence surroundings ignores
  have serves := differ.serves surroundings ignores service.settings context.tenant.id
  have closes : coupling.Closes coupling.alike :=
    Coupling.closes_alike (fun _ => .inl rfl) (by rintro url _ e _ rfl rfl; rfl)
  have begun : confidence.Alike (.begin ⟨clock, configs, users, outside⟩)
      (.begin ⟨clock, configs', users, outside⟩) :=
    ⟨rfl, differ.stores, rfl, rfl, rfl, .begin⟩
  have kept : ∀ {ε α : Type} {task task' : Task ε α},
      Task.EndAlike coupling.toComparison coupling.alike task task' coupling.alike →
        confidence.Keeps (run task configs) (run task' configs') := by
    intro ε α task task' alike
    obtain ⟨same, ended⟩ := alike.run begun trivial
    exact ⟨same, ended.users, ended.clock, ended.events, ended.calls⟩
  have reconciles : ∀ profile, Task.EndAlike coupling.toComparison coupling.alike
      (Reconciliation.reconcile context.tenant request.provider profile)
      (Reconciliation.reconcile context.tenant request.provider profile) coupling.alike := by
    intro profile
    refine Coupling.reconcile ?_ ?_ context.tenant request.provider profile
    · intro s t hst call onAccounts
      exact Confidence.Alike.onAccounts hst surroundings onAccounts
    · intro s t hst
      exact Confidence.Alike.drawUserId hst surroundings
  rw [serves.provider_eq]
  refine ⟨kept ?_, kept ?_, kept ?_, kept ?_⟩
  · exact Coupling.signIn serves closes (fun _ _ hst => hst) reconciles
  · exact Coupling.verify serves closes
  · exact Coupling.readProfile serves closes
  · exact Coupling.checkProvider serves closes

/-- Two passwords of which a directory takes either are told apart by the calls it got. -/
theorem keeps_confidence_sample :
    let memory := Memory.sample (.finding [[.sample "ada"], [.sample "ada"]])
    let guess : SignInRequest := { SignInRequest.sample with password := "guess" }
    let run (request : SignInRequest) := (Service.sample.signIn .sample request).run.run
      Script.surroundings.withMemory ⟨0, memory⟩
    DifferIn .password .sample memory.configs guess memory.configs ∧
      Script.surroundings.IgnoresArguments ∧
      Confidence.password.Keeps (run .sample) (run guess) ∧
      (run .sample).result.toOption.isSome ∧ (run .sample).calls ≠ (run guess).calls := by
  intro memory guess run
  have differ : DifferIn .password .sample memory.configs guess memory.configs :=
    .password (by decide) (by decide)
  refine ⟨differ, Script.ignoresArguments, ?_, by decide +kernel, by decide +kernel⟩
  exact (keeps_confidence .sample .sample differ Script.ignoresArguments 0 memory.users
    memory.outside).1

end Service

end DirectorySignIn
