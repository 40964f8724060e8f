import DirectorySignIn.Proofs.Program.Outcome
import DirectorySignIn.Proofs.Provider.Reached
import DirectorySignIn.Proofs.SignIn.Bracketing
import DirectorySignIn.Proofs.SignIn.Coupling
import DirectorySignIn.Proofs.SignIn.Hurdles

/-!
# Statuses of providers

A provider may be disabled, and then a sign-in page does not offer it.  A sign-in asks for the
configuration by its key, though, and nothing that it does after that looks at the status.  So it
makes no difference to anybody who knows the key.

Main results:

- `Service.signIn_restate`: a sign-in comes to the same result whatever the statuses are.
- `Service.signIn_offers_iff`: the provider through which someone was signed in is one of the
  tenant's, and it is offered exactly if it is enabled; `Service.signIn_disabled` is a sign-in
  through one that is not.
-/

namespace DirectorySignIn

variable {σ δ α : Type}

/-! ## Other statuses -/

/-- A choice of statuses. -/
abbrev Statuses : Type :=
  ProviderConfig → ProviderStatus

/-- The same configuration with the status that is chosen for it. -/
def ProviderConfig.restate (config : ProviderConfig) (statuses : Statuses) : ProviderConfig :=
  { config with status := statuses config }

/-- The same configurations with the statuses that are chosen for them. -/
def ConfigStore.restate (store : ConfigStore) (statuses : Statuses) : ConfigStore :=
  ⟨fun tenant => (store.ofTenant tenant).map (·.restate statuses)⟩

/-- The same stores with other statuses. -/
def Memory.restate (memory : Memory δ) (statuses : Statuses) : Memory δ :=
  { memory with configs := memory.configs.restate statuses }

/-- A configuration is found under its key whatever the statuses are. -/
theorem ConfigStore.get?_restate (store : ConfigStore) (statuses : Statuses) (tenant : TenantId)
    (provider : String) :
    (store.restate statuses).get? tenant provider =
      (store.get? tenant provider).map (·.restate statuses) :=
  List.find?_map ..

/-! ## The coupling -/

namespace Surroundings

variable (surroundings : Surroundings δ) (statuses : Statuses)

/-- Runs against the same stores but for the statuses of the providers. -/
def restating : Coupling (Memory δ) (Memory δ) where
  left := surroundings.withMemory
  right := surroundings.withMemory
  granted _ _ := True
  granted_of_append _ := trivial
  alike s t := t.moment = ⟨s.moment.clock, s.moment.state.restate statuses⟩
  events := (· = ·)
  errors := (· = ·)
  urls := (· = ·)
  configs config config' := config' = config.restate statuses
  calls _ call call' := call = call'
  events_refl _ := rfl
  errors_congruence := DirectoryError.congruence_eq
  events_failure := LogEvent.failure_congr
  clock_eq {s t} hst := by rw [hst]
  readClock hst := hst
  log hst _ := hst
  directory := by
    rintro s t call _ hst rfl limit
    have asked : surroundings.withMemory.directory call t.moment.state =
        let (response, after) := surroundings.withMemory.directory call s.moment.state
        (response, after.restate statuses) := by
      rw [hst]
      rfl
    refine ⟨?_, ?_, ?_⟩
    · rw [Progress.act_moment, Progress.act_moment, hst]
      rfl
    · rw [asked]
    · rw [asked]
      exact paired_self _ (fun _ => rfl) fun _ => rfl

/-- Calls on the accounts are answered alike whatever the statuses are. -/
theorem store_restate {call : StoreCall} (onAccounts : (Call.store call).isOnAccounts = true)
    (memory : Memory δ) :
    surroundings.withMemory.store call (memory.restate statuses) =
      let (reply, after) := surroundings.withMemory.store call memory
      (reply, after.restate statuses) := by
  have answered := surroundings.store_of_isOnAccounts onAccounts memory
    (memory.configs.restate statuses)
  have kept := surroundings.configs_store call memory
  dsimp only [Memory.restate]
  rw [answered, kept]

/-- A provider is found whatever the statuses are. -/
theorem store_getConfig_restate (tenant : TenantId) (provider : String) (memory : Memory δ) :
    surroundings.withMemory.store (.getConfig tenant provider) (memory.restate statuses) =
      let (reply, after) := surroundings.withMemory.store (.getConfig tenant provider) memory
      (reply.map (Option.map (·.restate statuses)), after.restate statuses) := by
  rw [withMemory_store, withMemory_store]
  dsimp only [Memory.restate]
  rcases surroundings.failure (.getConfig tenant provider) memory.outside with ⟨failure, outside⟩
  cases failure with
  | some e => rfl
  | none =>
    have found := memory.configs.get?_restate statuses tenant provider
    simp only [Memory.answer, found, Except.map]

/-- A request is served alike whatever the statuses of the providers. -/
theorem restating_serves (settings : Settings) (tenant : TenantId) (request : SignInRequest) :
    (surroundings.restating statuses).Serves settings tenant request request where
  provider_eq := rfl
  check_eq := rfl
  username_blank := rfl
  password_empty := Iff.rfl
  lookup := by
    intro s t hst
    have answered := surroundings.store_getConfig_restate statuses tenant request.provider
      s.moment.state
    refine ⟨?_, ?_⟩
    · change (t.act surroundings.withMemory _).moment = _
      rw [Progress.act_moment, hst, Environment.reply_store, answered]
      rfl
    · have replied : (surroundings.withMemory.store (.getConfig tenant request.provider)
          t.moment.state).1 = (surroundings.withMemory.store (.getConfig tenant request.provider)
            s.moment.state).1.map (Option.map (·.restate statuses)) := by
        rw [hst, answered]
      change Paired (Option.Rel fun config config' => config' = config.restate statuses) (· = ·)
        (surroundings.withMemory.store (.getConfig tenant request.provider) s.moment.state).1
        (surroundings.withMemory.store (.getConfig tenant request.provider) t.moment.state).1
      rw [replied]
      match (surroundings.withMemory.store (.getConfig tenant request.provider)
        s.moment.state).1 with
      | .error e => exact .error rfl
      | .ok none => exact .ok .none
      | .ok (some config) => exact .ok (.some rfl)
  target := by
    rintro config _ rfl
    exact paired_self _ (fun target => ⟨rfl, fun _ => rfl⟩) fun _ => ⟨rfl, rfl⟩
  serviceBind := by
    rintro config _ calls rfl _
    rfl
  search := by
    rintro config _ rfl calls attributes
    rfl
  userBind _ _ := rfl
  attributes := by
    rintro config _ rfl
    rfl
  profile := by
    rintro config _ rfl entry
    rfl

/-- Sessions are closed alike whatever the statuses of the providers. -/
theorem restating_closes :
    (surroundings.restating statuses).Closes (surroundings.restating statuses).alike := by
  refine Coupling.closes_alike (fun _ => rfl) ?_
  rintro url _ e _ rfl rfl
  rfl

/-- A reconciliation ends alike whatever the statuses of the providers. -/
theorem restating_reconcile (tenant : Tenant) (provider : String) (profile : Profile) :
    Task.EndAlike (surroundings.restating statuses).toComparison
      (surroundings.restating statuses).alike (Reconciliation.reconcile tenant provider profile)
      (Reconciliation.reconcile tenant provider profile)
      (surroundings.restating statuses).alike := by
  refine Coupling.reconcile ?_ ?_ tenant provider profile
  · intro s t hst call onAccounts
    have answered := surroundings.store_restate statuses onAccounts s.moment.state
    refine ⟨?_, ?_⟩
    · change _ = (surroundings.withMemory.store call t.moment.state).1
      rw [hst, answered]
      rfl
    · change (t.act surroundings.withMemory _).moment = _
      rw [Progress.act_moment, hst, Environment.reply_store, answered]
      rfl
  · intro s t hst
    refine ⟨?_, ?_⟩
    · change _ = (surroundings.withMemory.drawUserId t.moment.state).1
      rw [hst]
      rfl
    · change (t.act surroundings.withMemory _).moment = _
      rw [Progress.act_moment, hst]
      rfl

end Surroundings

/-! ## Offered providers -/

namespace ConfigStore

variable {store : ConfigStore} {tenant : TenantId} {provider : String} {config : ProviderConfig}

/-- The provider of a configuration is among the enabled ones exactly if it is enabled. -/
theorem KeysDistinct.offers_iff (distinct : store.KeysDistinct)
    (found : store.get? tenant provider = some config) :
    (∃ option ∈ ((store.ofTenant tenant).map ProviderConfig.option).filter (·.isEnabled),
      option.provider = provider) ↔ config.status = .enabled := by
  obtain ⟨stored, key_eq⟩ := of_get?_eq_some found
  constructor
  · rintro ⟨option, offered, option_key⟩
    obtain ⟨listed, enabled⟩ := List.mem_filter.mp offered
    obtain ⟨other, otherStored, rfl⟩ := List.mem_map.mp listed
    have otherFound := distinct.get?_eq_some_iff.mpr ⟨otherStored, option_key⟩
    obtain rfl := Option.some.inj (otherFound.symm.trans found)
    exact beq_iff_eq.mp enabled
  · intro enabled
    refine ⟨config.option, List.mem_filter.mpr ⟨List.mem_map_of_mem stored, ?_⟩, key_eq⟩
    exact beq_iff_eq.mpr enabled

end ConfigStore

/-! ## Sign-ins -/

namespace Service

variable (service : Service) (context : Context) (request : SignInRequest)

/-- A sign-in comes to the same result, and to the same stores but for the statuses, whatever the
statuses of the providers are. -/
theorem signIn_restate (statuses : Statuses) (surroundings : Surroundings δ) (clock : Nat)
    (memory : Memory δ) :
    let run := (service.signIn context request).run.run surroundings.withMemory ⟨clock, memory⟩
    let restated := (service.signIn context request).run.run surroundings.withMemory
      ⟨clock, memory.restate statuses⟩
    restated.result = run.result ∧
      restated.after = ⟨run.after.clock, run.after.state.restate statuses⟩ := by
  intro run restated
  have signedIn := Coupling.signIn
    (surroundings.restating_serves statuses service.settings context.tenant.id request)
    (surroundings.restating_closes statuses) (fun _ _ hst => hst)
    (surroundings.restating_reconcile statuses context.tenant request.provider)
  have begun : (surroundings.restating statuses).alike (.begin ⟨clock, memory⟩)
      (.begin ⟨clock, memory.restate statuses⟩) := rfl
  obtain ⟨same, ended⟩ := signedIn.run begun trivial
  exact ⟨same.symm, ended⟩

/-- Whoever was signed in through a provider was so by a configuration in the store. -/
theorem exists_config_of_signIn {environment : Environment σ} {begun : Moment σ}
    {signedIn : SignedIn}
    (succeeded : ((service.signIn context request).run.run environment begun).result =
      .ok signedIn) :
    ∃ config, (environment.store (.getConfig context.tenant.id request.provider) begun.state).1 =
      .ok (some config) := by
  obtain ⟨later, done⟩ := (Task.result_eq_ok_iff _ _).mp succeeded
  unfold signIn at done
  obtain ⟨_, _, checked, rest⟩ := (Task.succeeds_bind _ _ _).mp done
  obtain ⟨-, rfl⟩ := (Task.succeeds_ofExcept _ _).mp checked
  obtain ⟨_, _, hidden, -⟩ := (Task.succeeds_bind _ _ _).mp rest
  have verified := (Task.succeeds_adapt _ _ _).mp hidden
  unfold verify at verified
  by_cases missing : (Text.isBlankText request.username || request.password == "") = true
  · rw [if_pos missing] at verified
    simp at verified
  · rw [if_neg missing] at verified
    obtain ⟨session, _, _, started, -⟩ := (Session.succeeds_within _ _ _ _ _ _).mp verified
    have established := (Session.succeeds_start_iff _ _ _ _).mp started
    exact ⟨session.config, established.config_found⟩

/-- The providers that are offered are the enabled ones in the store. -/
theorem eq_of_activeProviders {surroundings : Surroundings δ} {moment : Moment (Memory δ)}
    {options : List ProviderOption}
    (listed : ((service.activeProviders context).run.run surroundings.withMemory moment).result =
      .ok options) :
    options = ((moment.state.configs.ofTenant context.tenant.id).map ProviderConfig.option).filter
      (·.isEnabled) := by
  obtain ⟨later, done⟩ := (Task.result_eq_ok_iff _ _).mp listed
  unfold activeProviders Catalog.active Catalog.all at done
  simp only [Task.succeeds_bind, Task.succeeds_pure] at done
  obtain ⟨_, _, ⟨configs, _, asked, rfl, -⟩, rfl, -⟩ := done
  obtain ⟨answered, -⟩ := (Task.succeeds_store _ _).mp asked
  rcases surroundings.store_cases (.listConfigs context.tenant.id) moment.state with
    ⟨e, outside, h⟩ | ⟨outside, h⟩
  · rw [h] at answered
    cases answered
  · rw [h] at answered
    cases answered
    rfl

/-- For every store of configurations that was filled by storing one after the other: whoever is
signed in is so through a provider of the tenant, which is offered at that moment exactly if it is
enabled; and would have been signed in with the same outcome whatever the statuses were. -/
theorem signIn_offers_iff (surroundings : Surroundings δ) (clock : Nat) (memory : Memory δ)
    (reached : memory.configs.Reached) (signedIn : SignedIn) :
    let run := (service.signIn context request).run.run surroundings.withMemory ⟨clock, memory⟩
    run.result = .ok signedIn →
      (∃ config, run.after.state.configs.get? context.tenant.id request.provider = some config ∧
        ∀ options,
          ((service.activeProviders context).run.run surroundings.withMemory run.after).result =
            .ok options →
          ((∃ option ∈ options, option.provider = request.provider) ↔ config.status = .enabled)) ∧
      ∀ statuses, ((service.signIn context request).run.run surroundings.withMemory
        ⟨clock, memory.restate statuses⟩).result = .ok signedIn := by
  intro run succeeded
  have kept : run.after.state.configs = memory.configs :=
    Program.configs_run surroundings _ ⟨clock, memory⟩
  refine ⟨?_, fun statuses => ?_⟩
  · obtain ⟨config, answered⟩ := service.exists_config_of_signIn context request succeeded
    have found : memory.configs.get? context.tenant.id request.provider = some config := by
      rcases surroundings.store_cases (.getConfig context.tenant.id request.provider) memory with
        ⟨e, outside, h⟩ | ⟨outside, h⟩
      · rw [h] at answered
        cases answered
      · rw [h] at answered
        exact Except.ok.inj answered
    refine ⟨config, ?_, fun options listed => ?_⟩
    · rw [kept]
      exact found
    · rw [service.eq_of_activeProviders context listed, kept]
      exact reached.keysDistinct.offers_iff found
  · rw [(service.signIn_restate context request statuses surroundings clock memory).1]
    exact succeeded

/-- Someone is signed in through a provider that is enabled and offered. -/
theorem signIn_offers_iff_sample :
    let memory : Memory Script := ⟨ConfigStore.empty.upsert Context.sample.tenant.id .sample,
      .empty, .finding [[.sample "ada"], [.sample "ada"]]⟩
    let run := (Service.sample.signIn .sample .sample).run.run Script.surroundings.withMemory
      ⟨0, memory⟩
    memory.configs.Reached ∧ ∃ signedIn, run.result = .ok signedIn ∧
      ∃ config,
        run.after.state.configs.get? Context.sample.tenant.id SignInRequest.sample.provider =
          some config ∧
        ∀ options,
          ((Service.sample.activeProviders .sample).run.run Script.surroundings.withMemory
            run.after).result = .ok options →
          ((∃ option ∈ options, option.provider = SignInRequest.sample.provider) ↔
            config.status = .enabled) := by
  intro memory run
  have reached : memory.configs.Reached := .upsert .empty _ _
  have succeeded : run.result.toOption.isSome = true := by decide +kernel
  cases signed : run.result with
  | error e => rw [signed] at succeeded; contradiction
  | ok signedIn =>
    obtain ⟨offered, -⟩ := signIn_offers_iff .sample .sample .sample Script.surroundings 0 memory
      reached signedIn signed
    exact ⟨reached, signedIn, rfl, offered⟩

/-- Someone is signed in through a provider that is disabled, while none is offered. -/
theorem signIn_disabled :
    let disabled : ProviderConfig := { ProviderConfig.sample with status := .disabled }
    let memory : Memory Script := ⟨ConfigStore.empty.upsert Context.sample.tenant.id disabled,
      .empty, .finding [[.sample "ada"], [.sample "ada"]]⟩
    let run := (Service.sample.signIn .sample .sample).run.run Script.surroundings.withMemory
      ⟨0, memory⟩
    memory.configs.Reached ∧ run.result.toOption.isSome = true ∧
      ((Service.sample.activeProviders .sample).run.run Script.surroundings.withMemory
        run.after).result.toOption = some [] := by
  intro disabled memory run
  exact ⟨.upsert .empty _ _, by decide +kernel, by decide +kernel⟩

end Service

end DirectorySignIn
