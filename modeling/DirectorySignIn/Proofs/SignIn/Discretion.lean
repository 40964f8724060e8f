import DirectorySignIn.Program.Script
import DirectorySignIn.Proofs.SignIn.Bracketing
import DirectorySignIn.Proofs.SignIn.Coupling
import Mathlib.Data.List.Forall2

/-!
# What failures do not tell

The failures of a directory carry texts for the operator: host names, URLs, distinguished names and
what a server says of itself.  Two runs are compared before directories whose failures differ in
these texts, with providers that differ in their host names.  Nothing of the difference gets to the
user, into the accounts, or into the time that is taken.

Main results:

- `DirectoryError.sameKind_congruence`: failures of one kind are reduced to one public error.
- `Script.alikeButTexts`: scripts that differ in the texts of failures make such directories.
- `Service.keeps_discretion`: operations tell nobody but the operator what a failure says.
-/

namespace DirectorySignIn

variable {δ δ' α : Type}

/-! ## Failures of one kind -/

namespace DirectoryError

/-- A failure without its text. -/
def withoutText : DirectoryError → DirectoryError
  | invalidUrl _ => invalidUrl ""
  | dial _ => dial ""
  | startTls _ => startTls ""
  | transport _ => transport ""
  | tls _ => tls ""
  | bind _ => bind ""
  | serviceBind _ => serviceBind ""
  | search _ => search ""
  | userNotFound matchCount => userNotFound matchCount
  | userBind _ => userBind ""
  | timeout _ => timeout ""
  | deadline => deadline
  | protocol _ => protocol ""

/-- Two failures differ in nothing but their texts. -/
def SameKind (e e' : DirectoryError) : Prop :=
  e.withoutText = e'.withoutText

/-- It can be told that the service bind was rejected before or after the text of the failure is
left out. -/
theorem withoutText_atServiceBind (e : DirectoryError) :
    e.atServiceBind.withoutText = e.withoutText.atServiceBind := by
  cases e <;> rfl

/-- So it can be told that a user's bind was rejected. -/
theorem withoutText_atUserBind (e : DirectoryError) :
    e.atUserBind.withoutText = e.withoutText.atUserBind := by
  cases e <;> rfl

/-- The public error does not look at the text. -/
theorem toPublic_withoutText (e : DirectoryError) (provider : String) :
    e.withoutText.toPublic provider = e.toPublic provider := by
  cases e <;> rfl

/-- Neither does the public error of a check. -/
theorem toCheckFailure_withoutText (e : DirectoryError) (provider : String) :
    e.withoutText.toCheckFailure provider = e.toCheckFailure provider := by
  cases e <;> rfl

/-- Failures of one kind stay so when they are relabelled, and are reduced to one public error. -/
theorem sameKind_congruence : Congruence SameKind where
  refl _ := rfl
  atServiceBind {e e'} h := by
    unfold SameKind at *
    rw [withoutText_atServiceBind, withoutText_atServiceBind, h]
  atUserBind {e e'} h := by
    unfold SameKind at *
    rw [withoutText_atUserBind, withoutText_atUserBind, h]
  toPublic {e e'} h provider := by
    rw [← toPublic_withoutText e, ← toPublic_withoutText e', h]
  toCheckFailure {e e'} h provider := by
    rw [← toCheckFailure_withoutText e, ← toCheckFailure_withoutText e', h]

end DirectoryError

/-! ## Other hosts -/

/-- Two configurations differ in nothing but their host names, and either name makes a URL. -/
inductive ProviderConfig.SameButHostname : ProviderConfig → ProviderConfig → Prop
  | refl (config : ProviderConfig) : SameButHostname config config
  | moved (config : ProviderConfig) (hostname : String)
      (valid : (Target.urlOf config).isOk = true)
      (valid' : (Target.urlOf { config with hostname }).isOk = true) :
      SameButHostname config { config with hostname }

/-- Two stores hold the same configurations but for their host names. -/
def ConfigStore.SameButHostnames (store store' : ConfigStore) : Prop :=
  ∀ tenant, List.Forall₂ ProviderConfig.SameButHostname (store.ofTenant tenant)
    (store'.ofTenant tenant)

/-- Two calls on a directory differ in nothing but the URL that is connected to. -/
inductive DirectoryCall.SameButUrl : DirectoryCall → DirectoryCall → Prop
  | refl (call : DirectoryCall) : SameButUrl call call
  | connect (target : Target) (url : Url) :
      SameButUrl (.connect target) (.connect { target with url })

/-- What does not look at the host name is the same. -/
theorem ProviderConfig.SameButHostname.eq_of_blind {β : Type} {config config' : ProviderConfig}
    (h : config.SameButHostname config') (f : ProviderConfig → β)
    (blind : ∀ config hostname, f { config with hostname } = f config) : f config = f config' := by
  cases h with
  | refl => rfl
  | moved hostname _ _ => exact (blind config hostname).symm

/-- A provider is found under its key whatever its host is called. -/
theorem ConfigStore.SameButHostnames.get? {store store' : ConfigStore}
    (h : store.SameButHostnames store') (tenant : TenantId) (provider : String) :
    Option.Rel ProviderConfig.SameButHostname (store.get? tenant provider)
      (store'.get? tenant provider) := by
  have found : ∀ {configs configs' : List ProviderConfig},
      List.Forall₂ ProviderConfig.SameButHostname configs configs' →
        Option.Rel ProviderConfig.SameButHostname
          (configs.find? fun config => config.provider == provider)
          (configs'.find? fun config => config.provider == provider) := by
    intro configs configs' listed
    induction listed with
    | nil => exact .none
    | @cons config config' rest rest' same _ ih =>
      have key_eq : config.provider = config'.provider := same.eq_of_blind _ fun _ _ => rfl
      rw [List.find?_cons, List.find?_cons, key_eq]
      cases config'.provider == provider with
      | true => exact .some same
      | false => exact ih
  exact found (h tenant)

/-- Either host makes a target, and the targets differ in nothing but their URLs. -/
theorem ProviderConfig.SameButHostname.targets {config config' : ProviderConfig}
    (h : config.SameButHostname config') (settings : Settings) :
    Paired (fun target target' => DirectoryCall.SameButUrl (.connect target) (.connect target'))
      (· = ·) (Target.ofConfig config settings) (Target.ofConfig config' settings) := by
  cases h with
  | refl => exact paired_self _ (fun target => .refl _) fun _ => rfl
  | moved hostname valid valid' =>
    unfold Target.ofConfig
    cases left : Target.urlOf config with
    | error e =>
      rw [left] at valid
      contradiction
    | ok url =>
      cases right : Target.urlOf { config with hostname } with
      | error e =>
        rw [right] at valid'
        contradiction
      | ok url' => exact .ok (.connect _ url')

/-! ## Directories that differ in texts -/

/-- In states that are related, everything outside of the stores does the same to calls that differ
in the URL at most, but for the texts of failures, and the states stay related. -/
structure Surroundings.AlikeButTexts (left : Surroundings δ) (right : Surroundings δ')
    (related : δ → δ' → Prop) : Prop where
  failure : ∀ {s t}, related s t → ∀ call,
    (left.failure call s).1 = (right.failure call t).1 ∧
      related (left.failure call s).2 (right.failure call t).2
  directory : ∀ {s t call call'}, related s t → DirectoryCall.SameButUrl call call' →
    (left.directory call s).1.latency = (right.directory call' t).1.latency ∧
      Paired (fun a a' => call.entries a = call'.entries a') DirectoryError.SameKind
        (left.directory call s).1.outcome (right.directory call' t).1.outcome ∧
      related (left.directory call s).2 (right.directory call' t).2
  drawUserId : ∀ {s t}, related s t →
    (left.drawUserId s).1 = (right.drawUserId t).1 ∧
      related (left.drawUserId s).2 (right.drawUserId t).2

/-- Two reactions differ in nothing but the texts of failures. -/
structure Reaction.SameButText (reaction reaction' : Reaction) : Prop where
  latency : reaction.latency = reaction'.latency
  error : Option.Rel DirectoryError.SameKind reaction.error reaction'.error
  entries : reaction.entries = reaction'.entries

/-- Two scripts differ in nothing but the texts of failures. -/
structure Script.SameButTexts (script script' : Script) : Prop where
  failures : script.failures = script'.failures
  reactions : ∀ method, List.Forall₂ Reaction.SameButText (script.reactions method)
    (script'.reactions method)
  drawn : script.drawn = script'.drawn

/-- Reactions that differ in texts alone give paired responses. -/
theorem Reaction.SameButText.paired_response {reaction reaction' : Reaction}
    (h : reaction.SameButText reaction') {call call' : DirectoryCall}
    (same : DirectoryCall.SameButUrl call call') :
    Paired (fun a a' => call.entries a = call'.entries a') DirectoryError.SameKind
      (reaction.response call).outcome (reaction'.response call').outcome := by
  obtain ⟨latency, error, entries⟩ := reaction
  obtain ⟨latency', error', entries'⟩ := reaction'
  obtain rfl : entries = entries' := h.entries
  have errors : Option.Rel DirectoryError.SameKind error error' := h.error
  cases errors with
  | some related => exact .error related
  | none =>
    refine .ok ?_
    cases same with
    | connect => rfl
    | refl => rfl

/-- The next reactions differ in nothing but texts, and so do the scripts after them. -/
theorem Script.SameButTexts.takeReaction {script script' : Script}
    (h : script.SameButTexts script') (method : DirectoryMethod) :
    (script.takeReaction method).1.SameButText (script'.takeReaction method).1 ∧
      (script.takeReaction method).2.SameButTexts (script'.takeReaction method).2 := by
  have heads : ∀ {reactions reactions'},
      List.Forall₂ Reaction.SameButText reactions reactions' →
        (reactions.head?.getD {}).SameButText (reactions'.head?.getD {}) ∧
          List.Forall₂ Reaction.SameButText reactions.tail reactions'.tail := by
    intro reactions reactions' related
    cases related with
    | nil => exact ⟨⟨rfl, .none, rfl⟩, .nil⟩
    | cons same rest => exact ⟨same, rest⟩
  obtain ⟨first, rest⟩ := heads (h.reactions method)
  refine ⟨first, h.failures, fun other => ?_, h.drawn⟩
  change List.Forall₂ _ (if other = method then _ else _) (if other = method then _ else _)
  by_cases asked : other = method
  · subst asked
    rw [if_pos rfl, if_pos rfl]
    exact rest
  · rw [if_neg asked, if_neg asked]
    exact h.reactions other

/-- Scripts that differ in the texts of failures make directories that do so. -/
theorem Script.alikeButTexts :
    Script.surroundings.AlikeButTexts Script.surroundings Script.SameButTexts where
  failure {s t} h call := by
    refine ⟨?_, ?_, h.reactions, h.drawn⟩
    · exact congrArg (fun failures => (failures call.method).head?.join) h.failures
    · simp only [Script.surroundings, Script.takeFailure, h.failures]
  directory {s t call call'} h same := by
    have kind : call.method = call'.method := by cases same <;> rfl
    obtain ⟨reaction, after⟩ := h.takeReaction call.method
    have answered := reaction.paired_response same
    simp only [Script.surroundings, ← kind]
    exact ⟨reaction.latency, answered, after⟩
  drawUserId {s t} h := by
    refine ⟨?_, h.failures, h.reactions, ?_⟩
    · exact congrArg Script.userId h.drawn
    · exact congrArg (· + 1) h.drawn

/-! ## The coupling -/

/-- The accounts alone settle the answer to a call on them. -/
theorem Memory.exists_answer_of_isOnAccounts {memory : Memory δ} {memory' : Memory δ'}
    (same : memory.users = memory'.users) {call : StoreCall}
    (onAccounts : (Call.store call).isOnAccounts = true) :
    ∃ reply users, memory.answer call = (reply, { memory with users }) ∧
      memory'.answer call = (reply, { memory' with users }) := by
  obtain ⟨configs, users, outside⟩ := memory
  obtain ⟨configs', _, outside'⟩ := memory'
  obtain rfl : users = _ := same
  have written : ∀ outcome : Except Error UserStore, ∃ reply after,
      (⟨configs, users, outside⟩ : Memory δ).afterWrite outcome =
          (reply, ⟨configs, after, outside⟩) ∧
        (⟨configs', users, outside'⟩ : Memory δ').afterWrite outcome =
          (reply, ⟨configs', after, outside'⟩) := by
    intro outcome
    cases outcome with
    | error e => exact ⟨_, _, rfl, rfl⟩
    | ok after => exact ⟨_, _, rfl, rfl⟩
  cases call with
  | getConfig | listConfigs => contradiction
  | findIdentity | findEmail => exact ⟨_, _, rfl, rfl⟩
  | register | attach => exact written _

namespace Surroundings.AlikeButTexts

variable {left : Surroundings δ} {right : Surroundings δ'} {related : δ → δ' → Prop}

/-- So far two runs differ in nothing but host names and texts. -/
structure Alike (related : δ → δ' → Prop) (s : Progress (Memory δ)) (t : Progress (Memory δ')) :
    Prop where
  clock : s.moment.clock = t.moment.clock
  configs : s.moment.state.configs.SameButHostnames t.moment.state.configs
  users : s.moment.state.users = t.moment.state.users
  outside : related s.moment.state.outside t.moment.state.outside

variable (h : left.AlikeButTexts right related)

include h

/-- Runs before directories whose failures differ in their texts.  What is logged is the operator's
own, so that nothing is asked of it. -/
def coupling : Coupling (Memory δ) (Memory δ') where
  left := left.withMemory
  right := right.withMemory
  granted _ _ := True
  granted_of_append _ := trivial
  alike := Alike related
  events _ _ := True
  errors := DirectoryError.SameKind
  urls _ _ := True
  configs := ProviderConfig.SameButHostname
  calls _ := DirectoryCall.SameButUrl
  events_refl _ := trivial
  errors_congruence := DirectoryError.sameKind_congruence
  events_failure _ _ := trivial
  clock_eq hst := hst.clock
  readClock hst := ⟨hst.clock, hst.configs, hst.users, hst.outside⟩
  log hst _ := ⟨hst.clock, hst.configs, hst.users, hst.outside⟩
  directory := by
    intro s t call call' hst same limit
    obtain ⟨latency, outcome, after⟩ := h.directory hst.outside same
    refine ⟨⟨?_, hst.configs, hst.users, after⟩, latency, outcome⟩
    change s.moment.clock + min _ limit = t.moment.clock + min _ limit
    rw [hst.clock]
    exact congrArg (t.moment.clock + min · limit) latency

variable {s : Progress (Memory δ)} {t : Progress (Memory δ')} (hst : Alike related s t)

include hst

/-- A call on the stores fails in both runs with the same failure, or is answered in both. -/
theorem store_cases (call : StoreCall) :
    ∃ outside outside', related outside outside' ∧
      ((∃ e, left.withMemory.store call s.moment.state =
            (.error e, { s.moment.state with outside }) ∧
          right.withMemory.store call t.moment.state =
            (.error e, { t.moment.state with outside := outside' })) ∨
        (left.withMemory.store call s.moment.state =
            { s.moment.state with outside }.answer call ∧
          right.withMemory.store call t.moment.state =
            { t.moment.state with outside := outside' }.answer call)) := by
  have one := left.withMemory_store call s.moment.state
  have two := right.withMemory_store call t.moment.state
  obtain ⟨failures, after⟩ := h.failure hst.outside call
  rcases failed : left.failure call s.moment.state.outside with ⟨failure, outside⟩
  rcases failed' : right.failure call t.moment.state.outside with ⟨failure', outside'⟩
  rw [failed] at one failures after
  rw [failed'] at two failures after
  obtain rfl : failure = failure' := failures
  refine ⟨outside, outside', after, ?_⟩
  cases failure with
  | some e => exact .inl ⟨e, one, two⟩
  | none => exact .inr ⟨one, two⟩

omit h in
/-- After calls on the stores two runs are still alike if the stores are. -/
theorem Alike.act_store {call : StoreCall} {reply reply' : Except Error call.Answer}
    {memory : Memory δ} {memory' : Memory δ'}
    (one : left.withMemory.store call s.moment.state = (reply, memory))
    (two : right.withMemory.store call t.moment.state = (reply', memory'))
    (configs : memory.configs.SameButHostnames memory'.configs)
    (users : memory.users = memory'.users) (outside : related memory.outside memory'.outside) :
    Alike related (s.act left.withMemory (.store call)) (t.act right.withMemory (.store call)) := by
  have clock := hst.clock
  refine ⟨clock, ?_, ?_, ?_⟩ <;>
    rw [Progress.act_moment, Progress.act_moment, Environment.reply_store,
      Environment.reply_store, one, two]
  · exact configs
  · exact users
  · exact outside

/-- A configuration is looked up in both runs. -/
theorem getConfig (tenant : TenantId) (provider : String) :
    let call := StoreCall.getConfig tenant provider
    Alike related (s.act left.withMemory (.store call)) (t.act right.withMemory (.store call)) ∧
      Paired (Option.Rel ProviderConfig.SameButHostname) (· = ·)
        (left.withMemory.store call s.moment.state).1
        (right.withMemory.store call t.moment.state).1 := by
  intro call
  obtain ⟨outside, outside', after, ⟨e, one, two⟩ | ⟨one, two⟩⟩ := h.store_cases hst call
  · refine ⟨hst.act_store one two hst.configs hst.users after, ?_⟩
    rw [one, two]
    exact .error rfl
  · refine ⟨hst.act_store one two hst.configs hst.users after, ?_⟩
    rw [one, two]
    exact .ok (hst.configs.get? tenant provider)

/-- The accounts are asked in both runs. -/
theorem onAccounts {call : StoreCall} (onAccounts : (Call.store call).isOnAccounts = true) :
    (left.withMemory.store call s.moment.state).1 =
        (right.withMemory.store call t.moment.state).1 ∧
      Alike related (s.act left.withMemory (.store call))
        (t.act right.withMemory (.store call)) := by
  obtain ⟨outside, outside', after, ⟨e, one, two⟩ | ⟨one, two⟩⟩ := h.store_cases hst call
  · refine ⟨?_, hst.act_store one two hst.configs hst.users after⟩
    rw [one, two]
  · have users : ({ s.moment.state with outside } : Memory δ).users =
        ({ t.moment.state with outside := outside' } : Memory δ').users := hst.users
    obtain ⟨reply, users, left_eq, right_eq⟩ :=
      Memory.exists_answer_of_isOnAccounts users onAccounts
    rw [left_eq] at one
    rw [right_eq] at two
    refine ⟨?_, hst.act_store one two hst.configs rfl after⟩
    rw [one, two]

/-- The same identifier is drawn in both runs. -/
theorem draw :
    (left.withMemory.drawUserId s.moment.state).1 =
        (right.withMemory.drawUserId t.moment.state).1 ∧
      Alike related (s.act left.withMemory .drawUserId) (t.act right.withMemory .drawUserId) := by
  obtain ⟨drawn, after⟩ := h.drawUserId hst.outside
  exact ⟨drawn, hst.clock, hst.configs, hst.users, after⟩

omit hst

/-- The coupling serves one and the same request on both sides. -/
theorem serves (settings : Settings) (tenant : TenantId) (request : SignInRequest) :
    h.coupling.Serves settings tenant request request where
  provider_eq := rfl
  check_eq := rfl
  username_blank := rfl
  password_empty := Iff.rfl
  lookup hst := h.getConfig hst tenant request.provider
  target := by
    intro config config' same
    refine (same.targets settings).mono ?_ ?_
    · exact fun target target' connect => ⟨trivial, fun _ => connect⟩
    · rintro e _ rfl
      exact ⟨rfl, trivial⟩
  serviceBind := by
    intro config config' calls same _
    cases same <;> exact .refl _
  search := by
    intro config config' same calls attributes
    cases same <;> exact .refl _
  userBind _ _ := .refl _
  attributes same := same.eq_of_blind _ fun _ _ => rfl
  profile same entry := same.eq_of_blind (Profile.ofEntry · entry) fun _ _ => rfl

/-- Sessions are closed alike on both sides. -/
theorem closes : h.coupling.Closes h.coupling.alike :=
  Coupling.closes_alike (fun _ => .refl _) fun _ _ => trivial

/-- A reconciliation ends alike on both sides. -/
theorem reconcile (tenant : Tenant) (provider : String) (profile : Profile) :
    Task.EndAlike h.coupling.toComparison h.coupling.alike
      (Reconciliation.reconcile tenant provider profile)
      (Reconciliation.reconcile tenant provider profile) h.coupling.alike :=
  Coupling.reconcile (fun hst _ onAccounts => h.onAccounts hst onAccounts) (fun hst => h.draw hst)
    tenant provider profile

end Surroundings.AlikeButTexts

/-! ## Operations -/

/-- Two runs have the same public outcome: they have the same result, leave the same accounts, and
end at the same time. -/
structure SamePublicly (one : Run (Memory δ) α) (two : Run (Memory δ') α) : Prop where
  result : one.result = two.result
  users : one.after.state.users = two.after.state.users
  clock : one.after.clock = two.after.clock

namespace Service

/-- Let two runs of an operation be made before directories that do the same but for the texts of
their failures, with configurations that are the same but for their host names, either of which
makes a URL.  Then they have the same result, leave the same accounts, and end at the same time. -/
theorem keeps_discretion (service : Service) (context : Context)
    (provider username password : String) (request : SignInRequest) {left : Surroundings δ}
    {right : Surroundings δ'} {related : δ → δ' → Prop}
    (alike : left.AlikeButTexts right related) {configs configs' : ConfigStore}
    (hosts : configs.SameButHostnames configs') {outside : δ} {outside' : δ'}
    (begun : related outside outside') (clock : Nat) (users : UserStore) :
    let one {ε α : Type} (task : Task ε α) :=
      task.run.run left.withMemory ⟨clock, configs, users, outside⟩
    let two {ε α : Type} (task : Task ε α) :=
      task.run.run right.withMemory ⟨clock, configs', users, outside'⟩
    SamePublicly (one (service.checkProvider context provider))
        (two (service.checkProvider context provider)) ∧
      SamePublicly (one (service.verify context provider username password))
        (two (service.verify context provider username password)) ∧
      SamePublicly (one (service.readProfile context provider username))
        (two (service.readProfile context provider username)) ∧
      SamePublicly (one (service.signIn context request))
        (two (service.signIn context request)) := by
  intro one two
  have same : ∀ {ε α : Type} (task : Task ε α),
      Task.EndAlike alike.coupling.toComparison alike.coupling.alike task task
        alike.coupling.alike → SamePublicly (one task) (two task) := by
    intro ε α task ended
    obtain ⟨result, after⟩ := ended.run
      (s := .begin ⟨clock, configs, users, outside⟩)
      (t := .begin ⟨clock, configs', users, outside'⟩) ⟨rfl, hosts, rfl, begun⟩ trivial
    exact ⟨result, after.users, after.clock⟩
  have serves := alike.serves service.settings context.tenant.id ⟨provider, username, password⟩
  have checked := Coupling.checkProvider serves alike.closes
  have verified := Coupling.verify serves alike.closes
  have profileRead := Coupling.readProfile serves alike.closes
  have signedIn := Coupling.signIn (alike.serves service.settings context.tenant.id request)
    alike.closes (fun _ _ hst => hst) (alike.reconcile context.tenant request.provider)
  exact ⟨same _ checked, same _ verified, same _ profileRead, same _ signedIn⟩

/-- Two directories that refuse a connection, each with a text of its own, are told apart by what is
logged alone. -/
theorem keeps_discretion_refused :
    let refusing (text : String) : Script :=
      { reactions := fun
          | .connect => [{ error := some (.dial text) }]
          | _ => [] }
    let here := Memory.sample (refusing "ldap.example.org: refused")
    let there : Memory Script :=
      { Memory.sample (refusing "10.0.0.7: no route") with
        configs := ⟨fun tenant =>
          if tenant = Context.sample.tenant.id then
            [{ ProviderConfig.sample with hostname := "10.0.0.7" }]
          else []⟩ }
    let run (memory : Memory Script) := (Service.sample.signIn .sample .sample).run.run
      Script.surroundings.withMemory ⟨0, memory⟩
    Script.surroundings.AlikeButTexts Script.surroundings Script.SameButTexts ∧
      here.configs.SameButHostnames there.configs ∧ here.outside.SameButTexts there.outside ∧
      SamePublicly (run here) (run there) ∧
      (run there).result = .error (.connectionFailed "ldap") ∧
      (run here).events ≠ (run there).events := by
  intro refusing here there run
  have hosts : here.configs.SameButHostnames there.configs := by
    intro tenant
    change List.Forall₂ _ (if _ then _ else _) (if _ then _ else _)
    by_cases own : tenant = Context.sample.tenant.id
    · rw [if_pos own, if_pos own]
      exact .cons (.moved _ _ (by decide +kernel) (by decide +kernel)) .nil
    · rw [if_neg own, if_neg own]
      exact .nil
  have scripts : here.outside.SameButTexts there.outside := by
    refine ⟨rfl, fun method => ?_, rfl⟩
    cases method with
    | connect => exact .cons ⟨rfl, .some rfl, rfl⟩ .nil
    | _ => exact .nil
  obtain ⟨-, -, -, signedIn⟩ := keeps_discretion .sample .sample "ldap" "ada" "ada-pw" .sample
    Script.alikeButTexts hosts scripts 0 .empty
  exact ⟨Script.alikeButTexts, hosts, scripts, signedIn, by decide +kernel, by decide +kernel⟩

end Service

end DirectorySignIn
