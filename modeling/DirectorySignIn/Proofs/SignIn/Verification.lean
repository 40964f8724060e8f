import DirectorySignIn.Proofs.SignIn.Session
import DirectorySignIn.SignIn.Service

/-!
# Verification of passwords

Who gets past the verification of a password, and what is done on the way.  Both are said without
the program: an admission is what the store and the directory have to answer, and the stages of a
verification say which call comes when.

Main results:

- `verify_eq_ok_iff`: a verification succeeds exactly if the store and the directory admit the
  user, whatever they are like and however long they take.
- `verify_sound_and_complete`: besides that, each call but the one that closes the session is made
  only after all calls before it succeeded.
-/

namespace DirectorySignIn

/-- What is verified, and for how long a directory is waited for. -/
structure Inquiry where
  settings : Settings
  context : Context
  provider : String
  username : String
  password : String

namespace Inquiry

/-- The budget of each call on the directory. -/
def budget (inquiry : Inquiry) : Budget :=
  ⟨inquiry.settings.operationTimeout, inquiry.context.deadline⟩

/-- The look-up of the configuration. -/
def lookup (inquiry : Inquiry) : StoreCall :=
  .getConfig inquiry.context.tenant.id inquiry.provider

/-- The bind of the service account. -/
def serviceBind (_inquiry : Inquiry) (config : ProviderConfig) : DirectoryCall :=
  .bind config.bindUsername config.bindPassword.reveal

/-- The search for the entry of the username. -/
def search (inquiry : Inquiry) (config : ProviderConfig) : DirectoryCall :=
  .search config.rootDn config.scope (Filter.forUser config inquiry.username)
    Service.noAttributes

/-- The bind of an entry with the password that was submitted. -/
def userBind (inquiry : Inquiry) (entry : Entry) : DirectoryCall :=
  .bind entry.dn inquiry.password

end Inquiry

variable {σ : Type}

/-! ## Admission -/

/-- What the store and the directory have to answer to let a user in: the store has the
configuration of the provider, it has a valid URL, and the directory grants in time a connection,
the bind of the service account, a search that finds exactly one entry, and the bind of that entry
with the password that was submitted. -/
structure Admission (environment : Environment σ) (inquiry : Inquiry) (begun : Moment σ) where
  config : ProviderConfig
  target : Target
  entry : Entry
  connected : Moment σ
  serviceBound : Moment σ
  searched : Moment σ
  userBound : Moment σ
  username_present : Text.trim inquiry.username ≠ ""
  password_present : inquiry.password ≠ ""
  config_found : (environment.store inquiry.lookup begun.state).1 = .ok (some config)
  url_valid : Target.ofConfig config inquiry.settings = .ok target
  connection_granted : inquiry.budget.Grants environment (.connect target)
    ⟨begun.clock, (environment.store inquiry.lookup begun.state).2⟩ () connected
  service_bind_granted : inquiry.budget.Grants environment (inquiry.serviceBind config)
    connected () serviceBound
  one_entry_found : inquiry.budget.Grants environment (inquiry.search config)
    serviceBound [entry] searched
  user_bind_granted : inquiry.budget.Grants environment (inquiry.userBind entry)
    searched () userBound

/-! ## Stages -/

/-- How far a verification has got. -/
inductive Stage where
  | begun
  | found (config : ProviderConfig) (target : Target)
  | connected (config : ProviderConfig)
  | serviceBound (config : ProviderConfig)
  | userFound (entry : Entry)
  | userBound

/-- The call by which a verification goes on from a stage. -/
def Inquiry.callAt? (inquiry : Inquiry) : Stage → Option Call
  | .begun => some (.store inquiry.lookup)
  | .found _ target => some (.directory (.connect target))
  | .connected config => some (.directory (inquiry.serviceBind config))
  | .serviceBound config => some (.directory (inquiry.search config))
  | .userFound entry => some (.directory (inquiry.userBind entry))
  | .userBound => none

/-- The calls that bring a verification to a stage.  Each of them succeeded within its time limit,
and the search found exactly one entry. -/
inductive Inquiry.Reaches (inquiry : Inquiry) : List Step → Stage → Prop
  | begin (username_present : Text.trim inquiry.username ≠ "")
      (password_present : inquiry.password ≠ "") :
      Reaches inquiry [] .begun
  | find {calls : List Step} {started : Nat} {config : ProviderConfig} {target : Target}
      (reached : Reaches inquiry calls .begun)
      (url_valid : Target.ofConfig config inquiry.settings = .ok target) :
      Reaches inquiry (calls ++ [⟨started, .store inquiry.lookup, .ok (some config)⟩])
        (.found config target)
  | connect {calls : List Step} {started limit : Nat} {config : ProviderConfig} {target : Target}
      (reached : Reaches inquiry calls (.found config target)) :
      Reaches inquiry (calls ++ [⟨started, .directory (.connect target) limit, some (.ok ())⟩])
        (.connected config)
  | bindService {calls : List Step} {started limit : Nat} {config : ProviderConfig}
      (reached : Reaches inquiry calls (.connected config)) :
      Reaches inquiry
        (calls ++ [⟨started, .directory (inquiry.serviceBind config) limit, some (.ok ())⟩])
        (.serviceBound config)
  | search {calls : List Step} {started limit : Nat} {config : ProviderConfig} {entry : Entry}
      (reached : Reaches inquiry calls (.serviceBound config)) :
      Reaches inquiry
        (calls ++ [⟨started, .directory (inquiry.search config) limit, some (.ok [entry])⟩])
        (.userFound entry)
  | bindUser {calls : List Step} {started limit : Nat} {entry : Entry}
      (reached : Reaches inquiry calls (.userFound entry)) :
      Reaches inquiry
        (calls ++ [⟨started, .directory (inquiry.userBind entry) limit, some (.ok ())⟩])
        .userBound

/-- A call of a verification may be made if it is the one of the stage that was reached; the
session may be closed at any time. -/
def Inquiry.Permits (inquiry : Inquiry) (calls : List Step) (call : Call) : Prop :=
  call = .directory .unbind ∨
    ∃ stage, inquiry.Reaches calls stage ∧ inquiry.callAt? stage = some call

/-- The entries that a directory found in a step. -/
def Step.found? : Step → Option (List Entry)
  | ⟨_, .directory (.search _ _ _ _) _, some (.ok entries)⟩ => some entries
  | _ => none

namespace Inquiry

/-! ## What the stages exclude -/

/-- No stage is reached without a password. -/
theorem Reaches.password_ne_empty {inquiry : Inquiry} {calls : List Step} {stage : Stage}
    (reached : inquiry.Reaches calls stage) : inquiry.password ≠ "" := by
  induction reached with
  | begin _ present => exact present
  | find _ _ ih => exact ih
  | connect _ ih | bindService _ ih | search _ ih | bindUser _ ih => exact ih

/-- At the stage before its bind as the service account, a verification has neither bound nor
searched. -/
theorem Reaches.no_bind_or_search {inquiry : Inquiry} {calls : List Step} {config : ProviderConfig}
    (reached : inquiry.Reaches calls (.connected config)) {step : Step} (made : step ∈ calls) :
    (∀ dn sent, step.call? ≠ some (.directory (.bind dn sent))) ∧
      ∀ base scope filter attributes,
        step.call? ≠ some (.directory (.search base scope filter attributes)) := by
  cases reached with
  | connect found =>
    cases found with
    | find begun _ =>
      cases begun with
      | begin _ _ =>
        simp only [List.nil_append, List.cons_append, List.mem_cons, List.not_mem_nil,
          or_false] at made
        rcases made with rfl | rfl <;> simp [Step.call?]

/-- When a verification has found an entry, every search of it has found that entry alone. -/
theorem Reaches.found_eq {inquiry : Inquiry} {calls : List Step} {entry : Entry}
    (reached : inquiry.Reaches calls (.userFound entry)) {step : Step} (made : step ∈ calls)
    {base : String} {scope : SearchScope} {filter : String} {attributes : List String}
    (isSearch : step.call? = some (.directory (.search base scope filter attributes))) :
    step.found? = some [entry] := by
  cases reached with
  | search bound =>
    cases bound with
    | bindService connected =>
      rcases List.mem_append.mp made with earlier | last
      · rcases List.mem_append.mp earlier with earlier | last
        · exact absurd isSearch ((connected.no_bind_or_search earlier).2 _ _ _ _)
        · simp only [List.mem_singleton] at last
          subst last
          cases isSearch
      · simp only [List.mem_singleton] at last
        subst last
        rfl

/-- After a search or another bind, the only bind that a verification goes on with is the one of
the entry that was found alone, with the password that was submitted. -/
theorem Reaches.second_bind {inquiry : Inquiry} {earlier : List Step} {stage : Stage}
    {dn sent : String} (reached : inquiry.Reaches (callSteps earlier) stage)
    (next : inquiry.callAt? stage = some (.directory (.bind dn sent))) {step : Step}
    (before : step ∈ earlier) :
    (∀ base scope filter attributes,
        step.call? = some (.directory (.search base scope filter attributes)) →
        ∃ entry, step.found? = some [entry] ∧ dn = entry.dn ∧ sent = inquiry.password) ∧
      ∀ first firstSent, step.call? = some (.directory (.bind first firstSent)) →
        sent = inquiry.password ∧ sent ≠ "" := by
  have made : ∀ call, step.call? = some call → step ∈ callSteps earlier := by
    intro call called
    exact List.mem_filter.mpr ⟨before, by rw [called]; rfl⟩
  cases stage with
  | begun | found _ _ | serviceBound _ | userBound => cases next
  | connected config =>
    constructor
    · intro base scope filter attributes called
      exact absurd called ((reached.no_bind_or_search (made _ called)).2 _ _ _ _)
    · intro first firstSent called
      exact absurd called ((reached.no_bind_or_search (made _ called)).1 _ _)
  | userFound entry =>
    cases next
    constructor
    · intro base scope filter attributes called
      exact ⟨entry, reached.found_eq (made _ called) called, rfl, rfl⟩
    · intro first firstSent called
      exact ⟨rfl, reached.password_ne_empty⟩

end Inquiry

/-! ## The verification -/

namespace Service

variable (service : Service) (context : Context) (provider username password : String)

/-- What a verification by a service asks for. -/
def inquiry : Inquiry :=
  ⟨service.settings, context, provider, username, password⟩

/-- A verification is refused at once if something is missing, and else goes on in a session. -/
theorem verify_eq :
    service.verify context provider username password =
      if Text.trim username = "" ∨ password = "" then do
        Task.log .credentialsMissing
        throw .invalidCredentials
      else
        Session.within service.settings context provider DirectoryError.toPublic
          (verifyWithin username password) := by
  simp [verify, Text.trim_eq_empty_iff]

/-- In a session, a password is verified if the directory grants the bind of the service account,
a search that finds one entry alone, and the bind of that entry. -/
theorem succeeds_verifyWithin {environment : Environment σ} {moment later : Moment σ}
    (session : Session) (present : password ≠ "") (u : Unit) :
    Task.Succeeds environment (verifyWithin username password session) moment u later ↔
      ∃ bound entry searched,
        session.budget.Grants environment
            (.bind session.config.bindUsername session.config.bindPassword.reveal) moment () bound ∧
          session.budget.Grants environment (.search session.config.rootDn session.config.scope
            (Filter.forUser session.config username) noAttributes) bound [entry] searched ∧
          session.budget.Grants environment (.bind entry.dn password) searched () later := by
  unfold verifyWithin
  rw [if_neg present]
  simp only [Task.succeeds_bind, Session.succeeds_bindService, Session.succeeds_findUser,
    Session.succeeds_bindUser]
  constructor
  · rintro ⟨_, bound, service_bound, entry, searched, found, user_bound⟩
    exact ⟨bound, entry, searched, service_bound, found, user_bound⟩
  · rintro ⟨bound, entry, searched, service_bound, found, user_bound⟩
    exact ⟨(), bound, service_bound, entry, searched, found, user_bound⟩

/-- A verification succeeds exactly if the store and the directory admit the user. -/
theorem verify_eq_ok_iff (environment : Environment σ) (moment : Moment σ) :
    ((service.verify context provider username password).run.run environment moment).result =
        .ok () ↔
      Nonempty (Admission environment (service.inquiry context provider username password)
        moment) := by
  rw [Task.result_eq_ok_iff, verify_eq]
  by_cases missing : Text.trim username = "" ∨ password = ""
  · rw [if_pos missing]
    constructor
    · rintro ⟨later, refused⟩
      simp at refused
    · rintro ⟨admission⟩
      rcases missing with blank | empty
      · exact absurd blank admission.username_present
      · exact absurd empty admission.password_present
  · rw [if_neg missing]
    obtain ⟨username_present, password_present⟩ := not_or.mp missing
    simp only [Session.succeeds_within, Session.succeeds_start,
      succeeds_verifyWithin username password _ password_present]
    constructor
    · rintro ⟨later, session, opened, worked, ⟨found, valid, budget_eq, connected⟩,
        ⟨bound, entry, searched, service_bound, one_found, user_bound⟩, rfl⟩
      rw [budget_eq] at connected service_bound one_found user_bound
      exact ⟨⟨session.config, session.target, entry, opened, bound, searched, worked,
        username_present, password_present, found, valid, connected, service_bound, one_found,
        user_bound⟩⟩
    · rintro ⟨admission⟩
      refine ⟨_, ⟨admission.config, admission.target,
        (service.inquiry context provider username password).budget⟩, admission.connected,
        admission.userBound, ⟨admission.config_found, admission.url_valid, rfl,
          admission.connection_granted⟩, ⟨admission.serviceBound, admission.entry,
          admission.searched, admission.service_bind_granted, admission.one_entry_found,
          admission.user_bind_granted⟩, rfl⟩

/-- Whatever is replied, the work of a verification in a session goes from stage to stage. -/
theorem obeys_verifyWithin {earlier : List Step} (session : Session)
    (opened : (service.inquiry context provider username password).Reaches (callSteps earlier)
      (.connected session.config)) :
    Task.Obeys (.onCalls (service.inquiry context provider username password).Permits)
      (verifyWithin username password session) earlier := by
  unfold verifyWithin
  by_cases empty : password = ""
  · rw [if_pos empty]
    trivial
  · rw [if_neg empty]
    refine (Task.ensures_bind _ _).mpr ?_
    refine Session.ensures_bindService session (.inr ⟨_, opened, rfl⟩)
      (fun started limit bound calls => ?_) (fun _ _ => trivial)
    have service_bound : (service.inquiry context provider username password).Reaches
        (callSteps bound) (.serviceBound session.config) := by
      rw [calls]
      exact opened.bindService
    refine (Task.ensures_bind _ _).mpr ?_
    refine Session.ensures_findUser session _ _ (.inr ⟨_, service_bound, rfl⟩)
      (fun started limit entry searched calls => ?_) (fun _ _ => trivial)
    have user_found : (service.inquiry context provider username password).Reaches
        (callSteps searched) (.userFound entry) := by
      rw [calls]
      exact service_bound.search
    exact Session.ensures_bindUser session entry _ (.inr ⟨_, user_found, rfl⟩)
      (fun _ _ _ _ => trivial) (fun _ _ => trivial)

/-- Whatever is replied, a verification makes the call of the stage it has reached. -/
theorem obeys_verify :
    Task.Obeys (.onCalls (service.inquiry context provider username password).Permits)
      (service.verify context provider username password) [] := by
  rw [verify_eq]
  by_cases missing : Text.trim username = "" ∨ password = ""
  · rw [if_pos missing]
    simpa using Rule.onCalls_of_silent rfl
  · rw [if_neg missing]
    obtain ⟨username_present, password_present⟩ := not_or.mp missing
    have begun : (service.inquiry context provider username password).Reaches [] .begun :=
      .begin username_present password_present
    refine Session.obeys_within _ _ _ _ _ (fun _ => .inl rfl) ?_
    refine Session.ensures_start _ _ _ (.inr ⟨_, begun, rfl⟩)
      (fun found config target valid => .inr ⟨_, begun.find valid, rfl⟩)
      (fun found config target connected limit history valid calls => ?_) (fun _ _ => trivial)
    refine obeys_verifyWithin service context provider username password _ ?_
    rw [calls]
    exact (begun.find valid).connect

/-- A verification succeeds exactly if the store and the directory admit the user.  Each call but
the one that closes the session is the call of a stage to which all the calls before it have
brought the verification; so a bind that follows a search or another bind is the one of the only
entry that was found, with the password that was submitted, which is not empty. -/
theorem verify_sound_and_complete (environment : Environment σ) (moment : Moment σ) :
    let run := (service.verify context provider username password).run.run environment moment
    let inquiry := service.inquiry context provider username password
    (run.result = .ok () ↔ Nonempty (Admission environment inquiry moment)) ∧
      ∀ earlier step later, run.steps = earlier ++ step :: later →
        (∀ call, step.call? = some call → call ≠ .directory .unbind →
          ∃ stage, inquiry.Reaches (callSteps earlier) stage ∧
            inquiry.callAt? stage = some call) ∧
        ∀ dn sent, step.call? = some (.directory (.bind dn sent)) → ∀ before ∈ earlier,
          (∀ base scope filter attributes,
            before.call? = some (.directory (.search base scope filter attributes)) →
            ∃ entry, before.found? = some [entry] ∧ dn = entry.dn ∧ sent = password) ∧
          ∀ first firstSent, before.call? = some (.directory (.bind first firstSent)) →
            sent = password ∧ sent ≠ "" := by
  intro run inquiry
  refine ⟨verify_eq_ok_iff service context provider username password environment moment, ?_⟩
  intro earlier step later split
  have permitted : ∀ call, step.call? = some call → inquiry.Permits (callSteps earlier) call := by
    intro call called
    have obeyed := (Program.Ensures.run (obeys_verify service context provider username password)
      environment moment).1 earlier step later split
    exact obeyed call ((Step.call?_eq step).symm.trans called)
  constructor
  · intro call called notClosing
    exact (permitted call called).resolve_left notClosing
  · intro dn sent called before happened
    obtain ⟨stage, reached, next⟩ :=
      (permitted _ called).resolve_left (by intro closing; cases closing)
    exact reached.second_bind next happened

end Service

end DirectorySignIn
