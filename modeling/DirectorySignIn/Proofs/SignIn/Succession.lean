import DirectorySignIn.Proofs.Account.Descent
import DirectorySignIn.Proofs.Account.Update
import DirectorySignIn.Proofs.SignIn.AllOrNothing
import DirectorySignIn.Proofs.SignIn.Identity

/-!
# One job after the other

Any number of jobs done one after the other: services of any settings are asked by any tenants for
anything that they do, against directories and stores that answer or fail as they like.  Only a
sign-in that succeeds leaves its mark on the accounts: it links one account under the provider key
of the sign-in, or adds a visitor with one link to a public tenant.  So nobody loses an account or
gets another role, and a tenant that is private all along keeps the accounts that it has.

Main results:

- `Deed.effect`: what one job does to the accounts.
- `descends_afterAll`: what a row of jobs does to them.
- `accounts_afterAll`: the same said of accounts by their ids.
-/

namespace DirectorySignIn

variable {σ δ : Type}

/-! ## Jobs -/

/-- Something that a service does. -/
inductive Operation where
  | connect (provider : String)
  | checkProvider (provider : String)
  | activeProviders
  | allProviders
  | verify (provider username password : String)
  | readProfile (provider username : String)
  | signIn (request : SignInRequest)

/-- An operation that a service is asked for. -/
structure Job where
  service : Service
  context : Context
  operation : Operation

namespace Job

/-- The program of a job.  All that is told of its result is whom it has signed in. -/
def program (job : Job) : Program (Option SignedIn) :=
  match job.operation with
  | .connect provider => (fun _ => none) <$> (job.service.connect job.context provider).run
  | .checkProvider provider =>
    (fun _ => none) <$> (job.service.checkProvider job.context provider).run
  | .activeProviders => (fun _ => none) <$> (job.service.activeProviders job.context).run
  | .allProviders => (fun _ => none) <$> (job.service.allProviders job.context).run
  | .verify provider username password =>
    (fun _ => none) <$> (job.service.verify job.context provider username password).run
  | .readProfile provider username =>
    (fun _ => none) <$> (job.service.readProfile job.context provider username).run
  | .signIn request => Except.toOption <$> (job.service.signIn job.context request).run

end Job

/-- A job with the moment at which it was begun. -/
structure Deed (δ : Type) where
  job : Job
  begun : Moment (Memory δ)

variable (surroundings : Surroundings δ)

namespace Deed

/-- The run of a deed. -/
def run (deed : Deed δ) : Run (Memory δ) (Option SignedIn) :=
  deed.job.program.run surroundings.withMemory deed.begun

/-- The accounts at the beginning. -/
def before (deed : Deed δ) : UserStore :=
  deed.begun.state.users

/-- The accounts in the end. -/
def after (deed : Deed δ) : UserStore :=
  (deed.run surroundings).after.state.users

/-- Someone was signed in. -/
structure SignsIn (deed : Deed δ) (request : SignInRequest) (signedIn : SignedIn) : Prop where
  asked : deed.job.operation = .signIn request
  succeeded : (deed.run surroundings).result = some signedIn

/-- A sign-in through a provider succeeded. -/
def Through (deed : Deed δ) (provider : String) : Prop :=
  ∃ request signedIn, deed.SignsIn surroundings request signedIn ∧ request.provider = provider

/-- A stranger was signed in to a public tenant, and got an account with one link. -/
inductive Adds (deed : Deed δ) : User → Prop where
  | mk {request : SignInRequest} {signedIn : SignedIn} {user : User} {uid : String}
      (signs : deed.SignsIn surroundings request signedIn)
      (registered : signedIn.reconciliation = .registered user)
      (opened : deed.job.context.tenant.isPrivate = false)
      (own : user.tenant = deed.job.context.tenant.id) (role : user.role = .visitor)
      (links : user.links = [⟨request.provider, uid⟩]) (named : uid ≠ "")
      (trimmed : Text.trim uid = uid) (free : user.id ∉ deed.before.ids)
      (stored : deed.after surroundings = deed.before.insert user) :
      Adds deed user

/-- What a deed may do to the accounts. -/
inductive Effect (deed : Deed δ) : Prop where
  /-- Nothing. -/
  | unchanged (same : deed.after surroundings = deed.before)
  /-- An account is linked under the provider key of a sign-in. -/
  | linked {provider uid : String} {older younger : List User} {user : User}
      (through : deed.Through surroundings provider)
      (stored : deed.before = ⟨older ++ user :: younger⟩)
      (linked : deed.after surroundings = ⟨older ++ user.link provider uid :: younger⟩)
  /-- A stranger gets an account. -/
  | added {user : User} (adds : deed.Adds surroundings user)

end Deed

/-- The deeds that come of several jobs which are done one after the other. -/
def deeds : List Job → Moment (Memory δ) → List (Deed δ)
  | [], _ => []
  | job :: rest, moment =>
    let deed : Deed δ := ⟨job, moment⟩
    deed :: deeds rest (deed.run surroundings).after

/-- The moment after several jobs which are done one after the other. -/
def afterAll : List Job → Moment (Memory δ) → Moment (Memory δ)
  | [], moment => moment
  | job :: rest, moment => afterAll rest ((⟨job, moment⟩ : Deed δ).run surroundings).after

variable {surroundings}

/-- Every deed is that of one of the jobs. -/
theorem job_mem_of_mem_deeds {jobs : List Job} {moment : Moment (Memory δ)} {deed : Deed δ}
    (done : deed ∈ deeds surroundings jobs moment) : deed.job ∈ jobs := by
  induction jobs generalizing moment with
  | nil => contradiction
  | cons job rest ih =>
    rcases List.mem_cons.mp done with rfl | later
    · exact List.mem_cons_self
    · exact List.mem_cons_of_mem _ (ih later)

/-! ## One job -/

/-- A result that is told in another way comes of the same run. -/
theorem Program.run_map {α β : Type} (environment : Environment σ) (f : α → β)
    (program : Program α) (moment : Moment σ) :
    (f <$> program).run environment moment =
      let run := program.run environment moment
      ⟨f run.result, run.steps, run.after⟩ := by
  rw [map_eq_pure_bind, Program.run_bind]
  simp

namespace Service

variable (service : Service) (context : Context)

/-- To open a session keeps away from accounts. -/
theorem away_connect (provider : String) (earlier : List Step) :
    Task.Obeys .awayFromAccounts (service.connect context provider) earlier :=
  Session.ensures_start service.settings context provider rfl (fun _ _ _ _ => rfl)
    (fun _ _ _ _ _ _ _ _ => trivial) (fun _ _ => trivial)

variable {service context} in
/-- A profile that was read is the profile of an entry. -/
theorem exists_ofEntry_of_readProfile {environment : Environment σ} {moment : Moment σ}
    {provider username : String} {profile : Profile}
    (read : ((service.readProfile context provider username).run.run environment moment).result =
      .ok profile) :
    ∃ config entry, Profile.ofEntry config entry = .ok profile := by
  have spans := (service.traces_readProfile context provider username).run read
  generalize callSteps _ = steps at spans
  obtain ⟨session, _, _, _, _, entry, made, -⟩ := spans
  exact ⟨session.config, entry, made⟩

end Service

/-- The id of a profile that was made of an entry has no white space at its ends. -/
theorem Profile.trim_ofEntry_id {config : ProviderConfig} {entry : Entry} {profile : Profile}
    (h : ofEntry config entry = .ok profile) : Text.trim profile.id = profile.id := by
  unfold ofEntry at h
  split at h
  · contradiction
  · rw [← Except.ok.inj h]
    exact Text.trim_trim _

namespace Deed

variable {deed : Deed δ}

/-- A job that asks nothing of the accounts does nothing to them. -/
theorem unchanged_of_away {ε α : Type} {task : Task ε α}
    (away : Task.Obeys .awayFromAccounts task [])
    (asked : deed.job.program = (fun _ => none) <$> task.run) : deed.Effect surroundings := by
  refine .unchanged ?_
  unfold after run
  rw [asked, Program.run_map]
  exact Service.users_of_away away surroundings deed.begun

/-- What a sign-in does to the accounts. -/
theorem effect_signIn {request : SignInRequest} (asked : deed.job.operation = .signIn request) :
    deed.Effect surroundings := by
  obtain ⟨calls, result, later, yields, course⟩ := deed.job.service.exists_course_signIn
    deed.job.context request surroundings deed.begun
  have ran : deed.run surroundings = Program.run surroundings.withMemory
      (Except.toOption <$> (deed.job.service.signIn deed.job.context request).run) deed.begun := by
    simp only [run, Job.program, asked]
  rw [Program.run_map] at ran
  have result_eq : (deed.run surroundings).result = result.toOption := by
    rw [ran]
    exact congrArg Except.toOption yields.result_eq
  have after_eq : deed.after surroundings = later.state.users := by
    unfold after
    rw [ran]
    exact congrArg (fun moment : Moment (Memory δ) => moment.state.users) yields.after_eq
  generalize later.state.users = users at course after_eq
  cases course with
  | stopped e away => exact .unchanged after_eq
  | reconciled verified read course =>
    rename_i profile calls result
    obtain ⟨config, entry, made⟩ := Service.exists_ofEntry_of_readProfile read
    cases course with
    | linked unknown found written =>
      obtain ⟨older, user, younger, split, -, -, rfl⟩ := UserStore.attach_eq_ok written
      exact .linked ⟨request, _, ⟨asked, result_eq⟩, rfl⟩ (congrArg UserStore.mk split) after_eq
    | registered id unknown nobody opened written =>
      obtain ⟨free, rfl⟩ := UserStore.register_eq_ok written
      exact .added (.mk ⟨asked, result_eq⟩ rfl opened rfl rfl rfl
        (Profile.ofEntry_id_ne_empty made) (Profile.trim_ofEntry_id made) free after_eq)
    | identityUnread _ | existing _ | emailUnread _ _ _ | linkFailed _ _ _ | refused _ _ _
    | registerFailed _ _ _ _ _ => exact .unchanged after_eq

/-- What a job does to the accounts: only a sign-in that succeeds changes any of them. -/
theorem effect (surroundings : Surroundings δ) (deed : Deed δ) : deed.Effect surroundings := by
  obtain ⟨⟨service, context, operation⟩, begun⟩ := deed
  cases operation with
  | connect provider => exact unchanged_of_away (service.away_connect context provider []) rfl
  | checkProvider provider =>
    exact unchanged_of_away (service.away_checkProvider context provider []) rfl
  | activeProviders => exact unchanged_of_away (service.away_activeProviders context []) rfl
  | allProviders => exact unchanged_of_away (service.away_allProviders context []) rfl
  | verify provider username password =>
    exact unchanged_of_away (service.away_verify context provider username password []) rfl
  | readProfile provider username =>
    exact unchanged_of_away (service.away_readProfile context provider username []) rfl
  | signIn request => exact effect_signIn rfl

/-- An account that is added was given an id that was free, and is put behind the others. -/
theorem Adds.stored {user : User} (adds : deed.Adds surroundings user) :
    user.id ∉ deed.before.ids ∧ deed.after surroundings = deed.before.insert user := by
  obtain ⟨-, -, -, -, -, -, -, -, free, stored⟩ := adds
  exact ⟨free, stored⟩

/-- After a deed each account is there as it was, but for its links under the provider key of a
sign-in that succeeded, and a new one is one that a sign-in has added. -/
theorem Effect.descends (effect : deed.Effect surroundings) :
    Descends (User.KeptBut (deed.Through surroundings)) (deed.Adds surroundings)
      deed.before.users (deed.after surroundings).users := by
  have refl : ∀ user : User, user.KeptBut (deed.Through surroundings) user := .refl _
  cases effect with
  | unchanged same =>
    rw [same]
    exact .refl refl _
  | linked through stored linked =>
    rw [stored, linked]
    refine .replace refl _ ((User.keptBut_link ..).mono ?_) _
    rintro _ rfl
    exact through
  | added adds =>
    rw [adds.stored.2]
    exact .append refl _ adds

/-- If no two accounts had an id in common, none do after a deed. -/
theorem Effect.nodup_ids (effect : deed.Effect surroundings) (unique : deed.before.ids.Nodup) :
    (deed.after surroundings).ids.Nodup := by
  cases effect with
  | unchanged same => rwa [same]
  | linked _ stored linked =>
    rw [stored] at unique
    rw [linked]
    simpa [UserStore.ids] using unique
  | added adds =>
    rw [adds.stored.2]
    exact UserStore.nodup_ids_insert unique adds.stored.1

end Deed

/-! ## Rows of jobs -/

variable (surroundings)

/-- A sign-in through a provider succeeded in a row of jobs. -/
def SignedInThrough (jobs : List Job) (moment : Moment (Memory δ)) (provider : String) : Prop :=
  ∃ deed ∈ deeds surroundings jobs moment, deed.Through surroundings provider

/-- An account has gone on from one that a sign-in has added in a row of jobs. -/
def AddedBy (jobs : List Job) (moment : Moment (Memory δ)) (user : User) : Prop :=
  ∃ deed ∈ deeds surroundings jobs moment, ∃ fresh, deed.Adds surroundings fresh ∧
    fresh.Continues user

/-- After a row of jobs each account is there as it was, but for its links under the provider keys
of sign-ins that succeeded, and each new one goes on from one that a sign-in has added. -/
theorem descends_afterAll (jobs : List Job) (moment : Moment (Memory δ)) :
    Descends (User.KeptBut (SignedInThrough surroundings jobs moment))
      (AddedBy surroundings jobs moment) moment.state.users.users
      (afterAll surroundings jobs moment).state.users.users := by
  induction jobs generalizing moment with
  | nil => exact .refl (.refl _) _
  | cons job rest ih =>
    let deed : Deed δ := ⟨job, moment⟩
    refine (deed.effect surroundings).descends.trans (ih (deed.run surroundings).after) ?_ ?_ ?_
    · intro a b c first second
      refine (first.trans second).mono fun provider through => ?_
      rcases through with now | ⟨later, done, through⟩
      · exact ⟨deed, List.mem_cons_self, now⟩
      · exact ⟨later, List.mem_cons_of_mem _ done, through⟩
    · intro fresh user adds kept
      exact ⟨deed, List.mem_cons_self, fresh, adds, kept.toContinues⟩
    · rintro user ⟨later, done, fresh, adds, goesOn⟩
      exact ⟨later, List.mem_cons_of_mem _ done, fresh, adds, goesOn⟩

/-- If no two accounts had an id in common, none do after a row of jobs. -/
theorem nodup_ids_afterAll (jobs : List Job) {moment : Moment (Memory δ)}
    (unique : moment.state.users.ids.Nodup) :
    (afterAll surroundings jobs moment).state.users.ids.Nodup := by
  induction jobs generalizing moment with
  | nil => exact unique
  | cons job rest ih =>
    exact ih (((⟨job, moment⟩ : Deed δ).effect surroundings).nodup_ids unique)

/-- After a row of jobs every account that was there before is found by its id, with the same
tenant, name, email address and role, and with the same links under each provider key through
which no sign-in succeeded.  Every new account was added by a sign-in to a public tenant, as a
visitor with a single link, under the key of the sign-in.  A tenant that was private in all jobs has
the accounts that it had. -/
theorem accounts_afterAll (jobs : List Job) (moment : Moment (Memory δ))
    (unique : moment.state.users.ids.Nodup) :
    let before := moment.state.users
    let after := (afterAll surroundings jobs moment).state.users
    after.ids.Nodup ∧
    (∀ user ∈ before.users, ∃ kept, after.get? user.id = some kept ∧ user.Continues kept ∧
      ∀ provider, ¬ SignedInThrough surroundings jobs moment provider →
        kept.linksUnder provider = user.linksUnder provider) ∧
    (∀ user ∈ after.users, user.id ∉ before.ids →
      ∃ deed ∈ deeds surroundings jobs moment, ∃ fresh, deed.Adds surroundings fresh ∧
        fresh.Continues user) ∧
    (∀ tenant, (∀ job ∈ jobs, job.context.tenant.id = tenant →
        job.context.tenant.isPrivate = true) →
      (after.ofTenant tenant).map (·.id) = (before.ofTenant tenant).map (·.id)) := by
  intro before after
  have descends := descends_afterAll surroundings jobs moment
  have still_unique := nodup_ids_afterAll surroundings jobs unique
  refine ⟨still_unique, ?_, ?_, ?_⟩
  · intro user stored
    obtain ⟨kept, still, same⟩ := descends.exists_kept stored
    refine ⟨kept, ?_, same.toContinues, same.links⟩
    rw [← same.id]
    exact UserStore.get?_of_mem still_unique still
  · intro user stored isNew
    rcases descends.origin stored with ⟨former, formerly, same⟩ | added
    · rw [same.id] at isNew
      exact absurd (List.mem_map_of_mem formerly) isNew
    · exact added
  · intro tenant closed
    refine descends.ids_ofTenant (fun _ _ kept => kept.toContinues) ?_
    rintro user ⟨deed, done, fresh, adds, goesOn⟩ same
    obtain ⟨-, -, opened, own, -, -, -, -, -, -⟩ := adds
    rw [goesOn.tenant, own] at same
    rw [closed deed.job (job_mem_of_mem_deeds done) same] at opened
    contradiction

/-- Someone who administers the sample tenant, known to another directory. -/
def User.administrator : User :=
  ⟨⟨⟨7⟩⟩, Context.sample.tenant.id, "Grace", "grace@example.org", .administrator,
    [⟨"okta", "grace"⟩]⟩

/-- A provider is checked, and a stranger signs in. -/
def Job.samples : List Job :=
  [⟨.sample, .sample, .checkProvider "ldap"⟩, ⟨.sample, .sample, .signIn .sample⟩]

/-- The sample world with an administrator, in which the stranger of the sample request is known. -/
def administered : Moment (Memory Script) :=
  ⟨0, { Memory.sample (.finding [[.sample "ada"], [.sample "ada"]]) with
    users := ⟨[.administrator]⟩ }⟩

/-- The jobs keep the account of the administrator and add one. -/
theorem accounts_afterAll_sample :
    let after := (afterAll Script.surroundings Job.samples administered).state.users
    administered.state.users.ids.Nodup ∧ after.ids = [⟨⟨7⟩⟩, Script.userId 0] ∧
      (∃ kept, after.get? ⟨⟨7⟩⟩ = some kept ∧ User.administrator.Continues kept) ∧
      ∃ user ∈ after.users, user.id = Script.userId 0 ∧
        ∃ deed ∈ deeds Script.surroundings Job.samples administered, ∃ fresh,
          deed.Adds Script.surroundings fresh ∧ fresh.Continues user := by
  intro after
  have unique : administered.state.users.ids.Nodup := by decide
  have ids : after.ids = [⟨⟨7⟩⟩, Script.userId 0] := by decide +kernel
  obtain ⟨-, kept, added, -⟩ :=
    accounts_afterAll Script.surroundings Job.samples administered unique
  obtain ⟨grace, found, same, -⟩ := kept .administrator (List.mem_singleton_self _)
  have there : Script.userId 0 ∈ after.ids := by
    rw [ids]
    exact List.mem_cons_of_mem _ (List.mem_singleton_self _)
  obtain ⟨user, stored, id_eq⟩ := List.mem_map.mp there
  have isNew : user.id ∉ administered.state.users.ids := by
    rw [id_eq]
    decide
  exact ⟨unique, ids, ⟨grace, found, same⟩, user, stored, id_eq, added user stored isNew⟩

end DirectorySignIn
