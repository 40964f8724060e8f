import DirectorySignIn.Proofs.SignIn.Bracketing
import DirectorySignIn.Proofs.SignIn.Verification

/-!
# Who is signed in

A sign-in looks its user up twice, in two sessions: the first entry takes the password, the second
one gives the profile.  Nothing but the request is carried over from one session to the other.  So
the two entries have one name if neither the configuration nor what the directory finds has changed
in between; and if it has, someone else may be signed in than the one who knew the password.

Main results:

- `Session.traces_within`: the calls of a session in which some work succeeded.
- `Service.traces_signIn`: the calls of a sign-in that succeeded.
- `Service.dn_of_signIn`: the entry that took the password and the one that the profile was read
  from have one name if look-ups are steady; `Service.dn_of_signIn_changed` is a run in which they
  are not.
-/

namespace DirectorySignIn

variable {σ α : Type}

/-! ## Steadiness -/

namespace Step

/-- Whether a later step was answered as an earlier one, if both looked up the same configuration or
both searched for the same, whichever attributes were asked for. -/
def confirms : Step → Step → Bool
  | ⟨_, .store (.getConfig tenant provider), .ok found⟩,
      ⟨_, .store (.getConfig tenant' provider'), .ok found'⟩ =>
    (tenant, provider) != (tenant', provider') || found == found'
  | ⟨_, .directory (.search base scope filter _) _, some (.ok entries)⟩,
      ⟨_, .directory (.search base' scope' filter' _) _, some (.ok entries')⟩ =>
    (base, scope, filter) != (base', scope', filter') ||
      entries.map (·.dn) == entries'.map (·.dn)
  | _, _ => true

end Step

/-- Looking up the same twice has brought the same configuration and entries of the same names. -/
def Steady (steps : List Step) : Prop :=
  steps.Pairwise fun earlier later => earlier.confirms later = true

instance (steps : List Step) : Decidable (Steady steps) :=
  inferInstanceAs (Decidable (steps.Pairwise _))

/-! ## The calls of a success -/

namespace Task

variable {ε : Type}

/-- Whatever is replied, the calls of a task that succeeds are as described for its result. -/
def Traces (task : Task ε α) (trace : α → List Step → Prop) : Prop :=
  ∀ earlier, Ensures (.onCalls fun _ _ => True)
    (fun a history => ∃ calls, trace a calls ∧ callSteps history = callSteps earlier ++ calls)
    (fun _ _ => True) task earlier

/-- In a run that succeeds, the calls are as described. -/
theorem Traces.run {task : Task ε α} {trace : α → List Step → Prop} (h : Traces task trace)
    {environment : Environment σ} {moment : Moment σ} {a : α}
    (succeeded : (task.run.run environment moment).result = .ok a) :
    trace a (callSteps (task.run.run environment moment).steps) := by
  have ended := (Program.Ensures.run (h []) environment moment).2
  rw [succeeded] at ended
  obtain ⟨calls, traced, calls_eq⟩ := ended
  rw [List.nil_append, callSteps_nil, List.nil_append] at calls_eq
  rw [calls_eq]
  exact traced

end Task

namespace Session

variable (session : Session) (username password : String)

/-- The calls by which a session is opened. -/
inductive Opens (settings : Settings) (context : Context) (provider : String) :
    List Step → Prop
  | mk (found connected limit : Nat)
      (valid : Target.ofConfig session.config settings = .ok session.target) :
      Opens settings context provider
        [⟨found, .store (.getConfig context.tenant.id provider), .ok (some session.config)⟩,
          ⟨connected, .directory (.connect session.target) limit, some (.ok ())⟩]

/-- The calls by which the entry of a username is found. -/
inductive Finds (attributes : List String) (entry : Entry) : List Step → Prop
  | mk (bound boundLimit searched searchedLimit : Nat) :
      Finds attributes entry
        [⟨bound, .directory (.bind session.config.bindUsername
            session.config.bindPassword.reveal) boundLimit, some (.ok ())⟩,
          ⟨searched, .directory (.search session.config.rootDn session.config.scope
            (Filter.forUser session.config username) attributes) searchedLimit,
            some (.ok [entry])⟩]

/-- The calls of a session, from the first to the last. -/
inductive Spans (settings : Settings) (context : Context) (provider : String)
    (work : Session → List Step → Prop) : List Step → Prop
  | mk {opening working : List Step} (session : Session) (closed limit : Nat)
      (reply : (Action.directory .unbind limit).Reply)
      (opens : session.Opens settings context provider opening) (works : work session working) :
      Spans settings context provider work
        (opening ++ working ++ [⟨closed, .directory .unbind limit, reply⟩])

/-- Work in a session stands between the calls that open it and the one that closes it. -/
theorem traces_within (settings : Settings) (context : Context) (provider : String)
    (reduce : DirectoryError → String → Error) {work : Session → Task DirectoryError α}
    {trace : Session → α → List Step → Prop}
    (working : ∀ session, Task.Traces (work session) (trace session)) :
    Task.Traces (within settings context provider reduce work)
      fun a => Spans settings context provider fun session => trace session a := by
  intro earlier
  refine (Task.ensures_bind _ _).mpr ?_
  refine ensures_start settings context provider trivial (fun _ _ _ _ => trivial) ?_
    (fun _ _ => trivial)
  intro found config target connected limit opened valid opening
  let session : Session := ⟨config, target, ⟨settings.operationTimeout, context.deadline⟩⟩
  have settled : ∀ (outcome : Except DirectoryError α) worked,
      (∀ a, outcome = .ok a → ∃ calls, trace session a calls ∧
        callSteps worked = callSteps opened ++ calls) →
      Task.Ensures (.onCalls fun _ _ => True)
        (fun a history => ∃ calls,
          Spans settings context provider (fun session => trace session a) calls ∧
            callSteps history = callSteps earlier ++ calls) (fun _ _ => True)
        (do
          ExceptT.lift session.close
          settle reduce provider session.target.url.text outcome) worked := by
    intro outcome worked traced
    refine (Task.ensures_bind _ _).mpr ((Task.ensures_lift _).mpr ?_)
    refine ensures_close session trivial fun closed limit' reply history closing => ?_
    refine ensures_settle _ _ _ _ (fun a ok => ?_) (fun _ _ _ _ => trivial)
    obtain ⟨calls, works, worked_eq⟩ := traced a ok
    refine ⟨_, .mk session closed limit' reply (.mk found connected limit valid) works, ?_⟩
    simp [closing, worked_eq, opening, session]
  refine (Task.ensures_bind _ _).mpr ((Task.ensures_lift_run _).mpr ?_)
  refine (working session opened).mono (fun a worked traced => settled _ _ ?_)
    (fun e worked _ => settled _ _ ?_)
  · rintro _ ⟨⟩
    exact traced
  · rintro _ ⟨⟩

/-- Whatever is replied, a user is found by a bind and a search. -/
theorem ensures_lookUp {β : Type} (attributes : List String) {earlier : List Step}
    {f : Entry → Task DirectoryError β} {goal : β → List Step → Prop}
    (rest : ∀ entry history, (∃ calls, session.Finds username attributes entry calls ∧
        callSteps history = callSteps earlier ++ calls) →
      Task.Ensures (.onCalls fun _ _ => True) goal (fun _ _ => True) (f entry) history) :
    Task.Ensures (.onCalls fun _ _ => True) goal (fun _ _ => True)
      (do
        session.bindService
        let entry ← session.findUser username attributes
        f entry) earlier := by
  refine (Task.ensures_bind _ _).mpr ?_
  refine ensures_bindService session trivial (fun bound boundLimit history binding => ?_)
    (fun _ _ => trivial)
  refine (Task.ensures_bind _ _).mpr ?_
  refine ensures_findUser session username attributes trivial
    (fun searched searchedLimit entry history searching => ?_) (fun _ _ => trivial)
  refine rest entry history ⟨_, .mk bound boundLimit searched searchedLimit, ?_⟩
  simp [searching, binding]

end Session

namespace Service

variable (service : Service) (context : Context) (provider username password : String)

/-- The calls by which a verification admits an entry: the entry is found, and it takes the
password. -/
inductive Admits (session : Session) (entry : Entry) : List Step → Prop
  | mk {finding : List Step} (bound limit : Nat)
      (finds : session.Finds username noAttributes entry finding) :
      Admits session entry
        (finding ++ [⟨bound, .directory (.bind entry.dn password) limit, some (.ok ())⟩])

/-- The work of a verification that succeeds admits an entry. -/
theorem traces_verifyWithin (session : Session) :
    Task.Traces (verifyWithin username password session)
      fun _ calls => ∃ entry, Admits username password session entry calls := by
  intro earlier
  unfold verifyWithin
  by_cases empty : password = ""
  · rw [if_pos empty]
    trivial
  · rw [if_neg empty]
    refine session.ensures_lookUp username noAttributes fun entry history found => ?_
    obtain ⟨finding, finds, finding_eq⟩ := found
    refine Session.ensures_bindUser session entry password trivial
      (fun bound limit bound_history binding => ?_) (fun _ _ => trivial)
    refine ⟨_, ⟨entry, .mk bound limit finds⟩, ?_⟩
    simp [binding, finding_eq]

/-- The work of reading a profile that succeeds finds the entry that the profile is read from. -/
theorem traces_readProfileWithin (session : Session) :
    Task.Traces (readProfileWithin username session)
      fun profile calls => ∃ entry, Profile.ofEntry session.config entry = .ok profile ∧
        session.Finds username session.config.profileAttributes entry calls := by
  intro earlier
  refine session.ensures_lookUp username _ fun entry history found => ?_
  obtain ⟨finding, finds, finding_eq⟩ := found
  rw [Task.ensures_ofExcept]
  cases read : Profile.ofEntry session.config entry with
  | error e => trivial
  | ok profile => exact ⟨finding, ⟨entry, read, finds⟩, finding_eq⟩

/-- The calls of a verification that succeeded. -/
theorem traces_verify :
    Task.Traces (service.verify context provider username password)
      fun _ => Session.Spans service.settings context provider
        fun session calls => ∃ entry, Admits username password session entry calls := by
  unfold verify
  split
  · intro earlier
    refine (Task.ensures_bind _ _).mpr ((Task.ensures_log _).mpr ⟨Rule.onCalls_of_silent rfl, ?_⟩)
    intro started
    trivial
  · exact Session.traces_within _ _ _ _ (traces_verifyWithin username password)

/-- The calls of a reading of a profile that succeeded. -/
theorem traces_readProfile :
    Task.Traces (service.readProfile context provider username)
      fun profile => Session.Spans service.settings context provider
        fun session calls => ∃ entry, Profile.ofEntry session.config entry = .ok profile ∧
          session.Finds username session.config.profileAttributes entry calls :=
  Session.traces_within _ _ _ _ (traces_readProfileWithin username)

/-! ## The calls of a sign-in -/

/-- The calls of a sign-in: those of the session in which one entry takes the password, those of the
session in which the profile is read from one entry, and those on the accounts. -/
inductive Identifies (request : SignInRequest) (profile : Profile) (taken read : Entry) :
    List Step → Prop
  | mk {verifying reading reconciling : List Step}
      (verifies : Session.Spans service.settings context request.provider
        (fun session => Admits request.username request.password session taken) verifying)
      (reads : Session.Spans service.settings context request.provider
        (fun session calls => Profile.ofEntry session.config read = .ok profile ∧
          session.Finds request.username session.config.profileAttributes read calls) reading)
      (reconciles : ∀ step ∈ reconciling, ∀ call, step.call? = some call →
        call.isOnAccounts = true) :
      Identifies request profile taken read (verifying ++ reading ++ reconciling)

variable (request : SignInRequest)

/-- A reconciliation goes on with calls on the accounts. -/
theorem ensures_reconcile (profile : Profile) (earlier : List Step) :
    (Reconciliation.reconcile context.tenant provider profile).run.Ensures
      (.onCalls fun _ _ => True)
      (fun _ history => ∃ calls, callSteps history = callSteps earlier ++ calls ∧
        ∀ step ∈ calls, ∀ call, step.call? = some call → call.isOnAccounts = true) earlier := by
  have obeys := Task.ensures_iff_run.mp
    (Reconciliation.obeys_reconcile context.tenant provider profile earlier)
  refine obeys.invariant ⟨[], by simp⟩ (fun _ _ _ _ _ _ => trivial) ?_
  rintro steps step ⟨calls, calls_eq, onAccounts⟩ obeyed
  refine ⟨calls ++ callSteps [step], by simp [calls_eq], fun made hmade call called => ?_⟩
  rcases List.mem_append.mp hmade with before | last
  · exact onAccounts made before call called
  · obtain rfl := List.mem_singleton.mp (List.mem_filter.mp last).1
    exact obeyed call ((Step.call?_eq made).symm.trans called)

/-- If the work of a session is about some entry, the session is. -/
theorem exists_spans {settings : Settings} {work : Entry → Session → List Step → Prop}
    {calls : List Step}
    (h : Session.Spans settings context provider
      (fun session calls => ∃ entry, work entry session calls) calls) :
    ∃ entry, Session.Spans settings context provider (work entry) calls := by
  obtain ⟨session, closed, limit, reply, opens, entry, works⟩ := h
  exact ⟨entry, .mk session closed limit reply opens works⟩

/-- The calls of a sign-in that succeeded. -/
theorem traces_signIn :
    Task.Traces (service.signIn context request) fun signedIn calls =>
      ∃ taken read, service.Identifies context request signedIn.profile taken read calls := by
  intro earlier
  refine (Task.ensures_bind _ _).mpr ((Task.ensures_ofExcept _).mpr ?_)
  cases request.check with
  | error e => trivial
  | ok u =>
    refine (Task.ensures_bind _ _).mpr ((Task.ensures_adapt _ _).mpr ?_)
    refine (service.traces_verify context _ _ _ earlier).mono ?_ (fun _ _ _ => trivial)
    rintro _ verified ⟨verifying, verifies, verifying_eq⟩
    refine (Task.ensures_bind _ _).mpr ((Task.ensures_adapt _ _).mpr ?_)
    refine (service.traces_readProfile context _ _ verified).mono ?_ (fun _ _ _ => trivial)
    rintro profile read_history ⟨reading, reads, reading_eq⟩
    refine (Task.ensures_bind _ _).mpr ?_
    refine Program.Ensures.mono (ensures_reconcile context _ profile read_history) ?_
    rintro outcome history ⟨reconciling, reconciling_eq, reconciles⟩
    cases outcome with
    | error e => trivial
    | ok reconciliation =>
      obtain ⟨taken, verifies⟩ := exists_spans _ _ verifies
      obtain ⟨read, reads⟩ := exists_spans _ _ reads
      refine ⟨_, ⟨taken, read, .mk verifies reads reconciles⟩, ?_⟩
      simp [reconciling_eq, reading_eq, verifying_eq]

/-! ## Who is signed in -/

/-- Among some calls a configuration was looked up, and a search made by it found one entry. -/
structure LooksUp (request : SignInRequest) (entry : Entry) (calls : List Step) where
  config : ProviderConfig
  asked : Nat
  searched : Nat
  limit : Nat
  attributes : List String
  config_found :
    ⟨asked, .store (.getConfig context.tenant.id request.provider), .ok (some config)⟩ ∈ calls
  entry_found :
    ⟨searched, .directory (.search config.rootDn config.scope
      (Filter.forUser config request.username) attributes) limit, some (.ok [entry])⟩ ∈ calls

variable {service context request} {profile : Profile} {entry taken read : Entry}
  {calls : List Step}

/-- A session in which an entry is found looks it up by the configuration it was opened with. -/
theorem LooksUp.of_spans {settings : Settings} {work : Session → List Step → Prop}
    (h : Session.Spans settings context request.provider work calls)
    (works : ∀ session working, work session working →
      ∃ attributes finding rest, session.Finds request.username attributes entry finding ∧
        working = finding ++ rest) : Nonempty (LooksUp context request entry calls) := by
  obtain ⟨session, closed, limit, reply, opens, working⟩ := h
  obtain ⟨attributes, finding, rest, finds, rfl⟩ := works _ _ working
  obtain ⟨asked, connected, limit, valid⟩ := opens
  obtain ⟨bound, boundLimit, searched, searchedLimit⟩ := finds
  exact ⟨session.config, asked, searched, searchedLimit, attributes, by simp, by simp⟩

/-- Two look-ups that bring the same find entries of one name. -/
theorem LooksUp.dn_eq {earlier later : List Step} (first : LooksUp context request taken earlier)
    (second : LooksUp context request read later) (steady : Steady (earlier ++ later)) :
    read.dn = taken.dn := by
  have confirmed := (List.pairwise_append.mp steady).2.2
  have same_config : first.config = second.config := by
    simpa [Step.confirms] using confirmed _ first.config_found _ second.config_found
  have same_name := confirmed _ first.entry_found _ second.entry_found
  rw [same_config] at same_name
  have names : taken.dn = read.dn := by
    simpa [Step.confirms] using same_name
  exact names.symm

/-- A sign-in that identifies someone looks entries up twice before it reconciles. -/
theorem Identifies.lookUps (h : service.Identifies context request profile taken read calls) :
    ∃ verifying reading reconciling, calls = verifying ++ reading ++ reconciling ∧
      Nonempty (LooksUp context request taken verifying) ∧
      Nonempty (LooksUp context request read reading) := by
  obtain ⟨verifies, reads, -⟩ := h
  refine ⟨_, _, _, rfl, LooksUp.of_spans verifies ?_, LooksUp.of_spans reads ?_⟩
  · rintro session _ ⟨bound, limit, finds⟩
    exact ⟨_, _, _, finds, rfl⟩
  · rintro session working ⟨-, finds⟩
    exact ⟨_, _, [], finds, (List.append_nil _).symm⟩

/-- If looking up the same has brought the same, the entry that took the password and the one that
the profile was read from have one name. -/
theorem Identifies.dn_eq (h : service.Identifies context request profile taken read calls)
    (steady : Steady calls) : read.dn = taken.dn := by
  obtain ⟨verifying, reading, reconciling, rfl, ⟨first⟩, ⟨second⟩⟩ := h.lookUps
  exact first.dn_eq second (List.pairwise_append.mp steady).1

/-- A call that concerns accounts finds no entry. -/
theorem found?_eq_none_of_isOnAccounts {step : Step}
    (onAccounts : ∀ call, step.call? = some call → call.isOnAccounts = true) :
    step.found? = none := by
  rcases step with ⟨started, action, reply⟩
  cases action with
  | directory call limit => exact Bool.noConfusion (onAccounts _ rfl)
  | _ => rfl

/-- What the searches have found is the one entry and then the other. -/
theorem Identifies.found_eq (h : service.Identifies context request profile taken read calls) :
    calls.filterMap Step.found? = [[taken], [read]] := by
  obtain ⟨verifies, reads, reconciles⟩ := h
  have quiet := List.filterMap_eq_nil_iff.mpr fun step made =>
    found?_eq_none_of_isOnAccounts (reconciles step made)
  obtain ⟨verifier, _, _, _, ⟨_⟩, _, _, ⟨_⟩⟩ := verifies
  obtain ⟨reader, _, _, _, ⟨_⟩, -, ⟨_⟩⟩ := reads
  rw [List.filterMap_append, quiet]
  rfl

variable (service context request)

/-- A sign-in that succeeds has let one entry take the password that was submitted, and has read the
profile from one entry.  If neither the configuration of the provider nor the names that a search
finds have changed in its course, these entries have the same name. -/
theorem dn_of_signIn (environment : Environment σ) (moment : Moment σ) (signedIn : SignedIn)
    (signed : ((service.signIn context request).run.run environment moment).result =
      .ok signedIn) :
    let steps := ((service.signIn context request).run.run environment moment).steps
    (∃ taken read,
      service.Identifies context request signedIn.profile taken read (callSteps steps)) ∧
      (Steady steps → ∀ taken read,
        service.Identifies context request signedIn.profile taken read (callSteps steps) →
          read.dn = taken.dn) := by
  intro steps
  refine ⟨(service.traces_signIn context request).run signed, fun steady taken read h => ?_⟩
  exact h.dn_eq (List.Pairwise.filter _ steady)

theorem dn_of_signIn_sample :
    let run := (Service.sample.signIn .sample .sample).run.run Script.surroundings.withMemory
      ⟨0, .sample (.finding [[.sample "ada"], [.sample "ada"]])⟩
    ∃ signedIn, run.result = .ok signedIn ∧ Steady run.steps ∧
      ∃ taken read, read.dn = taken.dn ∧
        Service.sample.Identifies .sample .sample signedIn.profile taken read
          (callSteps run.steps) := by
  intro run
  have succeeded : run.result.toOption.isSome = true := by decide +kernel
  have steady : Steady run.steps := by decide +kernel
  cases signed : run.result with
  | error e => rw [signed] at succeeded; contradiction
  | ok signedIn =>
    obtain ⟨⟨taken, read, identifies⟩, same⟩ := dn_of_signIn .sample .sample .sample _ _ signedIn
      signed
    exact ⟨signedIn, rfl, steady, taken, read, same steady taken read identifies, identifies⟩

/-- A directory that finds one person for the password and another one for the profile has the other
one signed in. -/
theorem dn_of_signIn_changed :
    let run := (Service.sample.signIn .sample .sample).run.run Script.surroundings.withMemory
      ⟨0, .sample (.finding [[.sample "ada"], [.sample "grace"]])⟩
    ¬ ∀ signedIn taken read, run.result = .ok signedIn →
      Service.sample.Identifies .sample .sample signedIn.profile taken read
        (callSteps run.steps) → read.dn = taken.dn := by
  intro run claimed
  have succeeded : run.result.toOption.isSome = true := by decide +kernel
  have found : (callSteps run.steps).filterMap Step.found? =
      [[.sample "ada"], [.sample "grace"]] := by
    decide +kernel
  cases signed : run.result with
  | error e => rw [signed] at succeeded; contradiction
  | ok signedIn =>
    obtain ⟨taken, read, identifies⟩ := (Service.sample.traces_signIn .sample .sample).run signed
    have same := claimed signedIn taken read signed identifies
    have both := found.symm.trans identifies.found_eq
    simp only [List.cons.injEq, and_true] at both
    obtain ⟨rfl, rfl⟩ := both
    revert same
    decide

end Service

end DirectorySignIn
