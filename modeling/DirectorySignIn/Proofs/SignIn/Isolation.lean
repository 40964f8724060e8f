import DirectorySignIn.Proofs.Account.Tenancy
import DirectorySignIn.Proofs.Program.Comparison
import DirectorySignIn.Proofs.SignIn.Bracketing
import DirectorySignIn.Proofs.SignIn.Operations
import DirectorySignIn.Proofs.SignIn.Reconciliation

/-!
# Tenants are isolated

Two worlds agree on the configurations and on the accounts of one tenant, and may have anything else
for the others.  Whatever the service does for the tenant, it does alike in both: it makes the same
calls, gets the same replies, and writes nothing that is not the tenant's.  An operation obeys a
rule by which each single action is the same in both worlds, so that it is the same from its
beginning to its end.

Main results:

- `AgreeOn.store`: a call on the stores that belongs to the tenant keeps two worlds in agreement.
- `Isolated.act`: what one action that belongs to the tenant keeps.
- `Task.isolatedIn_of_obeys`: so a task is isolated in the tenant if all it does belongs to it.
- `Service.isolates`: operations of a tenant are the same in two worlds that agree on the tenant,
  and leave the accounts of all others as they were.
-/

namespace DirectorySignIn

variable {δ ε α : Type}

/-! ## What belongs to a tenant -/

/-- The account that a look-up found in a step. -/
def Step.user? : Step → Option User
  | ⟨_, .store (.findIdentity _ _ _), .ok user⟩ => user
  | ⟨_, .store (.findEmail _ _), .ok user⟩ => user
  | _ => none

/-- A call belongs to a tenant if it concerns no other.  An account is linked only after it was
found. -/
def withinTenant (tenant : TenantId) (calls : List Step) : Call → Prop
  | .store (.getConfig other _) | .store (.listConfigs other) => other = tenant
  | .store (.findIdentity other _ _) | .store (.findEmail other _) => other = tenant
  | .store (.register user) => user.tenant = tenant
  | .store (.attach id _ _) => ∃ step ∈ calls, ∃ user, step.user? = some user ∧ user.id = id
  | .directory _ => True

/-- The rule that all calls belong to a tenant. -/
abbrev Rule.withinTenant (tenant : TenantId) : Rule :=
  .onCalls (DirectorySignIn.withinTenant tenant)

/-- To keep within a tenant leaves everything else permitted. -/
theorem permissive_withinTenant (tenant : TenantId) : Permissive (withinTenant tenant) tenant :=
  ⟨fun _ _ => rfl, fun _ => rfl, fun _ _ => trivial⟩

/-- All calls of a reconciliation are within its tenant. -/
theorem Reconciliation.permitted_withinTenant (tenant : Tenant) (provider : String)
    (profile : Profile) : Permitted (withinTenant tenant.id) tenant provider profile :=
  ⟨fun _ => rfl, fun _ => rfl, fun _ _ user found => ⟨_, found, user, rfl, rfl⟩, fun _ _ => rfl⟩

/-- A user was registered in some steps. -/
def Registers (user : User) (steps : List Step) : Prop :=
  ∃ started, ⟨started, .store (.register user), .ok ()⟩ ∈ steps

/-- The tenant's look-ups find its own accounts. -/
theorem mem_ofTenant_of_user? {tenant : TenantId} {memory : Memory δ} {calls : List Step}
    {call : StoreCall} {started : Nat} {user : User}
    (own : withinTenant tenant calls (.store call))
    (h : (⟨started, .store call, (memory.answer call).1⟩ : Step).user? = some user) :
    user ∈ memory.users.ofTenant tenant := by
  cases call with
  | findIdentity other provider uid =>
    obtain rfl : other = tenant := own
    exact UserStore.mem_ofTenant_of_findIdentity? h
  | findEmail other email =>
    obtain rfl : other = tenant := own
    exact UserStore.mem_ofTenant_of_findEmail? h
  | _ => contradiction

/-! ## Two worlds -/

/-- Two worlds have the same configurations and the same accounts of a tenant, and nothing else is
different outside of the stores.  In each of them no two accounts have an id in common. -/
structure AgreeOn (tenant : TenantId) (left right : Memory δ) : Prop where
  configs : left.configs.ofTenant tenant = right.configs.ofTenant tenant
  users : left.users.ofTenant tenant = right.users.ofTenant tenant
  outside : left.outside = right.outside
  left_unique : left.users.ids.Nodup
  right_unique : right.users.ids.Nodup

/-- Two worlds still agree, and each has the accounts of other tenants that it had before, and the
tenant's accounts that were known. -/
structure StillAgree (tenant : TenantId) (left right left' right' : Memory δ) : Prop where
  agree : AgreeOn tenant left' right'
  left_others : left'.users.others tenant = left.users.others tenant
  right_others : right'.users.others tenant = right.users.others tenant
  known : ∀ id, id ∈ (left.users.ofTenant tenant).map (·.id) →
    id ∈ (left'.users.ofTenant tenant).map (·.id)

/-- Memories that still agree after each of two changes do so after both. -/
theorem StillAgree.trans {tenant : TenantId} {left right left' right' left'' right'' : Memory δ}
    (first : StillAgree tenant left right left' right')
    (second : StillAgree tenant left' right' left'' right'') :
    StillAgree tenant left right left'' right'' where
  agree := second.agree
  left_others := second.left_others.trans first.left_others
  right_others := second.right_others.trans first.right_others
  known id hid := second.known id (first.known id hid)

namespace AgreeOn

variable {tenant : TenantId} {left right : Memory δ} (h : AgreeOn tenant left right)

include h

theorem refl_still : StillAgree tenant left right left right :=
  ⟨h, rfl, rfl, fun _ known => known⟩

/-- Worlds still agree if the same happens outside of their stores. -/
theorem elsewhere (outside : δ) :
    StillAgree tenant left right { left with outside } { right with outside } :=
  ⟨⟨h.configs, h.users, rfl, h.left_unique, h.right_unique⟩, rfl, rfl, fun _ known => known⟩

/-- Reading calls of the tenant are answered alike. -/
theorem answer_read {calls : List Step} {call : StoreCall} (reading : call.isWrite = false)
    (own : withinTenant tenant calls (.store call)) :
    (left.answer call).1 = (right.answer call).1 := by
  cases call with
  | getConfig other provider =>
    obtain rfl : other = tenant := own
    simp only [Memory.answer, ConfigStore.get?, h.configs]
  | listConfigs other =>
    obtain rfl : other = tenant := own
    simp only [Memory.answer, h.configs]
  | findIdentity other provider uid =>
    obtain rfl : other = tenant := own
    simp only [Memory.answer, UserStore.findIdentity?_eq_ofTenant, h.users]
  | findEmail other email =>
    obtain rfl : other = tenant := own
    simp only [Memory.answer, UserStore.findEmail?_eq_ofTenant, h.users]
  | register user => contradiction
  | attach id provider uid => contradiction

/-- An account of the tenant is linked alike. -/
theorem answer_attach {id : UserId} (known : id ∈ (left.users.ofTenant tenant).map (·.id))
    (provider uid : String) :
    (left.answer (.attach id provider uid)).1 = (right.answer (.attach id provider uid)).1 ∧
      StillAgree tenant left right (left.answer (.attach id provider uid)).2
        (right.answer (.attach id provider uid)).2 := by
  have right_known := known
  rw [h.users] at right_known
  have left_own := UserStore.tenant_eq_of_mem_ids h.left_unique known
  have right_own := UserStore.tenant_eq_of_mem_ids h.right_unique right_known
  simp only [Memory.answer, UserStore.attach_of_mem (UserStore.mem_ids_iff.mpr (.inl known)),
    UserStore.attach_of_mem (UserStore.mem_ids_iff.mpr (.inl right_known)), Memory.afterWrite]
  refine ⟨trivial, ⟨h.configs, ?_, h.outside, ?_, ?_⟩, ?_, ?_, fun other hother => ?_⟩
  · simp only [UserStore.ofTenant_attached left_own, UserStore.ofTenant_attached right_own, h.users]
  · simpa only [UserStore.ids_attached] using h.left_unique
  · simpa only [UserStore.ids_attached] using h.right_unique
  · exact UserStore.others_attached left_own
  · exact UserStore.others_attached right_own
  · simpa only [UserStore.ofTenant_attached left_own, UserStore.map_id_updateFirst_link]
      using hother

/-- An account of the tenant is registered alike, if it does not get the id of another tenant's. -/
theorem answer_register {user : User} (own : user.tenant = tenant)
    (fresh : (left.answer (.register user)).1 = .ok () ∨
        (right.answer (.register user)).1 = .ok () →
      user.id ∉ (left.users.others tenant).map (·.id) ∧
        user.id ∉ (right.users.others tenant).map (·.id)) :
    (left.answer (.register user)).1 = (right.answer (.register user)).1 ∧
      StillAgree tenant left right (left.answer (.register user)).2
        (right.answer (.register user)).2 := by
  have registers : ∀ memory : Memory δ, user.id ∉ memory.users.ids →
      memory.answer (.register user) =
        (.ok (), { memory with users := memory.users.insert user }) := by
    intro memory free
    rw [Memory.answer, UserStore.register_of_not_mem free, Memory.afterWrite]
  have refuses : ∀ memory : Memory δ, user.id ∈ memory.users.ids →
      memory.answer (.register user) = (.error (.persistenceFailure
        ("user " ++ user.id.text ++ " already exists")), memory) := by
    intro memory taken
    rw [Memory.answer, UserStore.register_of_mem taken, Memory.afterWrite]
  by_cases taken : user.id ∈ left.users.ids
  · have right_taken : user.id ∈ right.users.ids :=
      UserStore.mem_ids_of_ofTenant_eq taken h.users fun free =>
        (fresh (.inr (by rw [registers right free]))).1
    rw [refuses left taken, refuses right right_taken]
    exact ⟨rfl, h.refl_still⟩
  · have right_free : user.id ∉ right.users.ids := fun right_taken =>
      taken (UserStore.mem_ids_of_ofTenant_eq right_taken h.users.symm fun free =>
        (fresh (.inl (by rw [registers left free]))).2)
    rw [registers left taken, registers right right_free]
    refine ⟨rfl, ⟨h.configs, ?_, h.outside, ?_, ?_⟩, ?_, ?_, fun id known => ?_⟩
    · simp only [UserStore.ofTenant_insert own, h.users]
    · exact UserStore.nodup_ids_insert h.left_unique taken
    · exact UserStore.nodup_ids_insert h.right_unique right_free
    · exact UserStore.others_insert own
    · exact UserStore.others_insert own
    · simp only [UserStore.ofTenant_insert own, List.map_append, List.mem_append]
      exact .inl known

/-- Calls of the tenant are answered alike, and with nothing but its own accounts. -/
theorem answer {calls : List Step} {call : StoreCall} (started : Nat)
    (own : withinTenant tenant calls (.store call))
    (found : ∀ step ∈ calls, ∀ user, step.user? = some user →
      user.id ∈ (left.users.ofTenant tenant).map (·.id))
    (fresh : ∀ user, Registers user [⟨started, .store call, (left.answer call).1⟩] ∨
        Registers user [⟨started, .store call, (right.answer call).1⟩] →
      user.id ∉ (left.users.others tenant).map (·.id) ∧
        user.id ∉ (right.users.others tenant).map (·.id)) :
    (left.answer call).1 = (right.answer call).1 ∧
      StillAgree tenant left right (left.answer call).2 (right.answer call).2 := by
  cases writing : call.isWrite with
  | false =>
    rw [Memory.answer_of_not_isWrite _ writing, Memory.answer_of_not_isWrite _ writing]
    exact ⟨h.answer_read writing own, h.refl_still⟩
  | true =>
    cases call with
    | register user =>
      refine h.answer_register own fun registered => fresh user ?_
      rcases registered with ok | ok
      · exact .inl ⟨started, by simp [ok]⟩
      · exact .inr ⟨started, by simp [ok]⟩
    | attach id provider uid =>
      obtain ⟨step, made, user, step_user, rfl⟩ := own
      exact h.answer_attach (found step made user step_user) provider uid
    | _ => contradiction

/-- Calls of the tenant fail alike or are answered alike, whatever happens outside of the stores. -/
theorem store (surroundings : Surroundings δ) {calls : List Step} {call : StoreCall}
    (started : Nat) (own : withinTenant tenant calls (.store call))
    (found : ∀ step ∈ calls, ∀ user, step.user? = some user →
      user.id ∈ (left.users.ofTenant tenant).map (·.id))
    (fresh : ∀ user,
      Registers user [⟨started, .store call, (surroundings.withMemory.store call left).1⟩] ∨
        Registers user [⟨started, .store call, (surroundings.withMemory.store call right).1⟩] →
      user.id ∉ (left.users.others tenant).map (·.id) ∧
        user.id ∉ (right.users.others tenant).map (·.id)) :
    (surroundings.withMemory.store call left).1 = (surroundings.withMemory.store call right).1 ∧
      StillAgree tenant left right (surroundings.withMemory.store call left).2
        (surroundings.withMemory.store call right).2 ∧
      ∀ user, (⟨started, .store call, (surroundings.withMemory.store call left).1⟩ : Step).user? =
        some user → user.id ∈ (left.users.ofTenant tenant).map (·.id) := by
  revert fresh
  rw [surroundings.withMemory_store call left, surroundings.withMemory_store call right,
    ← h.outside]
  rcases surroundings.failure call left.outside with ⟨failure, outside⟩
  intro fresh
  cases failure with
  | some e =>
    refine ⟨rfl, h.elsewhere outside, fun user step_user => ?_⟩
    cases call <;> contradiction
  | none =>
    have elsewhere := h.elsewhere outside
    obtain ⟨answered, worlds⟩ := elsewhere.agree.answer started own found fresh
    refine ⟨answered, elsewhere.trans worlds, fun user step_user => ?_⟩
    have stored : user ∈ ({ left with outside } : Memory δ).users.ofTenant tenant :=
      mem_ofTenant_of_user? own step_user
    exact List.mem_map_of_mem stored

end AgreeOn

/-! ## One action -/

/-- Two worlds with the same surroundings.  It is taken for granted that no user gets an id that is
used at the beginning in either of them. -/
def besideFrom (surroundings : Surroundings δ) (left right : Memory δ) :
    Comparison (Memory δ) (Memory δ) where
  left := surroundings.withMemory
  right := surroundings.withMemory
  granted steps steps' := ∀ user, Registers user steps ∨ Registers user steps' →
    user.id ∉ left.users.ids ∧ user.id ∉ right.users.ids
  granted_of_append := by
    intro steps more others moreOthers granted user registered
    refine granted user ?_
    rcases registered with ⟨started, made⟩ | ⟨started, made⟩
    · exact .inl ⟨started, List.mem_append_left _ made⟩
    · exact .inr ⟨started, List.mem_append_left _ made⟩

/-- Two runs have done the same for a tenant so far, with worlds that still agree on it.  The
accounts that were found are accounts of the tenant. -/
structure Isolated (tenant : TenantId) (left right : Memory δ) (s t : Progress (Memory δ)) :
    Prop where
  steps : s.steps = t.steps
  clock : s.moment.clock = t.moment.clock
  worlds : StillAgree tenant left right s.moment.state t.moment.state
  found : ∀ step ∈ s.steps, ∀ user, step.user? = some user →
    user.id ∈ (s.moment.state.users.ofTenant tenant).map (·.id)

namespace Isolated

variable {surroundings : Surroundings δ} {tenant : TenantId} {left right : Memory δ}
  {s t : Progress (Memory δ)}

/-- An action that gets the same reply in both worlds, after which they still agree. -/
theorem extend (h : Isolated tenant left right s t) {environment : Environment (Memory δ)}
    {action : Action}
    (reply : (environment.reply s.moment action).1 = (environment.reply t.moment action).1)
    (clock : (environment.reply s.moment action).2.clock =
      (environment.reply t.moment action).2.clock)
    (worlds : StillAgree tenant s.moment.state t.moment.state
      (environment.reply s.moment action).2.state (environment.reply t.moment action).2.state)
    (found : ∀ user,
      (⟨s.moment.clock, action, (environment.reply s.moment action).1⟩ : Step).user? = some user →
        user.id ∈ (s.moment.state.users.ofTenant tenant).map (·.id)) :
    Isolated tenant left right (s.act environment action) (t.act environment action) where
  steps := by
    rw [Progress.act_steps, Progress.act_steps, h.steps, h.clock, reply]
  clock := clock
  worlds := h.worlds.trans worlds
  found := by
    intro step made user step_user
    refine worlds.known _ ?_
    rcases List.mem_append.mp made with before | last
    · exact h.found step before user step_user
    · obtain rfl := List.mem_singleton.mp last
      exact found user step_user

/-- What one action that belongs to the tenant keeps. -/
theorem act (h : Isolated tenant left right s t) {action : Action}
    (own : Rule.withinTenant tenant s.steps action)
    (granted : (besideFrom surroundings left right).granted
      (s.act surroundings.withMemory action).steps (t.act surroundings.withMemory action).steps) :
    (surroundings.withMemory.reply s.moment action).1 =
        (surroundings.withMemory.reply t.moment action).1 ∧
      Isolated tenant left right (s.act surroundings.withMemory action)
        (t.act surroundings.withMemory action) := by
  have agree := h.worlds.agree
  cases action with
  | store call =>
    have found : ∀ step ∈ callSteps s.steps, ∀ user, step.user? = some user →
        user.id ∈ (s.moment.state.users.ofTenant tenant).map (·.id) :=
      fun step made => h.found step (List.mem_filter.mp made).1
    have fresh : ∀ user,
        Registers user [⟨s.moment.clock, .store call,
            (surroundings.withMemory.store call s.moment.state).1⟩] ∨
          Registers user [⟨s.moment.clock, .store call,
            (surroundings.withMemory.store call t.moment.state).1⟩] →
        user.id ∉ (s.moment.state.users.others tenant).map (·.id) ∧
          user.id ∉ (t.moment.state.users.others tenant).map (·.id) := by
      intro user registered
      rw [h.clock] at registered
      have recorded : Registers user (s.act surroundings.withMemory (.store call)).steps ∨
          Registers user (t.act surroundings.withMemory (.store call)).steps := by
        rw [Progress.act_steps, Progress.act_steps, h.clock]
        refine registered.imp ?_ ?_
        · exact fun ⟨started, made⟩ => ⟨started, List.mem_append_right _ made⟩
        · exact fun ⟨started, made⟩ => ⟨started, List.mem_append_right _ made⟩
      obtain ⟨left_fresh, right_fresh⟩ := granted user recorded
      rw [h.worlds.left_others, h.worlds.right_others]
      exact ⟨fun taken => left_fresh (UserStore.mem_ids_iff.mpr (.inr taken)),
        fun taken => right_fresh (UserStore.mem_ids_iff.mpr (.inr taken))⟩
    obtain ⟨reply, worlds, known⟩ := agree.store surroundings s.moment.clock
      ((Rule.onCalls_iff _ rfl).mp own) found fresh
    exact ⟨reply, h.extend reply h.clock worlds known⟩
  | directory call limit =>
    have responded : surroundings.directory call s.moment.state.outside =
        surroundings.directory call t.moment.state.outside := by rw [agree.outside]
    have reply : (surroundings.withMemory.reply s.moment (.directory call limit)).1 =
        (surroundings.withMemory.reply t.moment (.directory call limit)).1 :=
      congrArg (fun responded => responded.1.await limit) responded
    have worlds : StillAgree tenant s.moment.state t.moment.state
        (surroundings.withMemory.directory call s.moment.state).2
        (surroundings.withMemory.directory call t.moment.state).2 := by
      simp only [Surroundings.withMemory, ← responded]
      exact agree.elsewhere _
    refine ⟨reply, h.extend reply ?_ worlds nofun⟩
    change s.moment.clock + min _ limit = t.moment.clock + min _ limit
    rw [h.clock]
    exact congrArg (fun responded => t.moment.clock + min responded.1.latency limit) responded
  | readClock => exact ⟨h.clock, h.extend h.clock h.clock agree.refl_still nofun⟩
  | drawUserId =>
    have drawn : surroundings.drawUserId s.moment.state.outside =
        surroundings.drawUserId t.moment.state.outside := by rw [agree.outside]
    have worlds : StillAgree tenant s.moment.state t.moment.state
        (surroundings.withMemory.drawUserId s.moment.state).2
        (surroundings.withMemory.drawUserId t.moment.state).2 := by
      simp only [Surroundings.withMemory, ← drawn]
      exact agree.elsewhere _
    have reply := congrArg Prod.fst drawn
    exact ⟨reply, h.extend reply h.clock worlds nofun⟩
  | log event => exact ⟨rfl, h.extend rfl h.clock agree.refl_still nofun⟩

end Isolated

/-! ## Operations -/

namespace Task

/-- In two worlds that agree on a tenant a task has the same result and the same steps, so that it
makes the same calls, gets the same replies, and logs the same events at the same time.  Afterwards
the accounts of the tenant are the same in both worlds, and the accounts of all others are in each
of them as they were.  This is said of all surroundings, as long as no one is registered under an id
that was used before in one of the two worlds. -/
def IsolatedIn (tenant : TenantId) (task : Task ε α) : Prop :=
  ∀ {δ : Type} (surroundings : Surroundings δ) (clock : Nat) (left right : Memory δ),
    AgreeOn tenant left right →
    let one := task.run.run surroundings.withMemory ⟨clock, left⟩
    let two := task.run.run surroundings.withMemory ⟨clock, right⟩
    (∀ user, Registers user one.steps ∨ Registers user two.steps →
      user.id ∉ left.users.ids ∧ user.id ∉ right.users.ids) →
    one.result = two.result ∧ one.steps = two.steps ∧ one.after.clock = two.after.clock ∧
      one.after.state.users.ofTenant tenant = two.after.state.users.ofTenant tenant ∧
      one.after.state.users.others tenant = left.users.others tenant ∧
      two.after.state.users.others tenant = right.users.others tenant

/-- A task is isolated in a tenant if all it does belongs to the tenant. -/
theorem isolatedIn_of_obeys {tenant : TenantId} {task : Task ε α}
    (obeys : ∀ earlier, Obeys (.withinTenant tenant) task earlier) : IsolatedIn tenant task := by
  intro δ surroundings clock left right agree one two granted
  have alike : EndAlike (besideFrom surroundings left right) (Isolated tenant left right) task task
      (Isolated tenant left right) :=
    endAlike_self obeys fun action s t own hst granted => hst.act own granted
  have begun : Isolated tenant left right (.begin ⟨clock, left⟩) (.begin ⟨clock, right⟩) :=
    ⟨rfl, rfl, agree.refl_still, by simp⟩
  obtain ⟨same, ended⟩ := alike.run begun granted
  exact ⟨same, ended.steps, ended.clock, ended.worlds.agree.users, ended.worlds.left_others,
    ended.worlds.right_others⟩

end Task

namespace Service

/-- Every operation of a tenant is isolated in the tenant. -/
theorem isolates (service : Service) (context : Context) (provider username password : String)
    (request : SignInRequest) :
    Task.IsolatedIn context.tenant.id (service.signIn context request) ∧
      Task.IsolatedIn context.tenant.id (service.verify context provider username password) ∧
      Task.IsolatedIn context.tenant.id (service.readProfile context provider username) ∧
      Task.IsolatedIn context.tenant.id (service.checkProvider context provider) ∧
      Task.IsolatedIn context.tenant.id (service.allProviders context) ∧
      Task.IsolatedIn context.tenant.id (service.activeProviders context) := by
  have permissive := permissive_withinTenant context.tenant.id
  refine ⟨?_, ?_, ?_, ?_, ?_, ?_⟩
  · refine Task.isolatedIn_of_obeys fun earlier =>
      permissive.obeys_signIn service earlier request fun profile _ => ?_
    exact (Reconciliation.permitted_withinTenant context.tenant request.provider
      profile).obeys_reconcile
  · exact Task.isolatedIn_of_obeys (permissive.obeys_verify service provider username password)
  · exact Task.isolatedIn_of_obeys (permissive.obeys_readProfile service provider username)
  · exact Task.isolatedIn_of_obeys (permissive.obeys_checkProvider service provider)
  · exact Task.isolatedIn_of_obeys (permissive.obeys_allProviders service)
  · exact Task.isolatedIn_of_obeys (permissive.obeys_activeProviders service)

/-- The sample world with an account of another tenant, which has the link of the sample request. -/
def crowded (script : Script) : Memory Script :=
  { Memory.sample script with
    users := ⟨[⟨⟨⟨7⟩⟩, ⟨⟨1⟩⟩, "Ada", "ada@example.org", .visitor, [⟨"ldap", "ada"⟩]⟩]⟩ }

/-- A visitor of the sample tenant is registered, whoever has the same link in another one. -/
theorem isolates_sample :
    let script := Script.finding [[.sample "ada"], [.sample "ada"]]
    let task := Service.sample.signIn .sample .sample
    let one := task.run.run Script.surroundings.withMemory ⟨0, .sample script⟩
    let two := task.run.run Script.surroundings.withMemory ⟨0, crowded script⟩
    AgreeOn Context.sample.tenant.id (.sample script) (crowded script) ∧
      one.result.toOption.map (·.reconciliation.kind) = some "registered" ∧
      one.result = two.result ∧ one.calls = two.calls ∧
      two.after.state.users.count = one.after.state.users.count + 1 := by
  intro script task one two
  have agree : AgreeOn Context.sample.tenant.id (.sample script) (crowded script) :=
    ⟨rfl, by decide, rfl, by decide, by decide⟩
  have drawn : (one.calls ++ two.calls).all (fun
      | .store (.register user) => user.id == Script.userId 0
      | _ => true) = true := by
    decide +kernel
  have fresh : ∀ user, Registers user one.steps ∨ Registers user two.steps →
      user.id ∉ (Memory.sample script).users.ids ∧ user.id ∉ (crowded script).users.ids := by
    intro user registered
    have called : .store (.register user) ∈ one.calls ++ two.calls := by
      rcases registered with ⟨started, made⟩ | ⟨started, made⟩
      · exact List.mem_append_left _ (List.mem_filterMap.mpr ⟨_, made, rfl⟩)
      · exact List.mem_append_right _ (List.mem_filterMap.mpr ⟨_, made, rfl⟩)
    have id_eq : user.id = Script.userId 0 := by
      simpa using List.all_eq_true.mp drawn _ called
    rw [id_eq]
    decide
  obtain ⟨same, steps, -, -, -, -⟩ :=
    (isolates .sample .sample "ldap" "ada" "ada-pw" .sample).1 Script.surroundings 0 _ _ agree fresh
  refine ⟨agree, by decide +kernel, same, ?_, by decide +kernel⟩
  exact congrArg (List.filterMap Step.call?) steps

end Service

end DirectorySignIn
