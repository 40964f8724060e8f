import DirectorySignIn.Proofs.Program.Outcome
import DirectorySignIn.SignIn.Reconciliation

/-!
# What a reconciliation comes to

Against stores in memory nothing of a reconciliation is left to chance but what is outside of the
stores: which of its calls are made to fail, and which id is drawn for a new account.  These two are
its fate.  Given its fate, the calls that it makes, its result and the accounts after it are a
function of the accounts before it.

Main results:

- `settles`: every reconciliation comes to what its fate and the accounts settle.
-/

namespace DirectorySignIn

variable {δ : Type}

/-! ## Fates -/

/-- What befalls a reconciliation from outside of the stores: the failures of its calls, and the id
that is drawn for a new account. -/
structure Fate where
  failure : StoreCall → Option Error
  id : UserId

namespace Fate

variable {α : Type}

/-- The outcome of a call, unless the call is made to fail. -/
def permit (fate : Fate) (call : StoreCall) (outcome : Except Error α) : Except Error α :=
  match fate.failure call with
  | some e => .error e
  | none => outcome

/-- A call succeeds if it is not made to fail and its outcome is good. -/
theorem permit_eq_ok_iff {fate : Fate} {call : StoreCall} {outcome : Except Error α} {a : α} :
    fate.permit call outcome = .ok a ↔ fate.failure call = none ∧ outcome = .ok a := by
  rw [permit]
  cases fate.failure call <;> simp

/-- A call fails if it is made to fail or if its outcome is an error. -/
theorem permit_eq_error_iff {fate : Fate} {call : StoreCall} {outcome : Except Error α}
    {e : Error} :
    fate.permit call outcome = .error e ↔
      fate.failure call = some e ∨ fate.failure call = none ∧ outcome = .error e := by
  rw [permit]
  cases fate.failure call <;> simp

/-- No call is made to fail. -/
def Unhindered (fate : Fate) : Prop :=
  ∀ call, fate.failure call = none

/-- If nothing is made to fail, all calls have their outcomes. -/
theorem Unhindered.permit_eq {fate : Fate} (unhindered : fate.Unhindered) (call : StoreCall)
    (outcome : Except Error α) : fate.permit call outcome = outcome := by
  rw [permit, unhindered call]

end Fate

namespace Surroundings

/-- What is outside of the stores after a link has been looked up. -/
def afterIdentity (surroundings : Surroundings δ) (tenant : TenantId) (provider : String)
    (profile : Profile) (outside : δ) : δ :=
  (surroundings.failure (.findIdentity tenant provider profile.id) outside).2

/-- What is outside of the stores after a link and an email address have been looked up. -/
def afterLookups (surroundings : Surroundings δ) (tenant : TenantId) (provider : String)
    (profile : Profile) (outside : δ) : δ :=
  let asked := surroundings.afterIdentity tenant provider profile outside
  if profile.email = "" then asked
  else (surroundings.failure (.findEmail tenant profile.email) asked).2

/-- The fate of a reconciliation.  Each of its calls finds outside of the stores what the calls
before it have left there. -/
def fate (surroundings : Surroundings δ) (tenant : TenantId) (provider : String)
    (profile : Profile) (outside : δ) : Fate :=
  let asked := surroundings.afterIdentity tenant provider profile outside
  let searched := surroundings.afterLookups tenant provider profile outside
  let drawn := surroundings.drawUserId searched
  { failure := fun call =>
      match call with
      | .findEmail _ _ => (surroundings.failure call asked).1
      | .attach _ _ _ => (surroundings.failure call searched).1
      | .register _ => (surroundings.failure call drawn.2).1
      | _ => (surroundings.failure call outside).1
    id := drawn.1 }

end Surroundings

namespace Reconciliation

/-! ## Settlements -/

/-- The lookup by email, which is left out for the empty address. -/
def emailLookup (tenant : TenantId) (email : String) : List Call :=
  if email = "" then [] else [.store (.findEmail tenant email)]

/-- The lookups before a write. -/
def lookups (tenant : TenantId) (provider : String) (profile : Profile) : List Call :=
  .store (.findIdentity tenant provider profile.id) :: emailLookup tenant profile.email

/-- What a reconciliation comes to: the calls that it makes, its result, and the accounts after
it. -/
structure Settlement where
  calls : List Call
  result : Except Error Reconciliation
  users : UserStore

/-- What comes of a write.  One that fails leaves the accounts as they were, and is a persistence
failure whatever was wrong. -/
def Settlement.ofWrite (users : UserStore) (write : StoreCall) (outcome : Reconciliation) :
    Except Error UserStore → Settlement
  | .ok after => ⟨[.store write], .ok outcome, after⟩
  | .error e => ⟨[.store write], .error e.asWriteFailure, users⟩

/-- Calls that were made before. -/
def Settlement.behind (calls : List Call) (settlement : Settlement) : Settlement :=
  { settlement with calls := calls ++ settlement.calls }

variable (fate : Fate) (users : UserStore) (tenant : Tenant) (provider : String)
  (profile : Profile)

/-- What the tenant settles for someone whom nobody is known to be. -/
def settleStranger : Settlement :=
  if tenant.isPrivate then ⟨[], .error .notInvited, users⟩
  else
    let visitor := profile.visitor fate.id tenant.id provider
    .ofWrite users (.register visitor) (.registered visitor)
      (fate.permit (.register visitor) (users.register visitor))

/-- What is found by an email address.  Nobody is asked about the empty address. -/
def emailFound : Except Error (Option User) :=
  if profile.email = "" then .ok none
  else fate.permit (.findEmail tenant.id profile.email)
    (.ok (users.findEmail? tenant.id profile.email))

/-- What the email address settles for someone whose link nobody holds. -/
def settleUnknown : Settlement :=
  .behind (emailLookup tenant.id profile.email) <|
    match emailFound fate users tenant profile with
    | .error e => ⟨[], .error e, users⟩
    | .ok (some user) =>
      .ofWrite users (.attach user.id provider profile.id)
        (.linked (user.link provider profile.id))
        (fate.permit (.attach user.id provider profile.id)
          (users.attach user.id provider profile.id))
    | .ok none => settleStranger fate users tenant provider profile

/-- What the accounts settle for a profile. -/
def settle : Settlement :=
  .behind [.store (.findIdentity tenant.id provider profile.id)] <|
    match fate.permit (.findIdentity tenant.id provider profile.id)
      (.ok (users.findIdentity? tenant.id provider profile.id)) with
    | .error e => ⟨[], .error e, users⟩
    | .ok (some user) => ⟨[], .ok (.existing user), users⟩
    | .ok none => settleUnknown fate users tenant provider profile

/-! ## Calls on the stores -/

section Calls

variable {surroundings : Surroundings δ} {fate : Fate} {memory : Memory δ}

/-- The stores after a call that left everything as it was but what is outside of them. -/
def passed (surroundings : Surroundings δ) (call : StoreCall) (memory : Memory δ) : Memory δ :=
  { memory with outside := (surroundings.failure call memory.outside).2 }

/-- A call fails as it is fated to, or is answered by the stores. -/
theorem store_eq {call : StoreCall}
    (fated : fate.failure call = (surroundings.failure call memory.outside).1) :
    surroundings.withMemory.store call memory =
      match fate.failure call with
      | some e => (.error e, passed surroundings call memory)
      | none => (passed surroundings call memory).answer call := by
  rw [surroundings.withMemory_store, fated, passed]
  rcases surroundings.failure call memory.outside with ⟨failure, outside⟩
  cases failure <;> rfl

/-- A read fails as it is fated to, or answers what the stores hold. -/
theorem store_read {call : StoreCall} {found : call.Answer}
    (fated : fate.failure call = (surroundings.failure call memory.outside).1)
    (answered : (passed surroundings call memory).answer call =
      (.ok found, passed surroundings call memory)) :
    surroundings.withMemory.store call memory =
      (fate.permit call (.ok found), passed surroundings call memory) := by
  rw [store_eq fated, answered, Fate.permit]
  cases fate.failure call <;> rfl

/-- The linking of an account fails as it is fated to, or has the outcome of the accounts. -/
theorem store_attach {id : UserId} {provider uid : String}
    (fated : fate.failure (.attach id provider uid) =
      (surroundings.failure (.attach id provider uid) memory.outside).1) :
    surroundings.withMemory.store (.attach id provider uid) memory =
      (passed surroundings (.attach id provider uid) memory).afterWrite
        (fate.permit (.attach id provider uid) (memory.users.attach id provider uid)) := by
  rw [store_eq fated, Fate.permit]
  cases fate.failure (.attach id provider uid) <;> rfl

/-- A registration fails as it is fated to, or has the outcome of the accounts. -/
theorem store_register {user : User}
    (fated : fate.failure (.register user) =
      (surroundings.failure (.register user) memory.outside).1) :
    surroundings.withMemory.store (.register user) memory =
      (passed surroundings (.register user) memory).afterWrite
        (fate.permit (.register user) (memory.users.register user)) := by
  rw [store_eq fated, Fate.permit]
  cases fate.failure (.register user) <;> rfl

end Calls

/-! ## Runs -/

/-- A task against stores in memory comes to a settlement. -/
def Settles (surroundings : Surroundings δ) (task : Task Error Reconciliation)
    (moment : Moment (Memory δ)) (settlement : Settlement) : Prop :=
  ∃ after, Task.Yields surroundings.withMemory task moment settlement.calls settlement.result
    after ∧ after.state.users = settlement.users

section Runs

variable {surroundings : Surroundings δ} {moment : Moment (Memory δ)} {outside : δ}
  {tenant : Tenant} {provider : String} {profile : Profile}

/-- What a task settles after calls that have succeeded. -/
theorem Settles.behind {α : Type} {task : Task Error α} {f : α → Task Error Reconciliation}
    {calls : List Call} {a : α} {middle : Moment (Memory δ)} {settlement : Settlement}
    (first : Task.Yields surroundings.withMemory task moment calls (.ok a) middle)
    (second : Settles surroundings (f a) middle settlement) :
    Settles surroundings (task >>= f) moment (settlement.behind calls) := by
  obtain ⟨after, yields, users⟩ := second
  exact ⟨after, first.bind_ok yields, users⟩

/-- A task that fails at its first calls settles nothing else. -/
theorem Settles.failed {α : Type} {task : Task Error α} {f : α → Task Error Reconciliation}
    {calls : List Call} {e : Error} {after : Moment (Memory δ)} {users : UserStore}
    (first : Task.Yields surroundings.withMemory task moment calls (.error e) after)
    (kept : after.state.users = users) :
    Settles surroundings (task >>= f) moment (.behind calls ⟨[], .error e, users⟩) := by
  refine ⟨after, ?_, kept⟩
  have whole := first.bind_error (f := f)
  rwa [← List.append_nil calls] at whole

/-- A write settles the rest of a task, which goes on only if it was carried out. -/
theorem settles_write {task : Task Error Unit} {write : StoreCall} {memory : Memory δ}
    {outcome : Except Error UserStore}
    (yields : Task.Yields surroundings.withMemory task moment [.store write]
      ((memory.afterWrite outcome).1.mapError Error.asWriteFailure)
      ⟨moment.clock, (memory.afterWrite outcome).2⟩)
    (kept : memory.users = moment.state.users) (event : LogEvent) (reconciliation : Reconciliation) :
    Settles surroundings (do task; Task.log event; return reconciliation) moment
      (.ofWrite moment.state.users write reconciliation outcome) := by
  cases outcome with
  | error e => exact ⟨_, yields.bind_error, kept⟩
  | ok after => exact ⟨_, yields.bind_ok (.bind_ok (.log _) (.pure _)), rfl⟩

/-- The warning of a replaced link makes no calls. -/
theorem yields_warnOfReplacement {σ : Type} (environment : Environment σ) (moment : Moment σ)
    (user : User) (provider : String) :
    Task.Yields environment (warnOfReplacement user provider) moment [] (.ok ()) moment := by
  unfold warnOfReplacement
  split
  · exact .log _
  · exact .pure ()

/-- A stranger is refused without a call. -/
theorem yields_refuseStranger {σ : Type} (environment : Environment σ) (moment : Moment σ)
    (tenant : TenantId) (provider : String) :
    Task.Yields environment (refuseStranger tenant provider) moment [] (.error .notInvited)
      moment :=
  .bind_ok (.log _) (.throw _)

/-- The linking of an account settles one write. -/
theorem settles_linkAccount (user : User)
    (now : moment.state.outside = surroundings.afterLookups tenant.id provider profile outside) :
    let fate := surroundings.fate tenant.id provider profile outside
    Settles surroundings (linkAccount user provider profile.id) moment
      (.ofWrite moment.state.users (.attach user.id provider profile.id)
        (.linked (user.link provider profile.id))
        (fate.permit (.attach user.id provider profile.id)
          (moment.state.users.attach user.id provider profile.id))) := by
  intro fate
  have fated : fate.failure (.attach user.id provider profile.id) =
      (surroundings.failure (.attach user.id provider profile.id) moment.state.outside).1 := by
    rw [now]
    rfl
  have attached := ((Task.Yields.store (store_attach fated)).logged
    (.identityStored user.id provider)).adapt Error.asWriteFailure
  exact .behind (yields_warnOfReplacement surroundings.withMemory moment user provider)
    (settles_write attached rfl (.linkedByEmail provider user.id) _)

/-- The registration of a visitor settles one write. -/
theorem settles_registerVisitor
    (now : moment.state.outside = surroundings.afterLookups tenant.id provider profile outside) :
    let fate := surroundings.fate tenant.id provider profile outside
    let visitor := profile.visitor fate.id tenant.id provider
    Settles surroundings (registerVisitor tenant.id provider profile) moment
      (.ofWrite moment.state.users (.register visitor) (.registered visitor)
        (fate.permit (.register visitor) (moment.state.users.register visitor))) := by
  intro fate visitor
  let later : Moment (Memory δ) :=
    ⟨moment.clock, (surroundings.withMemory.drawUserId moment.state).2⟩
  have drawn : Task.Yields surroundings.withMemory (ExceptT.lift Program.newUserId) moment []
      (.ok (surroundings.drawUserId moment.state.outside).1 : Except Error UserId) later :=
    .newUserId
  have fated : fate.failure (.register visitor) =
      (surroundings.failure (.register visitor) later.state.outside).1 := by
    have left : later.state.outside = (surroundings.drawUserId moment.state.outside).2 := rfl
    rw [left, now]
    rfl
  have stored : Task.Yields surroundings.withMemory (Task.store (.register visitor)) later _ _ _ :=
    .store (store_register fated)
  have registered := (stored.logged (.userStored visitor.id tenant.id)).adapt Error.asWriteFailure
  rw [now] at drawn
  exact .behind drawn (settles_write registered rfl (.registeredFromProfile provider visitor.id) _)

/-- What is done for a stranger is what the tenant settles. -/
theorem settles_stranger
    (now : moment.state.outside = surroundings.afterLookups tenant.id provider profile outside) :
    Settles surroundings
      (if tenant.isPrivate then refuseStranger tenant.id provider
        else registerVisitor tenant.id provider profile) moment
      (settleStranger (surroundings.fate tenant.id provider profile outside) moment.state.users
        tenant provider profile) := by
  unfold settleStranger
  cases tenant.isPrivate with
  | true => exact ⟨moment, yields_refuseStranger _ moment tenant.id provider, rfl⟩
  | false => exact settles_registerVisitor now

/-- The lookup by email fails or finds what the accounts hold, and leaves them as they were. -/
theorem exists_yields_findEmail
    (now : moment.state.outside = surroundings.afterIdentity tenant.id provider profile outside) :
    ∃ middle,
      Task.Yields surroundings.withMemory (findEmail tenant.id profile.email) moment
        (emailLookup tenant.id profile.email)
        (emailFound (surroundings.fate tenant.id provider profile outside) moment.state.users tenant
          profile) middle ∧
      middle.state.users = moment.state.users ∧
      middle.state.outside = surroundings.afterLookups tenant.id provider profile outside := by
  unfold findEmail emailLookup emailFound Surroundings.afterLookups
  by_cases empty : profile.email = ""
  · rw [if_pos empty, if_pos empty, if_pos empty, if_pos empty]
    exact ⟨moment, .pure none, rfl, now⟩
  · rw [if_neg empty, if_neg empty, if_neg empty, if_neg empty, ← now]
    refine ⟨_, .store (store_read ?_ rfl), rfl, rfl⟩
    rw [now]
    rfl

/-- What is done for someone whose link nobody holds is what the email address settles. -/
theorem settles_unknown
    (now : moment.state.outside = surroundings.afterIdentity tenant.id provider profile outside) :
    Settles surroundings
      (do
        match ← findEmail tenant.id profile.email with
        | some user => linkAccount user provider profile.id
        | none =>
          if tenant.isPrivate then refuseStranger tenant.id provider
          else registerVisitor tenant.id provider profile)
      moment
      (settleUnknown (surroundings.fate tenant.id provider profile outside) moment.state.users
        tenant provider profile) := by
  obtain ⟨middle, searched, kept, later⟩ := exists_yields_findEmail now
  unfold settleUnknown
  rw [← kept] at searched ⊢
  rcases found : emailFound (surroundings.fate tenant.id provider profile outside)
    middle.state.users tenant profile with e | _ | user
  · rw [found] at searched
    exact .failed searched rfl
  · rw [found] at searched
    exact .behind searched (settles_stranger later)
  · rw [found] at searched
    exact .behind searched (settles_linkAccount user later)

/-- Every reconciliation comes to what its fate and the accounts settle. -/
theorem settles (surroundings : Surroundings δ) (moment : Moment (Memory δ)) (tenant : Tenant)
    (provider : String) (profile : Profile) :
    Settles surroundings (reconcile tenant provider profile) moment
      (settle (surroundings.fate tenant.id provider profile moment.state.outside)
        moment.state.users tenant provider profile) := by
  let identity : StoreCall := .findIdentity tenant.id provider profile.id
  let middle : Moment (Memory δ) := ⟨moment.clock, passed surroundings identity moment.state⟩
  have asked : Task.Yields surroundings.withMemory (Task.store identity) moment [.store identity]
      ((surroundings.fate tenant.id provider profile moment.state.outside).permit identity
        (.ok (moment.state.users.findIdentity? tenant.id provider profile.id))) middle :=
    .store (store_read rfl rfl)
  unfold settle
  rcases found : (surroundings.fate tenant.id provider profile moment.state.outside).permit identity
    (.ok (moment.state.users.findIdentity? tenant.id provider profile.id)) with e | _ | user
  · rw [found] at asked
    exact .failed asked rfl
  · rw [found] at asked
    exact .behind asked (settles_unknown rfl)
  · rw [found] at asked
    exact .behind asked ⟨middle, .bind_ok (.log _) (.pure _), rfl⟩

end Runs

end Reconciliation

end DirectorySignIn
