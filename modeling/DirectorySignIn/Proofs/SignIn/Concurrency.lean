import DirectorySignIn.Program.Script
import DirectorySignIn.Proofs.Account.Links
import DirectorySignIn.Proofs.Program.Interleaving
import DirectorySignIn.Proofs.SignIn.Attempts

/-!
# Reconciliations at the same time

Several reconciliations in one tenant, whose calls on the stores come in any order.  Each of them
looks its link up before it gives the link to anyone, but what it found then may be out of date by
the time it writes: nothing keeps the accounts as they were in between.

Two reconciliations race if both looked the same link up in vain before either of them gave it to
anyone, and then gave it to different accounts.  Other than by a race no link comes to be held
twice, whatever the order of the calls and whichever of them fail.

Main results:

- `Attempt.obeys_conduct`: a reconciliation writes once at most, and only after it has looked its
  link up in vain.
- `inOrder_play`: what holds of the accounts and of the turns while reconciliations are carried out.
- `distinct_or_raced`: the accounts of a tenant hold different links, unless there was a race.
- `disjoint_or_raced`: they have no link in common, unless there was a race.
- `raced_strangers`: two strangers with one link who are both registered.
-/

namespace DirectorySignIn

open Reconciliation

variable {δ ι : Type}

/-! ## What one reconciliation does -/

/-- The account that a step wrote to. -/
def Step.written? : Step → Option UserId
  | ⟨_, .store (.attach id _ _), .ok _⟩ => some id
  | ⟨_, .store (.register user), .ok _⟩ => some user.id
  | _ => none

/-- A step that wrote to an account is a write. -/
theorem Step.isWrite_of_written? {step : Step} {id : UserId} (written : step.written? = some id) :
    step.isWrite = true := by
  rcases step with ⟨started, call | _ | _ | _ | _, reply⟩
  · cases call with
    | attach | register => rfl
    | _ => contradiction
  all_goals contradiction

namespace Attempt

/-- The link was looked up, and nobody held it. -/
def Missed (attempt : Attempt) (steps : List Step) : Prop :=
  ∃ started, ⟨started, .store (.findIdentity attempt.tenant.id attempt.provider attempt.profile.id),
    .ok none⟩ ∈ steps

/-- The link was looked up in vain, and nothing was written yet. -/
structure Ready (attempt : Attempt) (steps : List Step) : Prop where
  missed : attempt.Missed steps
  unwritten : ∀ step ∈ steps, step.isWrite = false

/-- A call gives the link of an attempt to an account. -/
inductive Gives (attempt : Attempt) : StoreCall → UserId → Prop where
  | attach (id : UserId) : Gives attempt (.attach id attempt.provider attempt.profile.id) id
  | register (id : UserId) :
      Gives attempt (.register (attempt.profile.visitor id attempt.tenant.id attempt.provider)) id

/-- All that is written is the link, once, and after it was looked up in vain. -/
def conduct (attempt : Attempt) : Rule
  | earlier, .store call =>
    call.isWrite = true → attempt.Ready earlier ∧ ∃ id, attempt.Gives call id
  | _, _ => True

/-- The program of an attempt. -/
def program (attempt : Attempt) : Program (Except Error Reconciliation) :=
  (reconcile attempt.tenant attempt.provider attempt.profile).run

variable {attempt : Attempt} {earlier : List Step}

/-- An attempt that is ready stays so while it reads. -/
theorem Ready.snoc (ready : attempt.Ready earlier) {step : Step} (reads : step.isWrite = false) :
    attempt.Ready (earlier ++ [step]) where
  missed := by
    obtain ⟨started, asked⟩ := ready.missed
    exact ⟨started, List.mem_append_left _ asked⟩
  unwritten := by simpa [or_imp, forall_and, reads] using ready.unwritten

/-- An attempt that has written nothing is ready once it has looked its link up in vain. -/
theorem ready_of_missed (unwritten : ∀ step ∈ earlier, step.isWrite = false) (started : Nat) :
    attempt.Ready (earlier ++ [⟨started, .store (.findIdentity attempt.tenant.id attempt.provider
      attempt.profile.id), .ok none⟩]) where
  missed := ⟨started, List.mem_append_right _ (List.mem_singleton_self _)⟩
  unwritten := by
    simpa [or_imp, forall_and, Step.isWrite, Step.call?, Call.isWrite, StoreCall.isWrite]
      using unwritten

/-- To read is within the conduct of an attempt at any time. -/
theorem conduct_of_read {call : StoreCall} (reads : call.isWrite = false) :
    attempt.conduct earlier (.store call) := by
  intro writes
  rw [reads] at writes
  contradiction

/-- The conduct of an attempt lets a reconciliation go on. -/
theorem licence (attempt : Attempt) :
    Licence attempt.conduct (fun steps => ∀ step ∈ steps, step.isWrite = false) attempt.Ready
      attempt.tenant attempt.provider attempt.profile where
  log _ _ := trivial
  newUserId _ := trivial
  findIdentity _ := conduct_of_read rfl
  findEmail _ := conduct_of_read rfl
  missed _ started unwritten := ready_of_missed unwritten started
  reading _ _ ready reads := ready.snoc reads
  attach _ _ user ready _ := fun _ => ⟨ready, user.id, .attach user.id⟩
  register _ id ready := fun _ => ⟨ready, id, .register id⟩

/-- A reconciliation writes once at most, and only after it has looked its link up in vain. -/
theorem obeys_conduct (attempt : Attempt) :
    Task.Obeys attempt.conduct (reconcile attempt.tenant attempt.provider attempt.profile) [] :=
  attempt.licence.obeys_reconcile (by simp)

end Attempt

/-! ## Races -/

section Race

variable [DecidableEq ι]

/-- A party has given its link to the account with an id. -/
def Wrote (party : ι) (id : UserId) (turns : List (Turn ι)) : Prop :=
  ∃ step ∈ ownSteps party turns, step.written? = some id

/-- Two parties have the same link to give. -/
def Rivals (attempts : ι → Attempt) (first second : ι) : Prop :=
  first ≠ second ∧ (attempts first).provider = (attempts second).provider ∧
    (attempts first).profile.id = (attempts second).profile.id

/-- A rival has given the link of a party to an account after both of them had looked it up in
vain. -/
def Overtaken (attempts : ι → Attempt) (party : ι) (id : UserId) (turns : List (Turn ι)) : Prop :=
  ∃ rival, Rivals attempts rival party ∧ ∃ before after, turns = before ++ after ∧
    (attempts rival).Missed (ownSteps rival before) ∧
    (attempts party).Missed (ownSteps party before) ∧ Wrote rival id after

/-- Two rivals have both looked their link up in vain, and have then given it to different
accounts. -/
def Raced (attempts : ι → Attempt) (turns : List (Turn ι)) : Prop :=
  ∃ first second, Rivals attempts first second ∧ ∃ before after, turns = before ++ after ∧
    (attempts first).Missed (ownSteps first before) ∧
    (attempts second).Missed (ownSteps second before) ∧
    ∃ a b, a ≠ b ∧ Wrote first a after ∧ Wrote second b after

variable {attempts : ι → Attempt} {party : ι} {id : UserId} {turns : List (Turn ι)}

/-- What a party has written it has written whatever comes later. -/
theorem Wrote.append (wrote : Wrote party id turns) (later : List (Turn ι)) :
    Wrote party id (turns ++ later) := by
  obtain ⟨step, done, written⟩ := wrote
  exact ⟨step, by simp [done], written⟩

/-- What a party has written it has written whatever came before. -/
theorem Wrote.behind (wrote : Wrote party id turns) (earlier : List (Turn ι)) :
    Wrote party id (earlier ++ turns) := by
  obtain ⟨step, done, written⟩ := wrote
  exact ⟨step, by simp [done], written⟩

/-- A party has written what it writes in its turn. -/
theorem wrote_self {step : Step} (written : step.written? = some id) :
    Wrote party id [⟨party, step⟩] :=
  ⟨step, by simp, written⟩

/-- A party that was overtaken is so whatever comes later. -/
theorem Overtaken.append (overtaken : Overtaken attempts party id turns) (later : List (Turn ι)) :
    Overtaken attempts party id (turns ++ later) := by
  obtain ⟨rival, rivals, before, after, rfl, first, second, wrote⟩ := overtaken
  exact ⟨rival, rivals, before, after ++ later, List.append_assoc .., first, second,
    wrote.append later⟩

/-- A race is one whatever comes later. -/
theorem Raced.append (raced : Raced attempts turns) (later : List (Turn ι)) :
    Raced attempts (turns ++ later) := by
  obtain ⟨first, second, rivals, before, after, rfl, missed, missed', a, b, ne, wrote, wrote'⟩ :=
    raced
  exact ⟨first, second, rivals, before, after ++ later, List.append_assoc .., missed, missed', a, b,
    ne, wrote.append later, wrote'.append later⟩

/-- To give a link after a rival has done so is to have raced, unless it is given to the same
account. -/
theorem Overtaken.raced {other : UserId} (overtaken : Overtaken attempts party id turns)
    {step : Step} (written : step.written? = some other) (ne : id ≠ other) :
    Raced attempts (turns ++ [⟨party, step⟩]) := by
  obtain ⟨rival, rivals, before, after, rfl, missed, missed', wrote⟩ := overtaken
  exact ⟨rival, party, rivals, before, after ++ [⟨party, step⟩], List.append_assoc .., missed,
    missed', id, other, ne, wrote.append _, (wrote_self written).behind _⟩

/-! ## What a step does to the accounts -/

/-- A link that was looked up in vain is held by no account of the tenant. -/
theorem not_holds_of_missed {surroundings : Surroundings δ} {moment : Moment (Memory δ)}
    {action : Action} {attempt : Attempt}
    (missed : attempt.Missed
      [⟨moment.clock, action, (surroundings.withMemory.reply moment action).1⟩]) :
    ∀ user ∈ moment.state.users.users,
      ¬ user.Holds attempt.tenant.id attempt.provider attempt.profile.id := by
  obtain ⟨started, asked⟩ := missed
  have same := List.mem_singleton.mp asked
  obtain rfl : .store (.findIdentity attempt.tenant.id attempt.provider attempt.profile.id) =
    action := congrArg Step.action same
  simp only [Step.mk.injEq, heq_eq_eq, true_and, Environment.reply_store] at same
  have vain := same.2
  have unknown : moment.state.users.findIdentity? attempt.tenant.id attempt.provider
      attempt.profile.id = none := by
    rcases surroundings.store_cases (.findIdentity attempt.tenant.id attempt.provider
      attempt.profile.id) moment.state with ⟨e, outside, h⟩ | ⟨outside, h⟩
    · rw [h] at vain
      contradiction
    · rw [h] at vain
      exact (Except.ok.inj vain).symm
  rintro user stored ⟨own, held⟩
  exact UserStore.linkedId?_ne_of_findIdentity?_eq_none unknown user stored own held

/-- A call that gives a link to an account fails and leaves the accounts as they were, or gives
it. -/
theorem Attempt.Gives.reply {attempt : Attempt} {call : StoreCall} (gives : attempt.Gives call id)
    (surroundings : Surroundings δ) (moment : Moment (Memory δ)) :
    let answered := surroundings.withMemory.reply moment (.store call)
    answered.2.state.users = moment.state.users ∨
      moment.state.users.Given attempt.provider attempt.profile.id id answered.2.state.users ∧
        Step.written? ⟨moment.clock, .store call, answered.1⟩ = some id := by
  rw [Environment.reply_store]
  rcases surroundings.store_cases call moment.state with ⟨e, outside, h⟩ | ⟨outside, h⟩
  · rw [h]
    exact .inl rfl
  · rw [h]
    cases gives with
    | attach id =>
      cases written : moment.state.users.attach id attempt.provider attempt.profile.id with
      | error e => simp [Memory.answer, written, Memory.afterWrite]
      | ok after =>
        simp only [Memory.answer, written, Memory.afterWrite]
        exact .inr ⟨.attached written, rfl⟩
    | register id =>
      cases written : moment.state.users.register
          (attempt.profile.visitor id attempt.tenant.id attempt.provider) with
      | error e => simp [Memory.answer, written, Memory.afterWrite]
      | ok after =>
        simp only [Memory.answer, written, Memory.afterWrite]
        exact .inr ⟨.registered (attempt.profile.links_visitor ..) written, rfl⟩

/-! ## What turns do to the accounts -/

/-- The accounts hold different links, and whoever holds the link of a party that is ready to give
it was given it by a rival in the meantime. -/
structure Sound (attempts : ι → Attempt) (tenant : TenantId) (turns : List (Turn ι))
    (users : UserStore) : Prop where
  distinct : users.LinksDistinct tenant
  overtaken : ∀ party, (attempts party).Ready (ownSteps party turns) →
    ∀ holder ∈ users.users,
      holder.Holds tenant (attempts party).provider (attempts party).profile.id →
        users.get? holder.id = some holder ∧ Overtaken attempts party holder.id turns

namespace Sound

variable {tenant : TenantId} {users : UserStore}

/-- A step that leaves the accounts as they were keeps them sound. -/
theorem read {surroundings : Surroundings δ} {moment : Moment (Memory δ)}
    (sound : Sound attempts tenant turns moment.state.users)
    (own : (attempts party).tenant.id = tenant) (action : Action) :
    Sound attempts tenant
      (turns ++ [⟨party, moment.clock, action, (surroundings.withMemory.reply moment action).1⟩])
      moment.state.users where
  distinct := sound.distinct
  overtaken other ready holder stored holds := by
    by_cases same : other = party
    · subst same
      obtain ⟨⟨started, asked⟩, unwritten⟩ := ready
      rw [ownSteps_append, ownSteps_self] at asked unwritten
      rcases List.mem_append.mp asked with before | now
      · have ready : (attempts other).Ready (ownSteps other turns) :=
          ⟨⟨started, before⟩, fun step older => unwritten step (List.mem_append_left _ older)⟩
        obtain ⟨isFirst, overtaken⟩ := sound.overtaken other ready holder stored holds
        exact ⟨isFirst, overtaken.append _⟩
      · rw [← own] at holds
        exact absurd holds (not_holds_of_missed ⟨started, now⟩ holder stored)
    · rw [ownSteps_append, ownSteps_of_ne (Ne.symm same), List.append_nil] at ready
      obtain ⟨isFirst, overtaken⟩ := sound.overtaken other ready holder stored holds
      exact ⟨isFirst, overtaken.append _⟩

/-- To give a link after it was looked up in vain keeps the accounts sound, or is a race. -/
theorem given {after : UserStore} {step : Step} (sound : Sound attempts tenant turns users)
    (ready : (attempts party).Ready (ownSteps party turns))
    (given : users.Given (attempts party).provider (attempts party).profile.id id after)
    (written : step.written? = some id) :
    Sound attempts tenant (turns ++ [⟨party, step⟩]) after ∨
      Raced attempts (turns ++ [⟨party, step⟩]) := by
  by_cases elsewhere : ∃ holder ∈ users.users, holder.id ≠ id ∧
      holder.Holds tenant (attempts party).provider (attempts party).profile.id
  · obtain ⟨holder, stored, ne, holds⟩ := elsewhere
    exact .inr ((sound.overtaken party ready holder stored holds).2.raced written ne)
  refine .inl ⟨given.linksDistinct sound.distinct fun holder stored holds => ?_, ?_⟩
  · have sameId : holder.id = id := by
      by_contra ne
      exact elsewhere ⟨holder, stored, ne, holds⟩
    exact ⟨sameId, (sound.overtaken party ready holder stored holds).1⟩
  · intro other readyThen holder stored holds
    by_cases same : other = party
    · -- The party itself has written now and is not ready any more.
      have unwritten := readyThen.unwritten step (by simp [same])
      rw [Step.isWrite_of_written? written] at unwritten
      contradiction
    rw [ownSteps_append, ownSteps_of_ne (Ne.symm same), List.append_nil] at readyThen
    cases given.holds sound.distinct stored holds with
    | now sameLink sameId isFirst =>
      obtain ⟨key, uid⟩ := Link.mk.inj sameLink
      rw [sameId]
      rw [sameId] at isFirst
      exact ⟨isFirst, party, ⟨Ne.symm same, key.symm, uid.symm⟩, turns, _, rfl, ready.missed,
        readyThen.missed, wrote_self written⟩
    | before formerly sameId held isFirst =>
      obtain ⟨first, overtaken⟩ := sound.overtaken other readyThen _ formerly held
      exact ⟨isFirst first, sameId ▸ overtaken.append _⟩

end Sound

/-- The accounts are sound or there was a race, and whatever happened, each account has one link per
key if it had so before. -/
def InOrder (attempts : ι → Attempt) (tenant : TenantId) (before : UserStore)
    (turns : List (Turn ι)) (moment : Moment (Memory δ)) : Prop :=
  (Sound attempts tenant turns moment.state.users ∨ Raced attempts turns) ∧
    ((∀ user ∈ before.users, user.OneLinkPerKey) →
      ∀ user ∈ moment.state.users.users, user.OneLinkPerKey)

/-- What a party may do after its own steps keeps the accounts in order. -/
theorem InOrder.step {surroundings : Surroundings δ} {moment : Moment (Memory δ)}
    {tenant : TenantId} {before : UserStore}
    (order : InOrder attempts tenant before turns moment)
    (own : (attempts party).tenant.id = tenant) {action : Action}
    (allowed : (attempts party).conduct (ownSteps party turns) action) :
    let answered := surroundings.withMemory.reply moment action
    InOrder attempts tenant before (turns ++ [⟨party, moment.clock, action, answered.1⟩])
      answered.2 := by
  obtain ⟨sound, keys⟩ := order
  intro answered
  have same_users : answered.2.state.users = moment.state.users →
      InOrder attempts tenant before (turns ++ [⟨party, moment.clock, action, answered.1⟩])
        answered.2 := by
    intro kept
    unfold InOrder
    rw [kept]
    exact ⟨sound.imp (·.read own action) (·.append _), keys⟩
  by_cases writing : ∃ call, action = .store call ∧ call.isWrite = true
  · obtain ⟨call, rfl, isWrite⟩ := writing
    obtain ⟨ready, id, gives⟩ := allowed isWrite
    rcases gives.reply surroundings moment with kept | ⟨given, written⟩
    · exact same_users kept
    · refine ⟨?_, fun before => given.oneLinkPerKey (keys before)⟩
      rcases sound with sound | raced
      · exact sound.given ready given written
      · exact .inr (raced.append _)
  · refine same_users (surroundings.users_reply moment action fun call made => ?_)
    rcases action with call' | _ | _ | _ | _
    · obtain rfl := Option.some.inj made
      by_contra isWrite
      exact writing ⟨call', rfl, by simpa [Call.isWrite] using isWrite⟩
    · obtain rfl := Option.some.inj made
      rfl
    all_goals contradiction

/-- The calls of reconciliations in one tenant keep the accounts in order, however they come. -/
theorem inOrder_play (attempts : ι → Attempt) (tenant : TenantId)
    (own : ∀ party, (attempts party).tenant.id = tenant) (surroundings : Surroundings δ)
    (moment : Moment (Memory δ)) (distinct : moment.state.users.LinksDistinct tenant)
    (order : List ι) :
    let later := (Interplay.start (fun party => (attempts party).program) moment).play
      surroundings.withMemory order
    InOrder attempts tenant moment.state.users later.turns later.moment := by
  have begun : InOrder attempts tenant moment.state.users [] moment := by
    refine ⟨.inl ⟨distinct, fun party ready => ?_⟩, id⟩
    obtain ⟨started, asked⟩ := ready.missed
    contradiction
  have conducted : (Interplay.start (fun party => (attempts party).program) moment).Conducted
      (fun party => (attempts party).conduct)
      (fun _ => Task.outcome (fun _ _ => True) fun _ _ => True) :=
    fun party => (attempts party).obeys_conduct
  exact (Interplay.play_invariant
    (fun _ _ party _ inOrder allowed => inOrder.step (own party) allowed) conducted begun order).2

/-- However the calls of reconciliations in one tenant come, and whichever of them fail, the
accounts hold different links afterwards, as they did before, unless two of the reconciliations have
raced; and each account has one link per key if it had so before. -/
theorem distinct_or_raced (attempts : ι → Attempt) (tenant : TenantId)
    (own : ∀ party, (attempts party).tenant.id = tenant) (surroundings : Surroundings δ)
    (moment : Moment (Memory δ)) (distinct : moment.state.users.LinksDistinct tenant)
    (order : List ι) :
    let later := (Interplay.start (fun party => (attempts party).program) moment).play
      surroundings.withMemory order
    (later.moment.state.users.LinksDistinct tenant ∨ Raced attempts later.turns) ∧
      ((∀ user ∈ moment.state.users.users, user.OneLinkPerKey) →
        ∀ user ∈ later.moment.state.users.users, user.OneLinkPerKey) := by
  obtain ⟨sound, keys⟩ := inOrder_play attempts tenant own surroundings moment distinct order
  exact ⟨sound.imp_left (·.distinct), keys⟩

/-- Seen from their lists of links: if each account has one link per key and no two accounts of the
tenant have a link in common, none have one in common afterwards, unless two of the reconciliations
have raced. -/
theorem disjoint_or_raced (attempts : ι → Attempt) (tenant : TenantId)
    (own : ∀ party, (attempts party).tenant.id = tenant) (surroundings : Surroundings δ)
    (moment : Moment (Memory δ)) (keys : ∀ user ∈ moment.state.users.users, user.OneLinkPerKey)
    (disjoint : moment.state.users.LinksDisjoint tenant) (order : List ι) :
    let later := (Interplay.start (fun party => (attempts party).program) moment).play
      surroundings.withMemory order
    later.moment.state.users.LinksDisjoint tenant ∨ Raced attempts later.turns := by
  intro later
  have distinct := (UserStore.linksDistinct_iff keys).mpr disjoint
  obtain ⟨sound, keysLater⟩ := inOrder_play attempts tenant own surroundings moment distinct order
  exact sound.imp_left fun sound => (UserStore.linksDistinct_iff (keysLater keys)).mp sound.distinct

end Race

/-! ## Two attempts at once -/

/-- Someone whom a directory knows as ada. -/
def Attempt.ada : Attempt :=
  ⟨⟨⟨⟨0⟩⟩, "demo", false⟩, "ldap", ⟨"ada", "Ada", "ada@example.org"⟩⟩

/-- Two attempts of the same one, which take turns until both are done. -/
def bothAda (users : UserStore) :
    Interplay (Memory Script) Bool (Except Error Reconciliation) :=
  (Interplay.start (fun _ => Attempt.ada.program) ⟨0, ⟨.empty, users, {}⟩⟩).play
    Script.surroundings.withMemory [true, false, true, false, true, false, true, false, true, false,
      true, false]

/-- Both find the same account by email and link it: that is no race. -/
theorem distinct_or_raced_by_email :
    Attempt.ada.tenant.id = User.sample.tenant ∧
      (⟨[User.sample]⟩ : UserStore).LinksDistinct User.sample.tenant ∧
      (bothAda ⟨[User.sample]⟩).result? true =
        some (.ok (.linked (User.sample.link "ldap" "ada"))) ∧
      (bothAda ⟨[User.sample]⟩).result? false =
        some (.ok (.linked (User.sample.link "ldap" "ada"))) ∧
      ((bothAda ⟨[User.sample]⟩).moment.state.users.LinksDistinct User.sample.tenant ∨
        Raced (fun _ => Attempt.ada) (bothAda ⟨[User.sample]⟩).turns) := by
  have distinct : (⟨[User.sample]⟩ : UserStore).LinksDistinct User.sample.tenant :=
    List.pairwise_singleton _ _
  exact ⟨rfl, distinct, by decide +kernel, by decide +kernel,
    (distinct_or_raced (fun _ => Attempt.ada) _ (fun _ => rfl) _ _ distinct _).1⟩

/-- The account of ada that is the so-manieth to be registered. -/
def adaAccount (n : Nat) : User :=
  Attempt.ada.profile.visitor (Script.userId n) Attempt.ada.tenant.id "ldap"

/-- Nobody has the email address, both are registered under different ids, and two accounts hold the
link. -/
theorem raced_strangers :
    UserStore.empty.LinksDistinct Attempt.ada.tenant.id ∧
      (bothAda .empty).result? true = some (.ok (.registered (adaAccount 0))) ∧
      (bothAda .empty).result? false = some (.ok (.registered (adaAccount 1))) ∧
      (adaAccount 0).id ≠ (adaAccount 1).id ∧
      ¬ (bothAda .empty).moment.state.users.LinksDistinct Attempt.ada.tenant.id := by
  have stored : (bothAda .empty).moment.state.users = ⟨[adaAccount 0, adaAccount 1]⟩ := by
    decide +kernel
  refine ⟨UserStore.linksDistinct_empty _, by decide +kernel, by decide +kernel, by decide, ?_⟩
  rw [stored]
  intro distinct
  exact List.pairwise_pair.mp distinct "ldap" "ada" ⟨rfl, rfl⟩ ⟨rfl, rfl⟩

end DirectorySignIn
