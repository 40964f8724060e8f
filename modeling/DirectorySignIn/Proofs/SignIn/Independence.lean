import DirectorySignIn.Proofs.Account.Lookup
import DirectorySignIn.Proofs.SignIn.Attempts
import DirectorySignIn.Proofs.SignIn.Faultless
import DirectorySignIn.Proofs.Text.LetterCase

/-!
# Reconciliations in either order

Two reconciliations do not get in each other's way if they belong to different tenants, or if they go
through different providers and have no email address in common.  What one of them writes then
cannot be seen by the look-ups of the other: a link that one sets is under a key that the other does
not ask for, and an account that one makes is neither held nor addressed by the other.  So each comes
upon the same account whether it is first or second, and the accounts are the same in the end.

Main results:

- `Attempt.Independent.finding_accounts`: an attempt comes upon the same account after an independent
  one as before it.
- `Attempt.comm`: two independent attempts have the same outcomes in either order, and leave the same
  accounts.
-/

namespace DirectorySignIn

open Reconciliation

variable {δ : Type}

/-! ## Linking by id -/

/-- Links the account with an id, and leaves all others alone. -/
def User.relinkAt (id : UserId) (provider uid : String) (user : User) : User :=
  if user.id = id then user.link provider uid else user

namespace User

variable {id other : UserId} {provider key uid : String} {user : User}

@[simp]
theorem relinkAt_id : (user.relinkAt id provider uid).id = user.id := by
  unfold relinkAt
  split <;> rfl

@[simp]
theorem relinkAt_tenant : (user.relinkAt id provider uid).tenant = user.tenant := by
  unfold relinkAt
  split <;> rfl

@[simp]
theorem relinkAt_email : (user.relinkAt id provider uid).email = user.email := by
  unfold relinkAt
  split <;> rfl

/-- An account with another id is left alone. -/
theorem relinkAt_of_ne (apart : user.id ≠ id) : user.relinkAt id provider uid = user :=
  if_neg apart

/-- What is linked under other keys is left alone. -/
theorem linkedId?_relinkAt (apart : key ≠ provider) :
    (user.relinkAt id provider uid).linkedId? key = user.linkedId? key := by
  unfold relinkAt
  split
  · exact linkedId_link_of_ne user uid apart
  · rfl

/-- Two accounts are linked in either order. -/
theorem relinkAt_comm (apart : id ≠ other) (key value : String) (user : User) :
    (user.relinkAt id provider uid).relinkAt other key value =
      (user.relinkAt other key value).relinkAt id provider uid := by
  by_cases here : user.id = id
  · have elsewhere : user.id ≠ other := fun there => apart (here.symm.trans there)
    have still : (user.relinkAt id provider uid).id ≠ other := by rwa [relinkAt_id]
    rw [relinkAt_of_ne elsewhere, relinkAt_of_ne still]
  · have still : (user.relinkAt other key value).id ≠ id := by rwa [relinkAt_id]
    rw [relinkAt_of_ne here, relinkAt_of_ne still]

end User

namespace UserStore

/-- If no two accounts have an id in common, linking changes the one that has it. -/
theorem updateFirst_eq_map {id : UserId} {provider uid : String} {users : List User}
    (unique : (users.map (·.id)).Nodup) :
    updateFirst id (·.link provider uid) users = users.map (·.relinkAt id provider uid) := by
  induction users with
  | nil => rfl
  | cons user rest ih =>
    obtain ⟨alone, unique⟩ := List.nodup_cons.mp unique
    by_cases here : user.id = id
    · have others : ∀ other ∈ rest, other.relinkAt id provider uid = other := by
        intro other stored
        refine User.relinkAt_of_ne fun same => alone ?_
        exact List.mem_map.mpr ⟨other, stored, same.trans here.symm⟩
      rw [updateFirst, if_pos here, List.map_cons, List.map_congr_left others, List.map_id',
        User.relinkAt, if_pos here]
    · rw [updateFirst, if_neg here, List.map_cons, ih unique, User.relinkAt_of_ne here]

end UserStore

/-! ## Whom an attempt comes upon -/

/-- Whom a profile turns out to belong to. -/
inductive Finding where
  /-- An account that holds the link. -/
  | holder (user : User)
  /-- An account that has the email address. -/
  | owner (user : User)
  | nobody
deriving DecidableEq

/-- What was found, after a change to the accounts. -/
def Finding.map (change : User → User) : Finding → Finding
  | holder user => .holder (change user)
  | owner user => .owner (change user)
  | nobody => .nobody

namespace Attempt

/-- Whom an attempt comes upon. -/
def finding (attempt : Attempt) (users : UserStore) : Finding :=
  match users.findIdentity? attempt.tenant.id attempt.provider attempt.profile.id with
  | some user => .holder user
  | none =>
    match users.findEmail? attempt.tenant.id attempt.profile.email with
    | some user => .owner user
    | none => .nobody

/-- The outcome of an attempt, given whom it comes upon and the id of a new account. -/
def outcome (attempt : Attempt) (id : UserId) : Finding → Except Error Reconciliation
  | .holder user => .ok (.existing user)
  | .owner user => .ok (.linked (user.link attempt.provider attempt.profile.id))
  | .nobody =>
    if attempt.tenant.isPrivate then .error .notInvited
    else .ok (.registered (attempt.profile.visitor id attempt.tenant.id attempt.provider))

/-- What an attempt makes of an account that is stored. -/
def change (attempt : Attempt) : Finding → User → User
  | .owner user => User.relinkAt user.id attempt.provider attempt.profile.id
  | _ => id

/-- The accounts that an attempt adds. -/
def added (attempt : Attempt) (id : UserId) : Finding → List User
  | .nobody =>
    if attempt.tenant.isPrivate then []
    else [attempt.profile.visitor id attempt.tenant.id attempt.provider]
  | _ => []

/-- The accounts after an attempt. -/
def accounts (attempt : Attempt) (id : UserId) (users : UserStore) : UserStore :=
  ⟨users.users.map (attempt.change (attempt.finding users)) ++
    attempt.added id (attempt.finding users)⟩

variable (attempt : Attempt) {users : UserStore} {fate : Fate} {user : User}

/-- If nothing is made to fail and the id is free, a stranger is refused or added. -/
theorem settleStranger_of_unhindered (unhindered : fate.Unhindered) (fresh : fate.id ∉ users.ids) :
    let settled := settleStranger fate users attempt.tenant attempt.provider attempt.profile
    settled.result = attempt.outcome fate.id .nobody ∧
      settled.users = ⟨users.users ++ attempt.added fate.id .nobody⟩ := by
  intro settled
  unfold settled settleStranger outcome added
  cases attempt.tenant.isPrivate with
  | true => exact ⟨rfl, by simp⟩
  | false =>
    have free : (attempt.profile.visitor fate.id attempt.tenant.id attempt.provider).id ∉
      users.ids := fresh
    simp only [Bool.false_eq_true, if_false]
    rw [unhindered.permit_eq, UserStore.register_of_not_mem free]
    exact ⟨rfl, rfl⟩

/-- If nothing fails, an attempt has the outcome and makes the changes that go with whom it comes
upon. -/
theorem settle_of_unhindered (unhindered : fate.Unhindered) (unique : users.ids.Nodup)
    (fresh : fate.id ∉ users.ids) :
    let settled := settle fate users attempt.tenant attempt.provider attempt.profile
    settled.result = attempt.outcome fate.id (attempt.finding users) ∧
      settled.users = attempt.accounts fate.id users := by
  intro settled
  unfold settled accounts finding
  rw [Reconciliation.settle_of_unhindered unhindered]
  cases known : users.findIdentity? attempt.tenant.id attempt.provider attempt.profile.id with
  | some user => exact ⟨rfl, by simp [change, added]⟩
  | none =>
    cases found : users.findEmail? attempt.tenant.id attempt.profile.email with
    | some user =>
      obtain ⟨stored, -⟩ := UserStore.of_findEmail?_eq_some found
      dsimp only
      rw [UserStore.attach_of_mem (List.mem_map_of_mem stored), UserStore.attached,
        UserStore.updateFirst_eq_map unique]
      exact ⟨rfl, by simp [Settlement.behind, Settlement.ofWrite, change, added]⟩
    | none =>
      obtain ⟨result, left⟩ := attempt.settleStranger_of_unhindered unhindered fresh
      exact ⟨result, by simpa [Settlement.behind, change] using left⟩

end Attempt

/-- Surroundings in which no store fails and a new account is given a certain id. -/
structure Surroundings.Grants (surroundings : Surroundings δ) (id : UserId) : Prop where
  faultless : surroundings.Faultless
  draws : ∀ outside, (surroundings.drawUserId outside).1 = id

/-- Surroundings in which no store fails and every new account is given a certain id. -/
def Surroundings.granting (id : UserId) : Surroundings Unit :=
  { calm with drawUserId := fun outside => (id, outside) }

/-- Surroundings that grant an id grant it. -/
theorem Surroundings.grants_granting (id : UserId) : (granting id).Grants id :=
  ⟨fun _ _ => rfl, fun _ => rfl⟩

/-- The run of an attempt. -/
def Attempt.run (surroundings : Surroundings δ) (attempt : Attempt) (moment : Moment (Memory δ)) :
    Run (Memory δ) (Except Error Reconciliation) :=
  (reconcile attempt.tenant attempt.provider attempt.profile).run.run surroundings.withMemory moment

/-- What comes of an attempt to which a free id is granted. -/
theorem Surroundings.Grants.run {surroundings : Surroundings δ} {id : UserId}
    (grants : surroundings.Grants id) (attempt : Attempt) {moment : Moment (Memory δ)}
    (unique : moment.state.users.ids.Nodup) (fresh : id ∉ moment.state.users.ids) :
    (attempt.run surroundings moment).result =
        attempt.outcome id (attempt.finding moment.state.users) ∧
      (attempt.run surroundings moment).after.state.users =
        attempt.accounts id moment.state.users := by
  obtain ⟨_, ⟨-, result, rfl⟩, users⟩ :=
    settles surroundings moment attempt.tenant attempt.provider attempt.profile
  have granted : (surroundings.fate attempt.tenant.id attempt.provider attempt.profile
      moment.state.outside).id = id := grants.draws _
  obtain ⟨settledResult, settledUsers⟩ := attempt.settle_of_unhindered
    (grants.faultless.unhindered attempt.tenant.id attempt.provider attempt.profile
      moment.state.outside) unique (by rwa [granted])
  rw [granted] at settledResult settledUsers
  exact ⟨result.trans settledResult, users.trans settledUsers⟩

/-! ## Independent attempts -/

/-- Two email addresses are the same address, up to the case of ASCII letters. -/
def SameAddress (email other : String) : Prop :=
  email ≠ "" ∧ other ≠ "" ∧ Text.equalFold email other = true

namespace Attempt

/-- Two attempts do not concern the same things: they belong to different tenants, or they go
through different providers and have no email address in common. -/
def Independent (a b : Attempt) : Prop :=
  a.tenant.id ≠ b.tenant.id ∨
    a.provider ≠ b.provider ∧ ¬ SameAddress a.profile.email b.profile.email

variable {a b : Attempt} {users : UserStore} {user account : User} {id : UserId}

/-- The independence of two attempts does not depend on their order. -/
theorem Independent.symm (h : a.Independent b) : b.Independent a := by
  refine h.imp Ne.symm (And.imp Ne.symm (mt ?_))
  rintro ⟨one, other, same⟩
  exact ⟨other, one, by rwa [Text.equalFold_comm]⟩

/-- The account that an attempt comes upon by the link is stored. -/
theorem mem_of_finding_holder (found : a.finding users = .holder user) : user ∈ users.users := by
  unfold finding at found
  split at found
  · rename_i known
    obtain rfl := Finding.holder.inj found
    exact List.mem_of_find?_eq_some known
  · split at found <;> contradiction

/-- The account that an attempt comes upon by email is stored and has the address. -/
theorem of_finding_owner (found : a.finding users = .owner user) :
    user ∈ users.users ∧ user.IsAddressed a.tenant.id a.profile.email := by
  unfold finding at found
  split at found
  · contradiction
  · split at found
    · rename_i same
      obtain rfl := Finding.owner.inj found
      obtain ⟨_, _, isFirst⟩ := UserStore.findEmail?_eq_some_iff.mp same
      exact ⟨isFirst.mem, isFirst.met⟩
    · contradiction

/-- Two independent attempts do not both come upon one account by its email address. -/
theorem Independent.owners_apart (independent : a.Independent b)
    (unique : users.ids.Nodup) (mine : a.finding users = .owner user)
    (theirs : b.finding users = .owner account) : user.id ≠ account.id := by
  intro same
  obtain ⟨stored, named, own, addressed⟩ := of_finding_owner mine
  obtain ⟨stored', named', own', addressed'⟩ := of_finding_owner theirs
  obtain rfl : user = account := List.inj_on_of_nodup_map unique stored stored' same
  rcases independent with tenants | ⟨-, addresses⟩
  · exact tenants (own.symm.trans own')
  · refine addresses ⟨named, named', Text.equalFold_trans ?_ addressed'⟩
    rwa [Text.equalFold_comm]

/-! ## What an attempt changes -/

@[simp]
theorem change_id (found : Finding) (user : User) : (a.change found user).id = user.id := by
  cases found <;> simp [change]

@[simp]
theorem change_tenant (found : Finding) (user : User) :
    (a.change found user).tenant = user.tenant := by
  cases found <;> simp [change]

@[simp]
theorem change_email (found : Finding) (user : User) :
    (a.change found user).email = user.email := by
  cases found <;> simp [change]

/-- An attempt changes the account with the id that it has found, whatever else has changed there. -/
theorem change_map {other : User → User} (keeps : ∀ user, (other user).id = user.id)
    (found : Finding) : a.change (found.map other) = a.change found := by
  cases found <;> simp [change, Finding.map, keeps]

/-- What an attempt adds does not depend on changes to the account that it came upon. -/
theorem added_map (other : User → User) (found : Finding) :
    a.added id (found.map other) = a.added id found := by
  cases found <;> rfl

/-- An attempt does not change an account that is not stored. -/
theorem change_of_notMem (fresh : user.id ∉ users.ids) :
    a.change (a.finding users) user = user := by
  cases found : a.finding users with
  | holder _ | nobody => rfl
  | owner account =>
    refine User.relinkAt_of_ne fun same => fresh ?_
    rw [same]
    exact List.mem_map_of_mem (of_finding_owner found).1

/-- An attempt adds at most one account, under the id that is given. -/
theorem ids_added (id : UserId) (found : Finding) :
    (a.added id found).map (·.id) = [] ∨ (a.added id found).map (·.id) = [id] := by
  unfold added
  split
  · split
    · exact .inl rfl
    · exact .inr rfl
  · exact .inl rfl

/-- An added account has the id that was drawn. -/
theorem id_of_mem_added {found : Finding} (isNew : user ∈ a.added id found) : user.id = id := by
  have listed := List.mem_map_of_mem (f := User.id) isNew
  rcases a.ids_added id found with none | one
  · rw [none] at listed
    contradiction
  · rw [one] at listed
    exact List.mem_singleton.mp listed

/-- The ids after an attempt are the old ones, and that of a new account. -/
theorem ids_accounts (id : UserId) (users : UserStore) :
    (a.accounts id users).ids = users.ids ++ (a.added id (a.finding users)).map (·.id) := by
  have kept : (fun user : User => user.id) ∘ a.change (a.finding users) = (·.id) :=
    funext fun user => change_id _ user
  rw [UserStore.ids, accounts, List.map_append, List.map_map, kept, UserStore.ids]

/-- After an attempt, no two accounts have an id in common, and another free id is still free. -/
theorem free_accounts (unique : users.ids.Nodup) {mine theirs : UserId} (fresh : mine ∉ users.ids)
    (free : theirs ∉ users.ids) (apart : mine ≠ theirs) :
    (a.accounts mine users).ids.Nodup ∧ theirs ∉ (a.accounts mine users).ids := by
  rw [ids_accounts]
  rcases a.ids_added mine (a.finding users) with none | one
  · rw [none, List.append_nil]
    exact ⟨unique, free⟩
  · rw [one, List.nodup_append, List.mem_append, List.mem_singleton]
    refine ⟨⟨unique, List.nodup_singleton mine, ?_⟩, not_or_intro free apart.symm⟩
    intro old stored new isNew same
    rw [List.mem_singleton.mp isNew] at same
    exact fresh (same ▸ stored)

/-! ## What an independent attempt does not see -/

/-- The link that one attempt sets is not one that an independent attempt asks for. -/
theorem Independent.holds_change (independent : a.Independent b) (unique : users.ids.Nodup)
    (stored : user ∈ users.users) (uid : String) :
    (a.change (a.finding users) user).Holds b.tenant.id b.provider uid ↔
      user.Holds b.tenant.id b.provider uid := by
  unfold User.Holds
  rw [change_tenant]
  refine and_congr_right fun own => ?_
  cases found : a.finding users with
  | holder _ | nobody => rfl
  | owner account =>
    rcases independent with tenants | ⟨providers, -⟩
    · -- The account that is linked belongs to another tenant, and so it is another one.
      obtain ⟨accountStored, -, accountOwn, -⟩ := of_finding_owner found
      have apart : user.id ≠ account.id := by
        intro same
        obtain rfl : user = account :=
          List.inj_on_of_nodup_map unique stored accountStored same
        exact tenants (accountOwn.symm.trans own)
      rw [change, User.relinkAt_of_ne apart]
    · rw [change, User.linkedId?_relinkAt providers.symm]

/-- An attempt changes nobody's email address. -/
theorem isAddressed_change (found : Finding) (user : User) (tenant : TenantId) (email : String) :
    (a.change found user).IsAddressed tenant email ↔ user.IsAddressed tenant email := by
  simp [User.IsAddressed]

/-- An account that one attempt adds is neither held nor addressed by an independent attempt. -/
theorem Independent.unseen_added (independent : a.Independent b) {found : Finding}
    (isNew : user ∈ a.added id found) (uid : String) :
    ¬ user.Holds b.tenant.id b.provider uid ∧ ¬ user.IsAddressed b.tenant.id b.profile.email := by
  unfold added at isNew
  split at isNew
  · split at isNew
    · contradiction
    · obtain rfl := List.mem_singleton.mp isNew
      rcases independent with tenants | ⟨providers, addresses⟩
      · exact ⟨fun holds => tenants holds.1, fun addressed => tenants addressed.2.1⟩
      · refine ⟨by simp [User.Holds, User.linkedId?, providers], ?_⟩
        rintro ⟨named, -, same⟩
        refine addresses ⟨fun empty => named ?_, named, same⟩
        refine Text.eq_empty_of_asciiFold_eq ?_
        rw [← empty]
        exact ((Text.equalFold_iff _ _).mp same).symm
  · contradiction

/-- After an independent attempt, an attempt comes upon the same account as before it. -/
theorem Independent.finding_accounts (independent : a.Independent b) (unique : users.ids.Nodup)
    (id : UserId) :
    b.finding (a.accounts id users) = (b.finding users).map (a.change (a.finding users)) := by
  have held : (a.accounts id users).findIdentity? b.tenant.id b.provider b.profile.id =
      (users.findIdentity? b.tenant.id b.provider b.profile.id).map
        (a.change (a.finding users)) :=
    UserStore.findIdentity?_map_append
      (fun user stored => independent.holds_change unique stored b.profile.id)
      (fun user isNew => (independent.unseen_added isNew b.profile.id).1)
  have addressed : (a.accounts id users).findEmail? b.tenant.id b.profile.email =
      (users.findEmail? b.tenant.id b.profile.email).map (a.change (a.finding users)) :=
    UserStore.findEmail?_map_append
      (fun user _ => isAddressed_change _ user b.tenant.id b.profile.email)
      (fun user isNew => (independent.unseen_added isNew b.profile.id).2)
  generalize a.change (a.finding users) = change at held addressed ⊢
  rw [finding, finding, held, addressed]
  cases users.findIdentity? b.tenant.id b.provider b.profile.id with
  | some user => rfl
  | none => cases users.findEmail? b.tenant.id b.profile.email <;> rfl

/-! ## The accounts in the end -/

/-- What two independent attempts make of an account does not depend on their order. -/
theorem Independent.change_comm (independent : a.Independent b) (unique : users.ids.Nodup)
    (user : User) :
    b.change (b.finding users) (a.change (a.finding users) user) =
      a.change (a.finding users) (b.change (b.finding users) user) := by
  cases mine : a.finding users with
  | holder _ | nobody => rfl
  | owner _ =>
    cases theirs : b.finding users with
    | holder _ | nobody => rfl
    | owner _ => exact User.relinkAt_comm (independent.owners_apart unique mine theirs) _ _ user

/-- The accounts after two independent attempts. -/
theorem Independent.accounts_accounts (independent : a.Independent b) (unique : users.ids.Nodup)
    (fresh : id ∉ users.ids) (other : UserId) :
    b.accounts other (a.accounts id users) =
      ⟨users.users.map (fun user => b.change (b.finding users) (a.change (a.finding users) user)) ++
        a.added id (a.finding users) ++ b.added other (b.finding users)⟩ := by
  have alone : ∀ user ∈ a.added id (a.finding users), b.change (b.finding users) user = user := by
    intro user isNew
    refine change_of_notMem ?_
    rwa [id_of_mem_added isNew]
  rw [accounts, independent.finding_accounts unique id, change_map (change_id _), added_map,
    accounts, List.map_append, List.map_map, List.map_congr_left alone, List.map_id']
  rfl

/-! ## The outcomes -/

/-- The outcome of an attempt, when it is made second, agrees with the outcome when it is made first:
it is the same one, unless the attempt comes upon an account which the other attempt links. -/
inductive Agrees (other : Attempt) (theirs : Except Error Reconciliation) :
    Except Error Reconciliation → Except Error Reconciliation → Prop where
  | same (result : Except Error Reconciliation) : Agrees other theirs result result
  | shared (user : User)
      (linked : theirs = .ok (.linked (user.link other.provider other.profile.id))) :
      Agrees other theirs (.ok (.existing user))
        (.ok (.existing (user.link other.provider other.profile.id)))

/-- The outcome of an attempt after an independent one agrees with the outcome it would have had
before. -/
theorem Independent.agrees (independent : a.Independent b) (unique : users.ids.Nodup)
    (mine theirs : UserId) :
    Agrees a (a.outcome mine (a.finding users)) (b.outcome theirs (b.finding users))
      (b.outcome theirs (b.finding (a.accounts mine users))) := by
  rw [independent.finding_accounts unique mine]
  cases linked : a.finding users with
  | holder _ | nobody => cases b.finding users <;> exact .same _
  | owner account =>
    cases found : b.finding users with
    | nobody => exact .same _
    | owner user =>
      have apart := (independent.owners_apart unique linked found).symm
      rw [Finding.map, change, User.relinkAt_of_ne apart]
      exact .same _
    | holder user =>
      by_cases same : user.id = account.id
      · obtain rfl : user = account := List.inj_on_of_nodup_map unique
          (mem_of_finding_holder found) (of_finding_owner linked).1 same
        rw [Finding.map, change, User.relinkAt, if_pos rfl]
        exact .shared user rfl
      · rw [Finding.map, change, User.relinkAt_of_ne same]
        exact .same _

/-! ## Either order -/

/-- The second of two independent attempts: its outcome agrees with the one it would have had as the
first, and the accounts are those that the changes and the new accounts of both make. -/
theorem Independent.second (independent : a.Independent b) {one two : Surroundings δ}
    {mine theirs : UserId} (moment : Moment (Memory δ)) (grantsOne : one.Grants mine)
    (grantsTwo : two.Grants theirs) (apart : mine ≠ theirs)
    (unique : moment.state.users.ids.Nodup) (freshMine : mine ∉ moment.state.users.ids)
    (freshTheirs : theirs ∉ moment.state.users.ids) :
    let second := b.run two (a.run one moment).after
    Agrees a (a.run one moment).result (b.run two moment).result second.result ∧
      second.after.state.users = b.accounts theirs (a.accounts mine moment.state.users) := by
  intro second
  obtain ⟨ours, left⟩ := grantsOne.run a unique freshMine
  obtain ⟨alone, -⟩ := grantsTwo.run b unique freshTheirs
  obtain ⟨uniqueAfter, freeAfter⟩ := a.free_accounts unique freshMine freshTheirs apart
  rw [← left] at uniqueAfter freeAfter
  obtain ⟨outcome, after⟩ := grantsTwo.run b uniqueAfter freeAfter
  rw [left] at outcome after
  refine ⟨?_, after⟩
  rw [ours, alone, outcome]
  exact independent.agrees unique mine theirs

/-- Two independent attempts may be made in either order.  Alone, each has the outcome that goes with
whom it comes upon.  As the second, each has the outcome that it has alone, but that an account which
it comes upon may have been linked by the other one.  The accounts are the same in the end. -/
theorem comm {one two : Surroundings δ} {mine theirs : UserId} (a b : Attempt)
    (moment : Moment (Memory δ)) (grantsOne : one.Grants mine) (grantsTwo : two.Grants theirs)
    (apart : mine ≠ theirs) (unique : moment.state.users.ids.Nodup)
    (freshMine : mine ∉ moment.state.users.ids) (freshTheirs : theirs ∉ moment.state.users.ids)
    (independent : a.Independent b) :
    let aFirst := a.run one moment
    let bSecond := b.run two aFirst.after
    let bFirst := b.run two moment
    let aSecond := a.run one bFirst.after
    aFirst.result = a.outcome mine (a.finding moment.state.users) ∧
      bFirst.result = b.outcome theirs (b.finding moment.state.users) ∧
      Agrees a aFirst.result bFirst.result bSecond.result ∧
      Agrees b bFirst.result aFirst.result aSecond.result ∧
      bSecond.after.state.users.users.Perm aSecond.after.state.users.users := by
  intro aFirst bSecond bFirst aSecond
  obtain ⟨bAgrees, bLeft⟩ :=
    independent.second moment grantsOne grantsTwo apart unique freshMine freshTheirs
  obtain ⟨aAgrees, aLeft⟩ :=
    independent.symm.second moment grantsTwo grantsOne apart.symm unique freshTheirs freshMine
  refine ⟨(grantsOne.run a unique freshMine).1, (grantsTwo.run b unique freshTheirs).1, bAgrees,
    aAgrees, ?_⟩
  rw [bLeft, aLeft, independent.accounts_accounts unique freshMine,
    independent.symm.accounts_accounts unique freshTheirs]
  -- The accounts that were there are the same, and the new ones stand in the other order.
  rw [List.map_congr_left fun user _ => independent.change_comm unique user, List.append_assoc,
    List.append_assoc]
  exact List.perm_append_comm.append_left _

/-- Ada has an account that one directory knows by its link and the other by its email address. -/
theorem comm_shared_account :
    let tenant : Tenant := ⟨⟨⟨0⟩⟩, "demo", false⟩
    let known : Attempt := ⟨tenant, "corp", ⟨"7", "Ada", ""⟩⟩
    let linking : Attempt := ⟨tenant, "ldap", ⟨"ada", "Ada", "ada@example.org"⟩⟩
    let user : User := { User.sample with links := [⟨"corp", "7"⟩] }
    let moment : Moment (Memory Unit) := ⟨0, ⟨.empty, ⟨[user]⟩, ()⟩⟩
    let linked := user.link "ldap" "ada"
    let linkingFirst := linking.run (.granting ⟨⟨2⟩⟩) moment
    (Surroundings.granting ⟨⟨1⟩⟩).Grants ⟨⟨1⟩⟩ ∧ (Surroundings.granting ⟨⟨2⟩⟩).Grants ⟨⟨2⟩⟩ ∧
      moment.state.users.ids.Nodup ∧ known.Independent linking ∧
      (known.run (.granting ⟨⟨1⟩⟩) moment).result = .ok (.existing user) ∧
      linkingFirst.result = .ok (.linked linked) ∧
      (known.run (.granting ⟨⟨1⟩⟩) linkingFirst.after).result = .ok (.existing linked) ∧
      Agrees linking (.ok (.linked linked)) (.ok (.existing user)) (.ok (.existing linked)) := by
  intro tenant known linking user moment linked linkingFirst
  have grantsOne := Surroundings.grants_granting ⟨⟨1⟩⟩
  have grantsTwo := Surroundings.grants_granting ⟨⟨2⟩⟩
  have unique : moment.state.users.ids.Nodup := by decide
  have independent : known.Independent linking := .inr ⟨by decide, fun same => same.1 rfl⟩
  have second : (known.run (.granting ⟨⟨1⟩⟩) linkingFirst.after).result =
      .ok (.existing linked) := by decide +kernel
  obtain ⟨alone, first, -, agrees, -⟩ := comm known linking moment grantsOne grantsTwo (by decide)
    unique (by decide) (by decide) independent
  have holder : known.finding moment.state.users = .holder user := by decide +kernel
  have owner : linking.finding moment.state.users = .owner user := by decide +kernel
  rw [holder] at alone
  rw [owner] at first
  rw [first, alone, second] at agrees
  exact ⟨grantsOne, grantsTwo, unique, independent, alone, first, second, agrees⟩

end Attempt

end DirectorySignIn
