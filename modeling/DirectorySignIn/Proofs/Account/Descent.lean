import DirectorySignIn.Proofs.Account.Tenancy

/-!
# Accounts that go on

An account goes on as it was if nothing but its links has changed.  A list of accounts descends from
an older one if it has the older accounts in their places, each of them gone on in some way, and new
accounts behind them.  Descent is what all that happens to the accounts has in common, and it is put
together from what happens one after the other.

Main results:

- `Descends.trans`: what happens one after the other.
- `Descends.exists_kept` and `Descends.origin`: no account is lost, and every account goes on or is
  new.
- `Descends.ids_ofTenant`: a tenant without new accounts has the accounts that it had.
-/

namespace DirectorySignIn

namespace User

/-- The links of an account under a provider key. -/
def linksUnder (user : User) (provider : String) : List Link :=
  user.links.filter (·.provider == provider)

/-- An account after another one that differs in nothing but its links. -/
structure Continues (a b : User) : Prop where
  id : b.id = a.id
  tenant : b.tenant = a.tenant
  name : b.name = a.name
  email : b.email = a.email
  role : b.role = a.role

/-- An account after another one that differs in nothing but its links under certain keys. -/
structure KeptBut (changing : String → Prop) (a b : User) : Prop extends Continues a b where
  links : ∀ provider, ¬ changing provider → b.linksUnder provider = a.linksUnder provider

variable {a b c : User} {changing changing' : String → Prop}

theorem Continues.refl (user : User) : user.Continues user :=
  ⟨rfl, rfl, rfl, rfl, rfl⟩

/-- What continues an account that continues another continues the other. -/
theorem Continues.trans (first : a.Continues b) (second : b.Continues c) : a.Continues c where
  id := second.id.trans first.id
  tenant := second.tenant.trans first.tenant
  name := second.name.trans first.name
  email := second.email.trans first.email
  role := second.role.trans first.role

theorem KeptBut.refl (changing : String → Prop) (user : User) : user.KeptBut changing user :=
  ⟨.refl user, fun _ _ => rfl⟩

/-- Two changes in a row keep all links but those under the keys of either. -/
theorem KeptBut.trans (first : a.KeptBut changing b) (second : b.KeptBut changing' c) :
    a.KeptBut (fun provider => changing provider ∨ changing' provider) c where
  toContinues := first.toContinues.trans second.toContinues
  links provider unchanged := by
    obtain ⟨before, after⟩ := not_or.mp unchanged
    exact (second.links provider after).trans (first.links provider before)

/-- Links that are kept under all keys but some are kept under all keys but more. -/
theorem KeptBut.mono (kept : a.KeptBut changing b)
    (more : ∀ provider, changing provider → changing' provider) : a.KeptBut changing' b :=
  ⟨kept.toContinues, fun provider unchanged => kept.links provider (mt (more provider) unchanged)⟩

/-- Linking changes nothing but the links under the key. -/
theorem keptBut_link (user : User) (provider uid : String) :
    user.KeptBut (· = provider) (user.link provider uid) where
  toContinues := ⟨rfl, rfl, rfl, rfl, rfl⟩
  links key other := by
    have apart : (provider == key) = false := by simpa using Ne.symm other
    have same : ∀ link : Link, (link.provider == key && link.provider != provider) =
        (link.provider == key) := by
      intro link
      by_cases under : link.provider = key
      · simp [under, other]
      · simp [under]
    simp [linksUnder, link, List.filter_append, List.filter_filter, same, apart]

end User

/-- The older accounts in their places, each of them kept, and new accounts behind them. -/
inductive Descends (Kept : User → User → Prop) (New : User → Prop) : List User → List User → Prop
    where
  | added {users : List User} (fresh : ∀ user ∈ users, New user) : Descends Kept New [] users
  | kept {a b : User} {older younger : List User} (head : Kept a b)
      (tail : Descends Kept New older younger) : Descends Kept New (a :: older) (b :: younger)

namespace Descends

variable {Kept Kept' Kept'' : User → User → Prop} {New New' New'' : User → Prop}
  {before middle after : List User}

/-- If accounts are kept by staying the same, the accounts descend from themselves. -/
theorem refl (kept : ∀ user, Kept user user) (users : List User) :
    Descends Kept New users users := by
  induction users with
  | nil => exact .added (by simp)
  | cons user rest ih => exact .kept (kept user) ih

/-- New accounts are put behind the others. -/
theorem append (kept : ∀ user, Kept user user) (users : List User) {user : User}
    (fresh : New user) : Descends Kept New users (users ++ [user]) := by
  induction users with
  | nil => exact .added (by simpa using fresh)
  | cons other rest ih => exact .kept (kept other) ih

/-- One account is changed in its place. -/
theorem replace (kept : ∀ user, Kept user user) (older : List User) {a b : User} (head : Kept a b)
    (younger : List User) : Descends Kept New (older ++ a :: younger) (older ++ b :: younger) := by
  induction older with
  | nil => exact .kept head (refl kept younger)
  | cons other rest ih => exact .kept (kept other) ih

/-- Every account goes on from an older one or is new. -/
theorem origin (descends : Descends Kept New before after) {user : User} (stored : user ∈ after) :
    (∃ former ∈ before, Kept former user) ∨ New user := by
  induction descends with
  | added fresh => exact .inr (fresh user stored)
  | kept head tail ih =>
    rename_i a b older younger
    rcases List.mem_cons.mp stored with rfl | stored
    · exact .inl ⟨a, List.mem_cons_self, head⟩
    · rcases ih stored with ⟨former, formerly, goesOn⟩ | fresh
      · exact .inl ⟨former, List.mem_cons_of_mem _ formerly, goesOn⟩
      · exact .inr fresh

/-- No account is lost. -/
theorem exists_kept (descends : Descends Kept New before after) {user : User}
    (stored : user ∈ before) : ∃ kept ∈ after, Kept user kept := by
  induction descends with
  | added fresh => contradiction
  | kept head tail ih =>
    rename_i a b older younger
    rcases List.mem_cons.mp stored with rfl | stored
    · exact ⟨b, List.mem_cons_self, head⟩
    · obtain ⟨kept, still, goesOn⟩ := ih stored
      exact ⟨kept, List.mem_cons_of_mem _ still, goesOn⟩

/-- What happens to the accounts one after the other. -/
theorem trans (first : Descends Kept New before middle) (second : Descends Kept' New' middle after)
    (keeping : ∀ a b c, Kept a b → Kept' b c → Kept'' a c)
    (lasting : ∀ a b, New a → Kept' a b → New'' b) (renewing : ∀ a, New' a → New'' a) :
    Descends Kept'' New'' before after := by
  induction first generalizing after with
  | added fresh =>
    refine .added fun user stored => ?_
    rcases second.origin stored with ⟨former, formerly, goesOn⟩ | isNew
    · exact lasting former user (fresh former formerly) goesOn
    · exact renewing user isNew
  | kept head tail ih =>
    cases second with
    | kept head' tail' => exact .kept (keeping _ _ _ head head') (ih tail')

/-- A tenant without new accounts has the accounts that it had, in the same order. -/
theorem ids_ofTenant {tenant : TenantId} (descends : Descends Kept New before after)
    (goesOn : ∀ a b, Kept a b → a.Continues b) (foreign : ∀ user, New user → user.tenant ≠ tenant) :
    ((⟨after⟩ : UserStore).ofTenant tenant).map (·.id) =
      ((⟨before⟩ : UserStore).ofTenant tenant).map (·.id) := by
  simp only [UserStore.ofTenant]
  induction descends with
  | added fresh =>
    rename_i users
    have nobody : ∀ user ∈ users, ¬ (user.tenant == tenant) = true := fun user stored own =>
      foreign user (fresh user stored) (beq_iff_eq.mp own)
    rw [List.filter_eq_nil_iff.mpr nobody, List.filter_nil]
  | kept head tail ih =>
    rename_i a b older younger
    have continued := goesOn a b head
    by_cases own : a.tenant = tenant
    · rw [List.filter_cons_of_pos (by simpa [continued.tenant] using own),
        List.filter_cons_of_pos (by simpa using own), List.map_cons, List.map_cons, continued.id,
        ih]
    · rw [List.filter_cons_of_neg (by simpa [continued.tenant] using own),
        List.filter_cons_of_neg (by simpa using own), ih]

end Descends

end DirectorySignIn
