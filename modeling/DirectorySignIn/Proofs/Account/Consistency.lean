import DirectorySignIn.Account.Store

/-!
# Consistent stores of accounts

Two accounts are apart if their ids differ and if, within one tenant, they share neither a link nor
an email address.  A store is consistent if any two of its accounts are apart and none has two
links under one key.  The failure of a lookup is what keeps the next write from breaking this.

Main results:

- `User.linkedId?_eq_some_iff`: with one link per key, the id that is found is the id that is held.
- `Consistent.attach`: linking the account found by email keeps a store consistent if nobody holds
  the link.
- `Consistent.register`: adding an account keeps a store consistent if nobody holds its link or its
  email address.
-/

namespace DirectorySignIn

/-! ## Links of one account -/

namespace User

/-- No two links of the account have the same key. -/
def OneLinkPerKey (user : User) : Prop :=
  (user.links.map (·.provider)).Nodup

/-- With one link per key, the id that is found under a key is the id that is held under it. -/
theorem linkedId?_eq_some_iff {user : User} (h : user.OneLinkPerKey) (provider uid : String) :
    user.linkedId? provider = some uid ↔ ⟨provider, uid⟩ ∈ user.links := by
  unfold OneLinkPerKey at h
  unfold linkedId?
  generalize user.links = links at h
  induction links with
  | nil => simp
  | cons link rest ih =>
    rw [List.map_cons, List.nodup_cons] at h
    obtain ⟨hfresh, hrest⟩ := h
    by_cases hkey : link.provider = provider
    · have hnot : ⟨provider, uid⟩ ∉ rest := by
        intro hmem
        exact hfresh (List.mem_map.mpr ⟨_, hmem, hkey.symm⟩)
      obtain ⟨key, value⟩ := link
      simp_all [eq_comm]
    · rw [List.find?_cons_of_neg (by simpa using hkey), ih hrest, List.mem_cons]
      constructor
      · exact .inr
      · rintro (rfl | hmem)
        · exact absurd rfl hkey
        · exact hmem

/-- Linking leaves one link under each key. -/
theorem OneLinkPerKey.link {user : User} (h : user.OneLinkPerKey) (provider uid : String) :
    (user.link provider uid).OneLinkPerKey := by
  unfold OneLinkPerKey at h ⊢
  rw [User.link, List.map_append, List.map_singleton, List.nodup_append]
  refine ⟨h.sublist (List.filter_sublist.map _), by simp, ?_⟩
  intro key hkey other hother
  obtain ⟨link, hlink, rfl⟩ := List.mem_map.mp hkey
  rw [List.mem_singleton.mp hother]
  simpa using (List.mem_filter.mp hlink).2

/-- A linked account has its old links and the new one, and no others. -/
theorem mem_links_link {user : User} {provider uid : String} {link : Link}
    (h : link ∈ (user.link provider uid).links) : link ∈ user.links ∨ link = ⟨provider, uid⟩ := by
  rcases List.mem_append.mp h with hold | hnew
  · exact .inl (List.mem_filter.mp hold).1
  · exact .inr (List.mem_singleton.mp hnew)

/-! ## Two accounts -/

/-- Two accounts differ in their ids and, within one tenant, share neither a link nor an email
address. -/
structure Apart (a b : User) : Prop where
  ids : a.id ≠ b.id
  links : a.tenant = b.tenant → ∀ link ∈ a.links, link ∉ b.links
  emails : a.tenant = b.tenant → a.email ≠ "" → b.email ≠ "" →
    Text.equalFold a.email b.email = false

theorem Apart.symm {a b : User} (h : a.Apart b) : b.Apart a where
  ids := h.ids.symm
  links tenant link hb ha := h.links tenant.symm link ha hb
  emails tenant hb ha := by
    rw [Text.equalFold_comm]
    exact h.emails tenant.symm ha hb

end User

/-! ## Lookups -/

namespace UserStore

/-- If a link finds nobody, no account of the tenant has it. -/
theorem linkedId?_ne_of_findIdentity?_eq_none {store : UserStore} {tenant : TenantId}
    {provider uid : String} (h : store.findIdentity? tenant provider uid = none) :
    ∀ user ∈ store.users, user.tenant = tenant → user.linkedId? provider ≠ some uid := by
  intro user huser htenant hlinked
  have hnot := List.find?_eq_none.mp h user huser
  simp [htenant, hlinked] at hnot

/-- If an email address finds nobody, no account of the tenant has it. -/
theorem equalFold_of_findEmail?_eq_none {store : UserStore} {tenant : TenantId} {email : String}
    (h : store.findEmail? tenant email = none) (hemail : email ≠ "") :
    ∀ user ∈ store.users, user.tenant = tenant → Text.equalFold user.email email = false := by
  intro user huser htenant
  rw [findEmail?, if_neg hemail] at h
  have hnot := List.find?_eq_none.mp h user huser
  simpa [htenant] using hnot

/-- The account that is found by email belongs to the tenant. -/
theorem of_findEmail?_eq_some {store : UserStore} {tenant : TenantId} {email : String}
    {user : User} (h : store.findEmail? tenant email = some user) :
    user ∈ store.users ∧ user.tenant = tenant := by
  unfold findEmail? at h
  split at h
  · contradiction
  · have hfits := List.find?_some h
    simp only [Bool.and_eq_true, beq_iff_eq] at hfits
    exact ⟨List.mem_of_find?_eq_some h, hfits.1⟩

/-! ## Consistent stores -/

/-- Any two accounts are apart, and each has one link per key. -/
structure Consistent (store : UserStore) : Prop where
  apart : store.users.Pairwise User.Apart
  keys : ∀ user ∈ store.users, user.OneLinkPerKey

/-- A store without accounts is consistent. -/
theorem consistent_empty : empty.Consistent where
  apart := .nil
  keys := by simp [empty]

/-- Consistency of a store seen from one of its accounts. -/
theorem consistent_middle (before after : List User) (user : User) :
    (⟨before ++ user :: after⟩ : UserStore).Consistent ↔
      (⟨before ++ after⟩ : UserStore).Consistent ∧ user.OneLinkPerKey ∧
        ∀ other ∈ before ++ after, user.Apart other := by
  have hpairs : (before ++ user :: after).Pairwise User.Apart ↔
      (∀ other ∈ before ++ after, user.Apart other) ∧ (before ++ after).Pairwise User.Apart := by
    rw [List.pairwise_middle (fun {_ _} h => h.symm), List.pairwise_cons]
  have hkeys : (∀ other ∈ before ++ user :: after, other.OneLinkPerKey) ↔
      user.OneLinkPerKey ∧ ∀ other ∈ before ++ after, other.OneLinkPerKey := by
    simp only [List.mem_append, List.mem_cons]
    grind
  constructor
  · intro h
    obtain ⟨hapart, hothers⟩ := hpairs.mp h.apart
    obtain ⟨hkey, hrest⟩ := hkeys.mp h.keys
    exact ⟨⟨hothers, hrest⟩, hkey, hapart⟩
  · rintro ⟨h, hkey, hapart⟩
    exact ⟨hpairs.mpr ⟨hapart, h.apart⟩, hkeys.mpr ⟨hkey, h.keys⟩⟩

/-- Only the account with the id is changed. -/
theorem updateFirst_middle {before after : List User} {user : User} (change : User → User)
    (h : ∀ other ∈ before, other.id ≠ user.id) :
    updateFirst user.id change (before ++ user :: after) = before ++ change user :: after := by
  induction before with
  | nil => simp [updateFirst]
  | cons other rest ih =>
    obtain ⟨hother, hrest⟩ := List.forall_mem_cons.mp h
    rw [List.cons_append, updateFirst, if_neg hother, ih hrest]
    rfl

/-- Linking an account of a consistent store to an id that nobody of its tenant is linked to keeps
the store consistent. -/
theorem Consistent.attach {store after : UserStore} (h : store.Consistent) {user : User}
    {provider uid : String} (huser : user ∈ store.users)
    (unknown : store.findIdentity? user.tenant provider uid = none)
    (written : store.attach user.id provider uid = .ok after) : after.Consistent := by
  have hfree := linkedId?_ne_of_findIdentity?_eq_none unknown
  obtain ⟨users⟩ := store
  obtain ⟨before, behind, rfl⟩ := List.append_of_mem huser
  obtain ⟨hothers, hkey, hapart⟩ := (consistent_middle before behind user).mp h
  have hids : ∀ other ∈ before, other.id ≠ user.id := fun other hmem =>
    (hapart other (List.mem_append_left behind hmem)).ids.symm
  have heq : after = ⟨before ++ user.link provider uid :: behind⟩ := by
    unfold UserStore.attach at written
    split at written
    · rw [updateFirst_middle _ hids] at written
      exact (Except.ok.inj written).symm
    · contradiction
  rw [heq]
  refine (consistent_middle before behind _).mpr ⟨hothers, hkey.link provider uid, ?_⟩
  -- An old link is held by nobody else before, and the new one by nobody at all.
  intro other hmem
  have hother := hapart other hmem
  refine ⟨hother.ids, ?_, hother.emails⟩
  intro tenant link hlink
  rcases User.mem_links_link hlink with hold | rfl
  · exact hother.links tenant link hold
  · intro hheld
    have hstored : other ∈ before ++ user :: behind := by
      rcases List.mem_append.mp hmem with hmem | hmem
      · exact List.mem_append_left _ hmem
      · exact List.mem_append_right _ (List.mem_cons_of_mem _ hmem)
    exact hfree other hstored tenant.symm
      ((User.linkedId?_eq_some_iff (h.keys other hstored) _ _).mpr hheld)

/-- Registering an account that has one link, to an id that nobody of its tenant is linked to, and
an email address that nobody of its tenant has keeps a store consistent. -/
theorem Consistent.register {store after : UserStore} (h : store.Consistent) {user : User}
    {provider uid : String} (single : user.links = [⟨provider, uid⟩])
    (unknown : store.findIdentity? user.tenant provider uid = none)
    (nobody : store.findEmail? user.tenant user.email = none)
    (written : store.register user = .ok after) : after.Consistent := by
  unfold UserStore.register at written
  split at written
  · contradiction
  · rename_i hfree
    rw [← Except.ok.inj written, UserStore.insert]
    refine (consistent_middle store.users [] user).mpr ?_
    rw [List.append_nil]
    refine ⟨h, by simp [User.OneLinkPerKey, single], ?_⟩
    intro other hmem
    refine ⟨?_, ?_, ?_⟩
    · intro hid
      exact hfree (List.any_eq_true.mpr ⟨other, hmem, by simp [hid]⟩)
    · intro tenant link hlink hheld
      rw [single, List.mem_singleton] at hlink
      rw [hlink] at hheld
      exact linkedId?_ne_of_findIdentity?_eq_none unknown other hmem tenant.symm
        ((User.linkedId?_eq_some_iff (h.keys other hmem) _ _).mpr hheld)
    · intro tenant hemail _
      rw [Text.equalFold_comm]
      exact equalFold_of_findEmail?_eq_none nobody hemail other hmem tenant.symm

end UserStore

end DirectorySignIn
