import DirectorySignIn.Proofs.Account.Update

/-!
# Who holds a link

An account holds a link if it is found by it.  In a sound tenant no two accounts hold the same link.
Giving an account a link keeps it so if nobody else holds it, and whoever holds a link afterwards
was given it or has held it all along.

Main results:

- `linksDistinct_iff`: with one link per key, to hold a link is to have it among one's links.
- `Given.linksDistinct`: what has to be known of the other accounts when one is given a link.
- `Given.holds`: who holds which link after an account was given one.
-/

namespace DirectorySignIn

namespace User

/-- An account of a tenant is found by a link. -/
def Holds (user : User) (tenant : TenantId) (provider uid : String) : Prop :=
  user.tenant = tenant ∧ user.linkedId? provider = some uid

/-- Two accounts do not hold the same link of a tenant. -/
def LinksApart (tenant : TenantId) (a b : User) : Prop :=
  ∀ provider uid, a.Holds tenant provider uid → ¬ b.Holds tenant provider uid

/-- Whether two accounts hold links apart does not depend on their order. -/
theorem LinksApart.symm {tenant : TenantId} {a b : User} (h : a.LinksApart tenant b) :
    b.LinksApart tenant a :=
  fun provider uid hb ha => h provider uid ha hb

variable {user : User} {tenant : TenantId} {provider uid key id : String}

/-- A linked account holds the new link, and of the old ones those under other keys. -/
theorem holds_link_iff : (user.link provider uid).Holds tenant key id ↔
    if key = provider then user.tenant = tenant ∧ id = uid else user.Holds tenant key id := by
  unfold Holds
  by_cases same : key = provider
  · rw [if_pos same, same, linkedId_link_self, link_tenant, Option.some.injEq, eq_comm (a := uid)]
  · rw [if_neg same, linkedId_link_of_ne _ _ same, link_tenant]

/-- An account with a single link holds no other. -/
theorem holds_of_single (single : user.links = [⟨provider, uid⟩])
    (holds : user.Holds tenant key id) : key = provider ∧ id = uid := by
  have keys : user.OneLinkPerKey := by simp [OneLinkPerKey, single]
  have held := (linkedId?_eq_some_iff keys key id).mp holds.2
  simpa [single] using held

end User

namespace UserStore

/-- No two accounts hold the same link of a tenant. -/
def LinksDistinct (store : UserStore) (tenant : TenantId) : Prop :=
  store.users.Pairwise (User.LinksApart tenant)

/-- No two accounts of a tenant have a link in common. -/
def LinksDisjoint (store : UserStore) (tenant : TenantId) : Prop :=
  store.users.Pairwise fun a b =>
    a.tenant = tenant → b.tenant = tenant → ∀ link ∈ a.links, link ∉ b.links

/-- If each account has one link per key, the accounts of a tenant that hold different links have
no link in common. -/
theorem linksDistinct_iff {store : UserStore} {tenant : TenantId}
    (keys : ∀ user ∈ store.users, user.OneLinkPerKey) :
    store.LinksDistinct tenant ↔ store.LinksDisjoint tenant := by
  refine List.Pairwise.iff_of_mem fun {a b} ha hb => ?_
  have heldA := User.linkedId?_eq_some_iff (keys a ha)
  have heldB := User.linkedId?_eq_some_iff (keys b hb)
  constructor
  · rintro apart hta htb ⟨provider, uid⟩ hlink hshared
    exact apart provider uid ⟨hta, (heldA _ _).mpr hlink⟩ ⟨htb, (heldB _ _).mpr hshared⟩
  · rintro apart provider uid ⟨hta, hlink⟩ ⟨htb, hshared⟩
    exact apart hta htb _ ((heldA _ _).mp hlink) ((heldB _ _).mp hshared)

/-- Without accounts no two hold the same link. -/
theorem linksDistinct_empty (tenant : TenantId) : empty.LinksDistinct tenant :=
  .nil

variable {store after : UserStore} {tenant : TenantId} {user : User} {id : UserId}
  {provider uid : String} {before behind : List User}

/-- The links of a store seen from one of its accounts. -/
theorem linksDistinct_middle : (⟨before ++ user :: behind⟩ : UserStore).LinksDistinct tenant ↔
    (∀ other ∈ before ++ behind, user.LinksApart tenant other) ∧
      (⟨before ++ behind⟩ : UserStore).LinksDistinct tenant := by
  unfold LinksDistinct
  rw [List.pairwise_middle (fun {_ _} h => h.symm), List.pairwise_cons]

/-! ## Look-ups by id -/

/-- The first account with an id is found by it. -/
theorem get?_middle (first : ∀ other ∈ before, other.id ≠ user.id) :
    (⟨before ++ user :: behind⟩ : UserStore).get? user.id = some user := by
  refine List.find?_eq_some_iff_append.mpr ⟨by simp, before, behind, rfl, ?_⟩
  simpa using first

/-- Changing an account with another id does not change what is found by an id. -/
theorem get?_replace {changed : User} (same : changed.id = user.id) (other : id ≠ user.id) :
    (⟨before ++ changed :: behind⟩ : UserStore).get? id =
      (⟨before ++ user :: behind⟩ : UserStore).get? id := by
  have skipped : (user.id == id) = false := by simpa using other.symm
  simp [get?, List.find?_append, same, skipped]

/-! ## Giving an account a link -/

/-- An account was given a link: it was there already, or it is new and has no other link. -/
inductive Given (store : UserStore) (provider uid : String) : UserId → UserStore → Prop where
  | attached {id : UserId} {after : UserStore}
      (written : store.attach id provider uid = .ok after) :
      Given store provider uid id after
  | registered {user : User} {after : UserStore} (single : user.links = [⟨provider, uid⟩])
      (written : store.register user = .ok after) :
      Given store provider uid user.id after

/-- How the holder of a link has come by it when a link was given to the account with an id. -/
inductive CameBy (store after : UserStore) (tenant : TenantId) (given : Link) (id : UserId)
    (held : Link) (holder : User) : Prop where
  /-- It was given it, and is the first account with the id. -/
  | now (same : held = given) (sameId : holder.id = id)
      (isFirst : after.get? holder.id = some holder)
  /-- It held it before, and if it was the first account with its id, it still is. -/
  | before {former : User} (stored : former ∈ store.users) (sameId : former.id = holder.id)
      (holds : former.Holds tenant held.provider held.uid)
      (isFirst : store.get? former.id = some former → after.get? holder.id = some holder)

namespace Given

/-- If whoever holds a link is the one that it is given to, no two accounts hold the same link
afterwards. -/
theorem linksDistinct (given : Given store provider uid id after)
    (distinct : store.LinksDistinct tenant)
    (mine : ∀ other ∈ store.users, other.Holds tenant provider uid →
      other.id = id ∧ store.get? other.id = some other) :
    after.LinksDistinct tenant := by
  cases given with
  | attached written =>
    obtain ⟨before, found, behind, split, rfl, first, rfl⟩ := attach_eq_ok written
    obtain ⟨store⟩ := store
    obtain rfl : store = before ++ found :: behind := split
    obtain ⟨apart, rest⟩ := linksDistinct_middle.mp distinct
    refine linksDistinct_middle.mpr ⟨fun other hother key value holds shared => ?_, rest⟩
    rw [User.holds_link_iff] at holds
    split at holds
    · -- The other account would be the one found by the id, which is the linked one.
      rename_i same
      obtain ⟨own, rfl⟩ := holds
      rw [same] at shared
      have stored : other ∈ before ++ found :: behind := by
        simp only [List.mem_append, List.mem_cons] at hother ⊢
        exact hother.imp_right .inr
      obtain ⟨sameId, isFirst⟩ := mine other stored shared
      rw [sameId, get?_middle first] at isFirst
      obtain rfl : found = other := Option.some.inj isFirst
      exact apart found hother _ _ shared shared
    · exact apart other hother key value holds shared
  | registered single written =>
    rename_i user
    obtain ⟨free, rfl⟩ := register_eq_ok written
    refine linksDistinct_middle.mpr ⟨?_, by rwa [List.append_nil]⟩
    rw [List.append_nil]
    intro other stored key value holds shared
    obtain ⟨rfl, rfl⟩ := User.holds_of_single single holds
    obtain ⟨sameId, -⟩ := mine other stored shared
    exact free (sameId ▸ List.mem_map_of_mem stored)

/-- Whoever holds a link after one was attached was given it, or someone with its id held it before;
and who was the first one with an id still is. -/
theorem holds_of_attach (written : store.attach id provider uid = .ok after)
    (distinct : store.LinksDistinct tenant) {holder : User} {key value : String}
    (stored : holder ∈ after.users) (holds : holder.Holds tenant key value) :
    CameBy store after tenant ⟨provider, uid⟩ id ⟨key, value⟩ holder := by
  obtain ⟨before, found, behind, split, rfl, first, rfl⟩ := attach_eq_ok written
  obtain ⟨store⟩ := store
  obtain rfl : store = before ++ found :: behind := split
  have linkedFirst : ∀ other ∈ before, other.id ≠ (found.link provider uid).id := first
  rcases List.mem_append.mp stored with older | stored
  · refine .before (List.mem_append_left _ older) rfl holds fun isFirst => ?_
    rwa [get?_replace (found.link_id provider uid) (first holder older)]
  rcases List.mem_cons.mp stored with rfl | younger
  · rw [User.holds_link_iff] at holds
    split at holds
    · rename_i same
      obtain ⟨-, rfl⟩ := holds
      exact .now (by rw [same]) rfl (get?_middle linkedFirst)
    · exact .before (List.mem_append_right _ List.mem_cons_self) rfl holds
        fun _ => get?_middle linkedFirst
  · refine .before (List.mem_append_right _ (List.mem_cons_of_mem _ younger)) rfl holds
      fun isFirst => ?_
    by_cases same : holder.id = found.id
    · -- A second account like the linked one would hold the same link.
      rw [same, get?_middle first] at isFirst
      obtain rfl : found = holder := Option.some.inj isFirst
      have apart := (linksDistinct_middle.mp distinct).1 found (List.mem_append_right _ younger)
      exact absurd holds (apart key value holds)
    · rwa [get?_replace (found.link_id provider uid) same]

/-- Whoever holds a link after an account with one link was registered is that account or was there
before; and who was the first one with an id still is. -/
theorem holds_of_register (single : user.links = [⟨provider, uid⟩])
    (written : store.register user = .ok after) {holder : User} {key value : String}
    (stored : holder ∈ after.users) (holds : holder.Holds tenant key value) :
    CameBy store after tenant ⟨provider, uid⟩ user.id ⟨key, value⟩ holder := by
  obtain ⟨free, rfl⟩ := register_eq_ok written
  rcases List.mem_append.mp stored with older | isNew
  · refine .before older rfl holds fun isFirst => ?_
    have found : store.users.find? (fun other => other.id == holder.id) = some holder := isFirst
    simp [get?, List.find?_append, found]
  · obtain rfl := List.mem_singleton.mp isNew
    obtain ⟨rfl, rfl⟩ := User.holds_of_single single holds
    refine .now rfl rfl (get?_middle fun other older same => free ?_)
    exact same ▸ List.mem_map_of_mem older

/-- Whoever holds a link afterwards was given it, or someone with its id held it before; and who was
the first one with an id still is. -/
theorem holds (given : Given store provider uid id after) (distinct : store.LinksDistinct tenant)
    {holder : User} {key value : String} (stored : holder ∈ after.users)
    (holds : holder.Holds tenant key value) :
    CameBy store after tenant ⟨provider, uid⟩ id ⟨key, value⟩ holder := by
  cases given with
  | attached written => exact holds_of_attach written distinct stored holds
  | registered single written => exact holds_of_register single written stored holds

/-- Each account still has one link per key. -/
theorem oneLinkPerKey (given : Given store provider uid id after)
    (keys : ∀ user ∈ store.users, user.OneLinkPerKey) :
    ∀ user ∈ after.users, user.OneLinkPerKey := by
  cases given with
  | attached written =>
    obtain ⟨before, found, behind, split, rfl, -, rfl⟩ := attach_eq_ok written
    rw [split] at keys
    intro user stored
    rcases List.mem_append.mp stored with older | stored
    · exact keys user (List.mem_append_left _ older)
    rcases List.mem_cons.mp stored with rfl | younger
    · exact (keys found (List.mem_append_right _ List.mem_cons_self)).link provider uid
    · exact keys user (List.mem_append_right _ (List.mem_cons_of_mem _ younger))
  | registered single written =>
    obtain ⟨-, rfl⟩ := register_eq_ok written
    intro user stored
    rcases List.mem_append.mp stored with older | isNew
    · exact keys user older
    · obtain rfl := List.mem_singleton.mp isNew
      simp [User.OneLinkPerKey, single]

end Given

end UserStore

end DirectorySignIn
