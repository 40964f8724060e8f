import DirectorySignIn.Program.Memory
import DirectorySignIn.Proofs.Account.Descent
import DirectorySignIn.Proofs.Account.Links
import DirectorySignIn.Proofs.SignIn.Attempts
import Mathlib.Data.List.Induction

/-!
# Histories of accounts

A store of accounts is compared with the history of the calls on it, from the time when it was
empty.  An insertion asks no questions, so that an id may be there many times; whoever asks for an
id, to find it or to link it, always gets the account that was added first under it.

Main results:

- `effect_answer`: what one call does to a store.
- `grown_afterAll`: the accounts are those that were added, and only their links have changed.
- `get?_after`: an account that is found by its id goes on to be found by it, with the links that
  were attached to the id since.
- `exists_firstAdded`: an id that was added at all was added at some time for the first time.
- `users_afterAll`: what a store holds after a history, and what it answers then.
-/

namespace DirectorySignIn

/-- A call that may change the stored accounts. -/
inductive Change where
  | insert (user : User)
  | register (user : User)
  | attach (id : UserId) (provider uid : String)
deriving DecidableEq

namespace Change

/-- The link that a call attaches to an id. -/
def link? (id : UserId) : Change → Option Link
  | attach other provider uid => if other = id then some ⟨provider, uid⟩ else none
  | _ => none

/-- The user that a call adds if it is answered so. -/
def added? : Change → Except Error Unit → Option User
  | insert user, _ => some user
  | register user, .ok () => some user
  | _, _ => none

/-- Whether a call is an insertion. -/
def isInsertion : Change → Bool
  | insert _ => true
  | _ => false

/-- Whether a call registers a user and is carried out. -/
def isRegistration : Change → Except Error Unit → Bool
  | register _, .ok () => true
  | _, _ => false

end Change

/-- Gives a user links one after the other. -/
def User.linkAll (user : User) (links : List Link) : User :=
  links.foldl (fun user link => user.link link.provider link.uid) user

namespace UserStore

/-! ## One call -/

/-- What is answered to a write, and the store afterwards: a write that is refused leaves the store
as it was. -/
def written (store : UserStore) : Except Error UserStore → Except Error Unit × UserStore
  | .ok after => (.ok (), after)
  | .error e => (.error e, store)

/-- What a store answers to a call, and the store afterwards. -/
def answer (store : UserStore) : Change → Except Error Unit × UserStore
  | .insert user => (.ok (), store.insert user)
  | .register user => store.written (store.register user)
  | .attach id provider uid => store.written (store.attach id provider uid)

/-- What a call does to a store. -/
inductive Effect (store : UserStore) : Change → Except Error Unit × UserStore → Prop
  | inserted (user : User) : Effect store (.insert user) (.ok (), store.insert user)
  | registered {user : User} (free : user.id ∉ store.ids) :
      Effect store (.register user) (.ok (), store.insert user)
  | taken {user : User} (taken : user.id ∈ store.ids) :
      Effect store (.register user)
        (.error (.persistenceFailure ("user " ++ user.id.text ++ " already exists")), store)
  | attached {id : UserId} (known : id ∈ store.ids) (provider uid : String) :
      Effect store (.attach id provider uid) (.ok (), store.attached id provider uid)
  | unknown {id : UserId} (unknown : id ∉ store.ids) (provider uid : String) :
      Effect store (.attach id provider uid)
        (.error (.persistenceFailure ("user " ++ id.text ++ " does not exist")), store)

variable {store : UserStore} {user account : User} {id other : UserId} {history : List Change}

/-- An id that nobody has is not linked, and the refusal quotes it. -/
theorem attach_of_not_mem (unknown : id ∉ store.ids) (provider uid : String) :
    store.attach id provider uid =
      .error (.persistenceFailure ("user " ++ id.text ++ " does not exist")) := by
  rw [attach, if_neg (mt any_id_iff.mp unknown)]

/-- Every call has one of these effects. -/
theorem effect_answer (store : UserStore) (change : Change) :
    store.Effect change (store.answer change) := by
  cases change with
  | insert user => exact .inserted user
  | register user =>
    by_cases taken : user.id ∈ store.ids
    · rw [answer, register_of_mem taken]
      exact .taken taken
    · rw [answer, register_of_not_mem taken]
      exact .registered taken
  | attach id provider uid =>
    by_cases known : id ∈ store.ids
    · rw [answer, attach_of_mem known]
      exact .attached known provider uid
    · rw [answer, attach_of_not_mem known]
      exact .unknown known provider uid

/-- A call leads to the ids that there were and that of the user it adds. -/
theorem ids_answer (store : UserStore) (change : Change) :
    (store.answer change).2.ids =
      store.ids ++ (change.added? (store.answer change).1).toList.map (·.id) := by
  have effect := store.effect_answer change
  generalize store.answer change = outcome at effect ⊢
  cases effect with
  | inserted | registered => simp [ids, Change.added?]
  | taken | unknown => simp [Change.added?]
  | attached known provider uid => simp [Change.added?, ids_attached]

/-! ## Look-ups by id -/

/-- An id finds nobody exactly if nobody has it. -/
theorem get?_eq_none_iff : store.get? id = none ↔ id ∉ store.ids := by
  simp [get?, ids]

/-- Only the first account with an id is linked. -/
theorem get?_attached (store : UserStore) (id other : UserId) (provider uid : String) :
    (store.attached id provider uid).get? other =
      if id = other then (store.get? other).map (·.link provider uid) else store.get? other := by
  obtain ⟨users⟩ := store
  simp only [attached, get?]
  induction users with
  | nil => simp [updateFirst]
  | cons user rest ih =>
    by_cases here : user.id = id
    · by_cases asked : id = other <;> simp [updateFirst, here, asked]
    · rw [updateFirst, if_neg here, List.find?_cons, List.find?_cons, ih]
      by_cases found : user.id = other
      · have passed : id ≠ other := fun same => here (found.trans same.symm)
        simp [found, passed]
      · have skipped : (user.id == other) = false := by simpa using found
        simp [skipped]

/-- An account that is found by its id is still found by it after a call, with the link that the
call attaches to the id. -/
theorem get?_answer (found : store.get? id = some user) (change : Change) :
    (store.answer change).2.get? id = some (user.linkAll (change.link? id).toList) := by
  have effect := store.effect_answer change
  generalize store.answer change = outcome at effect ⊢
  cases effect with
  | inserted | registered =>
    unfold get? at found
    simp [get?, found, Change.link?, User.linkAll]
  | taken => simpa [Change.link?, User.linkAll] using found
  | attached known provider uid =>
    rename_i asked
    rw [get?_attached, found]
    by_cases same : asked = id <;> simp [Change.link?, same, User.linkAll]
  | unknown unknown provider uid =>
    have passed : ¬ _ = id := fun same => by
      rw [get?_eq_none_iff.mpr (same ▸ unknown)] at found
      cases found
    simpa [Change.link?, passed, User.linkAll] using found

/-- A user that is added under an id that was free is found by it. -/
theorem get?_of_added {change : Change} (free : id ∉ store.ids)
    (added : change.added? (store.answer change).1 = some user) (same : user.id = id) :
    (store.answer change).2.get? id = some user := by
  have nobody := get?_eq_none_iff.mpr free
  unfold get? at nobody
  have effect := store.effect_answer change
  generalize store.answer change = outcome at effect added ⊢
  cases effect with
  | inserted | registered =>
    cases added
    simp [get?, nobody, same]
  | taken | attached | unknown => cases added

/-! ## Histories -/

/-- The store after calls were made one after the other. -/
def after (store : UserStore) (history : List Change) : UserStore :=
  history.foldl (fun store change => (store.answer change).2) store

/-- A store after calls were made on it from the time when it was empty. -/
def afterAll (history : List Change) : UserStore :=
  empty.after history

/-- The calls of a history with the answers to them. -/
def replies (store : UserStore) : List Change → List (Change × Except Error Unit)
  | [] => []
  | change :: rest =>
    (change, (store.answer change).1) :: (store.answer change).2.replies rest

/-- The users that were added in the course of a history, in the order in which they were added. -/
def added (history : List Change) : List User :=
  (empty.replies history).filterMap fun reply => reply.1.added? reply.2

/-- One more change is made to the accounts after all before it. -/
@[simp]
theorem afterAll_concat (history : List Change) (change : Change) :
    afterAll (history ++ [change]) = ((afterAll history).answer change).2 := by
  simp [afterAll, after]

/-- One more change is answered by the accounts after all before it. -/
theorem replies_concat (store : UserStore) (history : List Change) (change : Change) :
    store.replies (history ++ [change]) =
      store.replies history ++ [(change, ((store.after history).answer change).1)] := by
  induction history generalizing store with
  | nil => rfl
  | cons first rest ih => simp [replies, ih, after]

/-- One more change adds an account at most. -/
theorem added_concat (history : List Change) (change : Change) :
    added (history ++ [change]) =
      added history ++ (change.added? ((afterAll history).answer change).1).toList := by
  rw [added, replies_concat, List.filterMap_append, ← added, ← afterAll, List.filterMap_cons]
  cases change.added? ((afterAll history).answer change).1 <;> rfl

/-- The ids are those of the users that were added. -/
theorem ids_afterAll (history : List Change) :
    (afterAll history).ids = (added history).map (·.id) := by
  induction history using List.reverseRecOn with
  | nil => rfl
  | append_singleton history change ih =>
    rw [afterAll_concat, ids_answer, ih, added_concat, List.map_append]

/-! ### The accounts in their places -/

/-- An account after the user that was added as it. -/
structure GrownFrom (user account : User) : Prop extends user.Continues account where
  keys : user.OneLinkPerKey → account.OneLinkPerKey

theorem GrownFrom.refl (user : User) : GrownFrom user user :=
  ⟨.refl user, id⟩

/-- An account that has grown from another one has still done so when it is linked. -/
theorem GrownFrom.link (grown : GrownFrom user account) (provider uid : String) :
    GrownFrom user (account.link provider uid) where
  toContinues := grown.toContinues.trans (account.keptBut_link provider uid).toContinues
  keys single := (grown.keys single).link provider uid

/-- Linking one of several accounts keeps them grown from what they were. -/
theorem forall₂_updateFirst {users accounts : List User}
    (grown : List.Forall₂ GrownFrom users accounts) (id : UserId) (provider uid : String) :
    List.Forall₂ GrownFrom users (updateFirst id (·.link provider uid) accounts) := by
  induction grown with
  | nil => exact .nil
  | cons head tail ih =>
    unfold updateFirst
    split
    · exact .cons (head.link provider uid) tail
    · exact .cons head ih

/-- The accounts of a store are the users that were added, in their order, and only their links have
changed. -/
theorem grown_afterAll (history : List Change) :
    List.Forall₂ GrownFrom (added history) (afterAll history).users := by
  induction history using List.reverseRecOn with
  | nil => exact .nil
  | append_singleton history change ih =>
    rw [added_concat, afterAll_concat]
    have effect := (afterAll history).effect_answer change
    generalize (afterAll history).answer change = outcome at effect ⊢
    cases effect with
    | inserted | registered =>
      exact List.rel_append ih (.cons (.refl _) .nil)
    | taken | unknown => simpa [Change.added?] using ih
    | attached known provider uid =>
      simpa [Change.added?, attached] using forall₂_updateFirst ih _ provider uid

/-- Without insertions no two accounts have an id in common. -/
theorem nodup_ids_afterAll (history : List Change)
    (asked : ∀ change ∈ history, change.isInsertion = false) : (afterAll history).ids.Nodup := by
  induction history using List.reverseRecOn with
  | nil => exact .nil
  | append_singleton history change ih =>
    obtain ⟨before, last⟩ := List.forall_mem_append.mp asked
    have unique := ih before
    have no_insertion := last change (List.mem_singleton_self change)
    rw [afterAll_concat]
    have effect := (afterAll history).effect_answer change
    generalize (afterAll history).answer change = outcome at effect ⊢
    cases effect with
    | inserted => cases no_insertion
    | registered free => exact nodup_ids_insert unique free
    | taken | unknown => exact unique
    | attached known provider uid => rwa [ids_attached]

/-- Accounts are added by insertions and by registrations that succeeded, one by each. -/
theorem length_filterMap_added? (replies : List (Change × Except Error Unit)) :
    (replies.filterMap fun reply => reply.1.added? reply.2).length =
      replies.countP (fun reply => reply.1.isInsertion) +
        replies.countP (fun reply => reply.1.isRegistration reply.2) := by
  induction replies with
  | nil => rfl
  | cons reply rest ih =>
    have one : (reply.1.added? reply.2).toList.length =
        (if reply.1.isInsertion then 1 else 0) +
          if reply.1.isRegistration reply.2 then 1 else 0 := by
      obtain ⟨_ | _ | _, _ | _⟩ := reply <;> rfl
    rw [List.filterMap_cons, List.countP_cons, List.countP_cons]
    cases user? : reply.1.added? reply.2 with
    | none =>
      simp only [user?, Option.toList_none, List.length_nil] at one ⊢
      omega
    | some user =>
      simp only [user?, Option.toList_some, List.length_cons, List.length_nil] at one ⊢
      omega

/-! ### The account of an id -/

/-- An account that is found by its id goes on to be found by it, with the links that are attached
to the id in order. -/
theorem get?_after (found : store.get? id = some user) (later : List Change) :
    (store.after later).get? id = some (user.linkAll (later.filterMap (·.link? id))) := by
  induction later generalizing store user with
  | nil => exact found
  | cons change rest ih =>
    have next := ih (get?_answer found change)
    rw [List.filterMap_cons]
    cases linked : change.link? id with
    | none => simpa [linked, after, User.linkAll] using next
    | some link => simpa [linked, after, User.linkAll] using next

/-- At some place of a history a user is added under an id for the first time. -/
structure FirstAdded (history : List Change) (id : UserId) (user : User) (later : List Change) :
    Prop where
  same : user.id = id
  place : ∃ earlier change, history = earlier ++ change :: later ∧
    change.added? ((afterAll earlier).answer change).1 = some user ∧
    ∀ other ∈ added earlier, other.id ≠ id

/-- An id that was added was added at some time for the first time. -/
theorem exists_firstAdded (known : id ∈ (added history).map (·.id)) :
    ∃ user later, FirstAdded history id user later := by
  induction history using List.reverseRecOn with
  | nil => cases known
  | append_singleton history change ih =>
    by_cases before : id ∈ (added history).map (·.id)
    · obtain ⟨user, later, same, earlier, first, rfl, added, fresh⟩ := ih before
      exact ⟨user, later ++ [change], same, earlier, first, by simp, added, fresh⟩
    · rw [added_concat, List.map_append, List.mem_append] at known
      obtain ⟨user, isNew, same⟩ := List.mem_map.mp (known.resolve_left before)
      refine ⟨user, [], same, history, change, rfl, Option.mem_toList.mp isNew, ?_⟩
      exact fun other stored taken => before (List.mem_map.mpr ⟨other, stored, taken⟩)

/-- The user that was added first under an id is found by it, with the links that were attached to
the id since then. -/
theorem FirstAdded.get?_eq {later : List Change} (first : FirstAdded history id user later) :
    (afterAll history).get? id = some (user.linkAll (later.filterMap (·.link? id))) := by
  obtain ⟨same, earlier, change, rfl, added, fresh⟩ := first
  have free : id ∉ (afterAll earlier).ids := by
    rw [ids_afterAll]
    rintro known
    obtain ⟨other, stored, taken⟩ := List.mem_map.mp known
    exact fresh other stored taken
  have found := get?_after (get?_of_added free added same) later
  simpa [afterAll, after] using found

/-- An id finds the first account that was added with it, with all links that it was given later. -/
theorem get?_afterAll_eq_some_iff : (afterAll history).get? id = some account ↔
    ∃ user later, FirstAdded history id user later ∧
      account = user.linkAll (later.filterMap (·.link? id)) := by
  constructor
  · intro found
    have known : id ∈ (afterAll history).ids := by
      by_contra unknown
      rw [get?_eq_none_iff.mpr unknown] at found
      cases found
    rw [ids_afterAll] at known
    obtain ⟨user, later, first⟩ := exists_firstAdded known
    rw [first.get?_eq] at found
    exact ⟨user, later, first, (Option.some.inj found).symm⟩
  · rintro ⟨user, later, first, rfl⟩
    exact first.get?_eq

/-- An id finds nobody exactly if no account was added with it. -/
theorem get?_afterAll_eq_none_iff :
    (afterAll history).get? id = none ↔ ∀ user ∈ added history, user.id ≠ id := by
  rw [get?_eq_none_iff, ids_afterAll]
  simp

/-! ## What is answered after a history -/

/-- Registering is refused exactly if the id is taken. -/
theorem answer_register (store : UserStore) (user : User) :
    ((∃ other ∈ store.users, other.id = user.id) ∧ store.answer (.register user) =
        (.error (.persistenceFailure ("user " ++ user.id.text ++ " already exists")), store)) ∨
      (∀ other ∈ store.users, other.id ≠ user.id) ∧
        store.answer (.register user) = (.ok (), ⟨store.users ++ [user]⟩) := by
  by_cases taken : user.id ∈ store.ids
  · refine .inl ⟨List.mem_map.mp taken, ?_⟩
    rw [answer, register_of_mem taken, written]
  · refine .inr ⟨fun other stored same => taken (List.mem_map.mpr ⟨other, stored, same⟩), ?_⟩
    rw [answer, register_of_not_mem taken, written, insert]

/-- Attaching is refused exactly if nobody has the id, and else links the first account that has
it. -/
theorem answer_attach (store : UserStore) (id : UserId) (provider uid : String) :
    ((∀ other ∈ store.users, other.id ≠ id) ∧ store.answer (.attach id provider uid) =
        (.error (.persistenceFailure ("user " ++ id.text ++ " does not exist")), store)) ∨
      ∃ before found behind, store.users = before ++ found :: behind ∧ found.id = id ∧
        (∀ other ∈ before, other.id ≠ id) ∧ store.answer (.attach id provider uid) =
          (.ok (), ⟨before ++ found.link provider uid :: behind⟩) := by
  by_cases known : id ∈ store.ids
  · obtain ⟨before, found, behind, split, same, first, eq⟩ :=
      attach_eq_ok (attach_of_mem known provider uid)
    refine .inr ⟨before, found, behind, split, same, first, ?_⟩
    rw [answer, attach_of_mem known, eq, written]
  · refine .inl ⟨fun other stored same => known (List.mem_map.mpr ⟨other, stored, same⟩), ?_⟩
    rw [answer, attach_of_not_mem known, written]

/-- Stores in memory answer a write as their store of accounts does, and keep everything else. -/
theorem answer_of_memory {δ : Type} (memory : Memory δ) :
    (∀ user, memory.answer (.register user) =
      let (reply, users) := memory.users.answer (.register user)
      (reply, { memory with users })) ∧
    ∀ id provider uid, memory.answer (.attach id provider uid) =
      let (reply, users) := memory.users.answer (.attach id provider uid)
      (reply, { memory with users }) := by
  have carried (outcome : Except Error UserStore) : memory.afterWrite outcome =
      ((memory.users.written outcome).1,
        { memory with users := (memory.users.written outcome).2 }) := by
    cases outcome <;> rfl
  exact ⟨fun _ => carried _, fun _ _ _ => carried _⟩

/-- After a history of calls on a store that was empty, there are as many accounts as users were
inserted or registered with success.  They stand in the order in which the users were added and
differ from them in their links only, which are one per key if they were so.  Registering is refused
exactly if somebody has the id already, in whichever tenant, and attaching exactly if nobody has it;
what is refused changes nothing, and what is attached is attached to the first account with the id.
That account is the user that was added first under the id, with all that was attached to the id
since then, in order.  Unless users were inserted, no two accounts have an id in common.  The stores
in memory answer writes in the same way. -/
theorem users_afterAll {δ : Type} (history : List Change) :
    (afterAll history).count =
        (empty.replies history).countP (fun reply => reply.1.isInsertion) +
          (empty.replies history).countP (fun reply => reply.1.isRegistration reply.2) ∧
    List.Forall₂ GrownFrom (added history) (afterAll history).users ∧
    (∀ user, ((∃ other ∈ (afterAll history).users, other.id = user.id) ∧
        (afterAll history).answer (.register user) =
          (.error (.persistenceFailure ("user " ++ user.id.text ++ " already exists")),
            afterAll history)) ∨
      (∀ other ∈ (afterAll history).users, other.id ≠ user.id) ∧
        (afterAll history).answer (.register user) =
          (.ok (), ⟨(afterAll history).users ++ [user]⟩)) ∧
    (∀ id provider uid, ((∀ other ∈ (afterAll history).users, other.id ≠ id) ∧
        (afterAll history).answer (.attach id provider uid) =
          (.error (.persistenceFailure ("user " ++ id.text ++ " does not exist")),
            afterAll history)) ∨
      ∃ before found behind, (afterAll history).users = before ++ found :: behind ∧
        found.id = id ∧ (∀ other ∈ before, other.id ≠ id) ∧
        (afterAll history).answer (.attach id provider uid) =
          (.ok (), ⟨before ++ found.link provider uid :: behind⟩)) ∧
    (∀ id account, (afterAll history).get? id = some account ↔
      ∃ user later, FirstAdded history id user later ∧
        account = user.linkAll (later.filterMap (·.link? id))) ∧
    (∀ id, (afterAll history).get? id = none ↔ ∀ user ∈ added history, user.id ≠ id) ∧
    ((∀ change ∈ history, change.isInsertion = false) → (afterAll history).ids.Nodup) ∧
    ∀ memory : Memory δ,
      (∀ user, memory.answer (.register user) =
        let (reply, users) := memory.users.answer (.register user)
        (reply, { memory with users })) ∧
      ∀ id provider uid, memory.answer (.attach id provider uid) =
        let (reply, users) := memory.users.answer (.attach id provider uid)
        (reply, { memory with users }) := by
  have grown := grown_afterAll history
  refine ⟨?_, grown, answer_register _, answer_attach _, fun _ _ => get?_afterAll_eq_some_iff,
    fun _ => get?_afterAll_eq_none_iff, nodup_ids_afterAll history, answer_of_memory⟩
  rw [count, ← grown.length_eq, added, length_filterMap_added?]

/-- An id that is attached to before anybody has it, inserted twice, refused to be registered, and
attached to under two keys; and what is left of this without the insertions. -/
theorem users_afterAll_of_repeated :
    let ada := User.sample
    let later := [.attach ada.id "ldap" "ada", .register ada, .attach ⟨⟨1⟩⟩ "ldap" "bob",
      .insert { ada with name := "Eve" }, .attach ada.id "other" "ada", .attach ada.id "ldap" "a"]
    let history := .attach ada.id "ldap" "eve" :: .insert ada :: later
    let asked := history.filter fun change => !change.isInsertion
    (afterAll history).count = 2 ∧
      (afterAll history).get? ada.id =
        some { ada with links := [⟨"other", "ada"⟩, ⟨"ldap", "a"⟩] } ∧
      ¬ (afterAll history).ids.Nodup ∧
      (∀ change ∈ asked, change.isInsertion = false) ∧ (afterAll asked).ids.Nodup := by
  intro ada later history asked
  obtain ⟨counted, -, -, -, found, -⟩ := users_afterAll (δ := Unit) history
  obtain ⟨-, -, -, -, -, -, unique, -⟩ := users_afterAll (δ := Unit) asked
  have first : FirstAdded history ada.id ada later :=
    ⟨rfl, [.attach ada.id "ldap" "eve"], .insert ada, rfl, rfl, by decide⟩
  have uninserted : ∀ change ∈ asked, change.isInsertion = false := by decide
  exact ⟨counted.trans (by decide +kernel), (found _ _).mpr ⟨ada, later, first, by decide⟩,
    by decide +kernel, uninserted, unique uninserted⟩

end UserStore

end DirectorySignIn
