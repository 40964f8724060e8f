import DirectorySignIn.Proofs.Account.History

/-!
# Links in order of the last writing

Linking an id under a provider key takes away whatever links the key has and puts the new one at the
end.  Of many calls on a user the last one under each key therefore remains, behind the links under
keys that were never written.  It does not matter whether the user had one link per key before.

Main results:

- `isLastWrites_unreplaced`: the links that no later one replaces are those written last, in order.
- `User.linkAll_eq`: a user who was given links one after the other.
- `User.linksUnder_linkAll`: the links of such a user under one key.
- `User.links_afterCalls`: all of this for calls of either kind, with what the user is asked later.
-/

namespace DirectorySignIn

/-! ## What was written last -/

namespace Link

variable {written links : List Link} {link a b : Link} {key : String}

/-- A link was written, and no other one was written under its key later. -/
def WrittenLast (written : List Link) (link : Link) : Prop :=
  ∃ earlier later, written = earlier ++ link :: later ∧
    ∀ other ∈ later, other.provider ≠ link.provider

/-- Two links were written last under their keys, one before the other. -/
def WrittenInOrder (written : List Link) (a b : Link) : Prop :=
  ∃ earlier later, written = earlier ++ a :: later ∧
    (∀ other ∈ later, other.provider ≠ a.provider) ∧ WrittenLast later b

/-- The links that were written last under their keys, in the order of their writing. -/
structure IsLastWrites (written links : List Link) : Prop where
  mem_iff : ∀ link, link ∈ links ↔ WrittenLast written link
  ordered : links.Pairwise (WrittenInOrder written)

/-- What was written before all others is the last writing under its key if the others are under
other keys. -/
theorem writtenLast_cons_iff : WrittenLast (a :: written) link ↔
    (a = link ∧ ∀ other ∈ written, other.provider ≠ link.provider) ∨ WrittenLast written link := by
  constructor
  · rintro ⟨earlier, later, split, unreplaced⟩
    cases earlier with
    | nil =>
      obtain ⟨rfl, rfl⟩ := List.cons.inj split
      exact .inl ⟨rfl, unreplaced⟩
    | cons first earlier =>
      obtain ⟨rfl, rfl⟩ := List.cons.inj split
      exact .inr ⟨earlier, later, rfl, unreplaced⟩
  · rintro (⟨rfl, unreplaced⟩ | ⟨earlier, later, rfl, unreplaced⟩)
    · exact ⟨[], written, rfl, unreplaced⟩
    · exact ⟨a :: earlier, later, rfl, unreplaced⟩

theorem WrittenInOrder.cons (inOrder : WrittenInOrder written a b) (first : Link) :
    WrittenInOrder (first :: written) a b := by
  obtain ⟨earlier, later, rfl, unreplaced, last⟩ := inOrder
  exact ⟨first :: earlier, later, rfl, unreplaced, last⟩

/-- Under a key that was written at all something was written last. -/
theorem exists_writtenLast (known : key ∈ written.map (·.provider)) :
    ∃ uid, WrittenLast written ⟨key, uid⟩ := by
  induction written with
  | nil => cases known
  | cons first later ih =>
    by_cases again : key ∈ later.map (·.provider)
    · obtain ⟨uid, last⟩ := ih again
      exact ⟨uid, writtenLast_cons_iff.mpr (.inr last)⟩
    · obtain rfl : key = first.provider := (List.mem_cons.mp known).resolve_right again
      refine ⟨first.uid, writtenLast_cons_iff.mpr (.inl ⟨rfl, fun other later same => ?_⟩)⟩
      exact again (List.mem_map.mpr ⟨other, later, same⟩)

/-- The links that no later one under the same key replaces. -/
def unreplaced : List Link → List Link
  | [] => []
  | link :: later =>
    if link.provider ∈ later.map (·.provider) then unreplaced later else link :: unreplaced later

/-- The links that no later one replaces are those that were written last, in their order. -/
theorem isLastWrites_unreplaced (written : List Link) :
    IsLastWrites written (unreplaced written) := by
  induction written with
  | nil =>
    refine ⟨fun link => ?_, .nil⟩
    constructor
    · nofun
    · rintro ⟨earlier, later, split, -⟩
      simp at split
  | cons first later ih =>
    have kept := ih.ordered.imp fun inOrder => inOrder.cons first
    unfold unreplaced
    split
    · rename_i again
      obtain ⟨other, stored, same⟩ := List.mem_map.mp again
      refine ⟨fun link => ?_, kept⟩
      rw [ih.mem_iff, writtenLast_cons_iff]
      constructor
      · exact .inr
      · rintro (⟨rfl, unreplaced⟩ | last)
        · exact absurd same (unreplaced other stored)
        · exact last
    · rename_i once
      have alone : ∀ other ∈ later, other.provider ≠ first.provider :=
        fun other stored same => once (List.mem_map.mpr ⟨other, stored, same⟩)
      refine ⟨fun link => ?_, List.pairwise_cons.mpr ⟨fun link mem => ?_, kept⟩⟩
      · rw [List.mem_cons, ih.mem_iff, writtenLast_cons_iff]
        constructor
        · rintro (rfl | last)
          · exact .inl ⟨rfl, alone⟩
          · exact .inr last
        · rintro (⟨rfl, -⟩ | last)
          · exact .inl rfl
          · exact .inr last
      · exact ⟨[], later, rfl, alone, (ih.mem_iff link).mp mem⟩

/-- Only one link that was written under a key is not replaced: the last one. -/
theorem WrittenLast.filter_unreplaced (last : WrittenLast written link) :
    (unreplaced written).filter (·.provider == link.provider) = [link] := by
  obtain ⟨earlier, later, rfl, alone⟩ := last
  have once : link.provider ∉ later.map (·.provider) := by
    simpa using alone
  induction earlier with
  | nil =>
    have others : (unreplaced later).filter (·.provider == link.provider) = [] := by
      refine List.filter_eq_nil_iff.mpr fun other mem => ?_
      obtain ⟨before, behind, rfl, -⟩ := ((isLastWrites_unreplaced later).mem_iff other).mp mem
      simpa using alone other (List.mem_append_right _ List.mem_cons_self)
    rw [List.nil_append, unreplaced, if_neg once, List.filter_cons_of_pos (by simp), others]
  | cons first earlier ih =>
    rw [List.cons_append, unreplaced]
    split
    · exact ih
    · rename_i replaced
      have other : first.provider ≠ link.provider := by
        rintro same
        exact replaced (List.mem_map.mpr ⟨link, by simp, same.symm⟩)
      rw [List.filter_cons_of_neg (by simpa using other), ih]

end Link

/-! ## Links after calls -/

/-- A call that links an id under a provider key, to a user who is there or to one who is being
built. -/
inductive LinkCall where
  | link (provider uid : String)
  | withLink (provider uid : String)
deriving DecidableEq

namespace LinkCall

/-- The link that a call writes. -/
def written : LinkCall → Link
  | link provider uid => ⟨provider, uid⟩
  | withLink provider uid => ⟨provider, uid⟩

/-- What a call makes of a user. -/
def apply (user : User) : LinkCall → User
  | link provider uid => user.link provider uid
  | withLink provider uid => user.withLink provider uid

end LinkCall

namespace User

variable {key : String}

/-- The user after calls one after the other. -/
def afterCalls (user : User) (calls : List LinkCall) : User :=
  calls.foldl LinkCall.apply user

/-- Calls of both kinds link what they write. -/
theorem afterCalls_eq_linkAll (user : User) (calls : List LinkCall) :
    user.afterCalls calls = user.linkAll (calls.map (·.written)) := by
  induction calls generalizing user with
  | nil => rfl
  | cons call rest ih =>
    have first : call.apply user = user.link call.written.provider call.written.uid := by
      cases call <;> rfl
    exact (congrArg (afterCalls · rest) first).trans (ih _)

/-- A user who was given links one after the other has the old ones under other keys, and behind
them the new ones that were not replaced.  Nothing else of the user has changed. -/
theorem linkAll_eq (user : User) (written : List Link) :
    user.linkAll written =
      { user with
        links := user.links.filter (·.provider ∉ written.map (·.provider)) ++
          Link.unreplaced written } := by
  induction written generalizing user with
  | nil => simp [linkAll, Link.unreplaced]
  | cons first later ih =>
    have next : user.linkAll (first :: later) =
        (user.link first.provider first.uid).linkAll later := rfl
    have old : (user.links.filter (·.provider != first.provider)).filter
          (·.provider ∉ later.map (·.provider)) =
        user.links.filter (·.provider ∉ (first :: later).map (·.provider)) := by
      rw [List.filter_filter]
      refine List.filter_congr fun link _ => ?_
      by_cases same : link.provider = first.provider <;> simp [same]
    rw [next, ih]
    simp only [link, List.filter_append, old, List.append_assoc]
    -- The link that was just given stays if it is not replaced, which is what tells it apart.
    by_cases again : first.provider ∈ later.map (·.provider)
    · rw [Link.unreplaced, if_pos again, List.filter_cons_of_neg (by simpa using again),
        List.filter_nil, List.nil_append]
    · rw [Link.unreplaced, if_neg again, List.filter_cons_of_pos (by simpa using again),
        List.filter_nil, List.singleton_append]

/-- Under a key that was written there is the link that was written last, and under others there are
the old ones. -/
theorem linksUnder_linkAll (user : User) (written : List Link) :
    (∀ link, Link.WrittenLast written link →
      (user.linkAll written).linksUnder link.provider = [link]) ∧
    ∀ key ∉ written.map (·.provider),
      (user.linkAll written).linksUnder key = user.linksUnder key := by
  rw [linkAll_eq]
  simp only [linksUnder, List.filter_append, List.filter_filter]
  constructor
  · intro link last
    have known : link.provider ∈ written.map (·.provider) := by
      obtain ⟨earlier, later, rfl, -⟩ := last
      simp
    rw [last.filter_unreplaced, List.filter_eq_nil_iff.mpr, List.nil_append]
    intro other _ under
    simp only [Bool.and_eq_true, beq_iff_eq, decide_eq_true_eq] at under
    exact under.2 (under.1 ▸ known)
  · intro key unknown
    have unwritten : (Link.unreplaced written).filter (·.provider == key) = [] := by
      refine List.filter_eq_nil_iff.mpr fun link mem under => unknown ?_
      obtain ⟨earlier, later, rfl, -⟩ :=
        ((Link.isLastWrites_unreplaced written).mem_iff link).mp mem
      exact List.mem_map.mpr ⟨link, by simp, by simpa using under⟩
    rw [unwritten, List.append_nil]
    refine List.filter_congr fun link _ => ?_
    by_cases under : link.provider = key
    · simp [under, unknown]
    · simp [under]

/-! ## Questions about links -/

/-- A user is linked under the keys of the links. -/
theorem isLinked_iff (user : User) (key : String) :
    user.isLinked key = true ↔ ∃ link ∈ user.links, link.provider = key := by
  simp [isLinked]

/-- A user is linked under a key if there are links under it. -/
theorem isLinked_eq (user : User) (key : String) :
    user.isLinked key = !(user.linksUnder key).isEmpty := by
  rw [Bool.eq_iff_iff, isLinked_iff]
  simp [linksUnder]

/-- The id that is linked under a key is that of the first link under it. -/
theorem linkedId?_eq (user : User) (key : String) :
    user.linkedId? key = (user.linksUnder key).head?.map (·.uid) := by
  rw [linkedId?, linksUnder, List.head?_filter]

/-- After calls that link ids to a user, whatever links the user had before, nothing but the links
has changed, and these are the old ones under keys that were not written, in their order, and behind
them the ones that were written last under their keys, in the order of these calls.  So each key that
was written has one link, with the id that was written last, and all other keys have the links that
they had.  Whether a key is linked, and to what, is answered by this list. -/
theorem links_afterCalls (user : User) (calls : List LinkCall) :
    let written := calls.map (·.written)
    let keys := written.map (·.provider)
    let after := user.afterCalls calls
    (∃ linked, Link.IsLastWrites written linked ∧
      after = { user with links := user.links.filter (·.provider ∉ keys) ++ linked }) ∧
    (∀ key ∈ keys, ∃ uid, Link.WrittenLast written ⟨key, uid⟩ ∧
      after.linksUnder key = [⟨key, uid⟩] ∧ after.isLinked key = true ∧
      after.linkedId? key = some uid) ∧
    (∀ key ∉ keys, after.linksUnder key = user.linksUnder key ∧
      after.isLinked key = user.isLinked key ∧ after.linkedId? key = user.linkedId? key) ∧
    ∀ key, (after.isLinked key = true ↔ ∃ link ∈ after.links, link.provider = key) ∧
      after.linkedId? key = (after.linksUnder key).head?.map (·.uid) := by
  intro written keys after
  have linked : after = user.linkAll written := user.afterCalls_eq_linkAll calls
  obtain ⟨lastOnes, others⟩ := user.linksUnder_linkAll written
  rw [linked]
  refine ⟨⟨_, Link.isLastWrites_unreplaced written, user.linkAll_eq written⟩, ?_, ?_, ?_⟩
  · intro key known
    obtain ⟨uid, last⟩ := Link.exists_writtenLast known
    have single := lastOnes _ last
    exact ⟨uid, last, single, by rw [isLinked_eq, single]; rfl, by rw [linkedId?_eq, single]; rfl⟩
  · intro key unknown
    have same := others key unknown
    exact ⟨same, by rw [isLinked_eq, same, isLinked_eq], by rw [linkedId?_eq, same, linkedId?_eq]⟩
  · exact fun key => ⟨isLinked_iff _ key, linkedId?_eq _ key⟩

/-- A user who has two links under each of two keys is linked under one of them again and again, and
under a key that is new. -/
theorem links_afterCalls_repeated :
    let ada := { User.sample with
      links := [⟨"ldap", "a"⟩, ⟨"github", "1"⟩, ⟨"ldap", "b"⟩, ⟨"github", "2"⟩] }
    let calls : List LinkCall := [.link "ldap" "c", .withLink "corp" "ada", .link "ldap" "ada"]
    let keys := (calls.map (·.written)).map (·.provider)
    "ldap" ∈ keys ∧ (ada.afterCalls calls).linksUnder "ldap" = [⟨"ldap", "ada"⟩] ∧
      "github" ∉ keys ∧ (ada.afterCalls calls).linkedId? "github" = some "1" ∧
      (ada.afterCalls calls).links =
        [⟨"github", "1"⟩, ⟨"github", "2"⟩, ⟨"corp", "ada"⟩, ⟨"ldap", "ada"⟩] := by
  intro ada calls keys
  have again : "ldap" ∈ keys := by decide +kernel
  have never : "github" ∉ keys := by decide +kernel
  obtain ⟨-, known, unknown, -⟩ := links_afterCalls ada calls
  obtain ⟨uid, -, single, -, found⟩ := known "ldap" again
  have isLast : (ada.afterCalls calls).linkedId? "ldap" = some "ada" := by decide +kernel
  obtain rfl : uid = "ada" := Option.some.inj (found.symm.trans isLast)
  exact ⟨again, single, never, (unknown "github" never).2.2, by decide +kernel⟩

end User

end DirectorySignIn
