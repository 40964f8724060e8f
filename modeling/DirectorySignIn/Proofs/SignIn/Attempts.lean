import DirectorySignIn.Proofs.Account.Consistency
import DirectorySignIn.Proofs.SignIn.Reconciliation

/-!
# Reconciliations one after the other

Any number of reconciliations against the same stores in memory, for any tenants, through any
providers and of any profiles, some of which may fail.  The accounts that are stored stay consistent
all along.

Main results:

- `Course.consistent`: one reconciliation keeps the accounts consistent, whichever course it takes.
- `consistent_of_mem_history`: so does every row of reconciliations, after each of them.
-/

namespace DirectorySignIn

open Reconciliation

variable {δ : Type}

/-- One reconciliation keeps the accounts consistent, whichever course it takes. -/
theorem Reconciliation.Course.consistent {users after : UserStore} {tenant : Tenant}
    {provider : String} {profile : Profile} {calls : List Call}
    {result : Except Error Reconciliation}
    (course : Course users tenant provider profile calls result after) (h : users.Consistent) :
    after.Consistent := by
  cases course with
  | identityUnread _ => exact h
  | existing _ => exact h
  | emailUnread _ _ _ => exact h
  | linkFailed _ _ _ => exact h
  | linked unknown found written =>
    obtain ⟨hmem, htenant⟩ := UserStore.of_findEmail?_eq_some found
    rw [← htenant] at unknown
    exact h.attach hmem unknown written
  | refused _ _ _ => exact h
  | registerFailed _ _ _ _ _ => exact h
  | registered id unknown nobody _ written =>
    exact h.register (profile.links_visitor id tenant.id provider) unknown nobody written

/-- A reconciliation that is asked for. -/
structure Attempt where
  tenant : Tenant
  provider : String
  profile : Profile

/-- The moment after an attempt. -/
def Attempt.after (surroundings : Surroundings δ) (attempt : Attempt)
    (moment : Moment (Memory δ)) : Moment (Memory δ) :=
  ((reconcile attempt.tenant attempt.provider attempt.profile).run.run surroundings.withMemory
    moment).after

/-- The moments after each of several attempts that are made one after the other. -/
def history (surroundings : Surroundings δ) :
    List Attempt → Moment (Memory δ) → List (Moment (Memory δ))
  | [], _ => []
  | attempt :: rest, moment =>
    let later := attempt.after surroundings moment
    later :: history surroundings rest later

/-- An attempt keeps the accounts consistent. -/
theorem Attempt.consistent_after (surroundings : Surroundings δ) (attempt : Attempt)
    {moment : Moment (Memory δ)} (h : moment.state.users.Consistent) :
    (attempt.after surroundings moment).state.users.Consistent :=
  (course surroundings moment attempt.tenant attempt.provider attempt.profile).consistent h

/-- The accounts are consistent after every attempt if they were before the first. -/
theorem consistent_of_mem_history (surroundings : Surroundings δ) (attempts : List Attempt)
    (moment : Moment (Memory δ)) (h : moment.state.users.Consistent) :
    ∀ later ∈ history surroundings attempts moment, later.state.users.Consistent := by
  induction attempts generalizing moment with
  | nil =>
    intro later hlater
    contradiction
  | cons attempt rest ih =>
    have hafter := attempt.consistent_after surroundings h
    intro later hlater
    rcases List.mem_cons.mp hlater with rfl | hrest
    · exact hafter
    · exact ih _ hafter later hrest

/-- Surroundings that let the first write fail and number the new accounts. -/
def Surroundings.sample : Surroundings Nat where
  failure call n :=
    if call.isWrite && n == 0 then (some (.persistenceFailure "unreachable"), 1) else (none, n)
  directory _ n := (⟨0, .error .deadline⟩, n)
  drawUserId n := (⟨⟨BitVec.ofNat 128 n⟩⟩, n + 1)

/-- An account without a link. -/
def User.sample : User where
  id := ⟨⟨0⟩⟩
  tenant := ⟨⟨0⟩⟩
  name := "Ada"
  email := "Ada@example.org"
  role := .collaborator
  links := []

/-- A link that fails, the same link once more, and a stranger. -/
def Attempt.samples : List Attempt :=
  let tenant : Tenant := ⟨⟨⟨0⟩⟩, "demo", false⟩
  [⟨tenant, "ldap", ⟨"ada", "Ada", "ada@example.org"⟩⟩,
    ⟨tenant, "ldap", ⟨"ada", "Ada", "ada@example.org"⟩⟩,
    ⟨tenant, "ldap", ⟨"bob", "Bob", "bob@example.org"⟩⟩]

/-- The first attempt fails, the second one links the account, and the third one registers another. -/
theorem consistent_of_mem_history_samples :
    (⟨[User.sample]⟩ : UserStore).Consistent ∧
      (history .sample Attempt.samples ⟨0, ⟨.empty, ⟨[User.sample]⟩, 0⟩⟩).map
        (fun later => later.state.users.users.map (·.links)) =
          [[[]], [[⟨"ldap", "ada"⟩]], [[⟨"ldap", "ada"⟩], [⟨"ldap", "bob"⟩]]] ∧
      ∀ later ∈ history .sample Attempt.samples ⟨0, ⟨.empty, ⟨[User.sample]⟩, 0⟩⟩,
        later.state.users.Consistent := by
  have before : (⟨[User.sample]⟩ : UserStore).Consistent :=
    ⟨List.pairwise_singleton _ _, by simp [User.OneLinkPerKey, User.sample]⟩
  exact ⟨before, by decide +kernel, consistent_of_mem_history .sample Attempt.samples _ before⟩

end DirectorySignIn
