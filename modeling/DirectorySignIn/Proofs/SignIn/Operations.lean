import DirectorySignIn.Proofs.SignIn.Session
import DirectorySignIn.SignIn.Service

/-!
# What operations ask for

Until it turns to the accounts, an operation looks up configurations of the tenant and asks
directories.  So it obeys every rule that is permissive in that: it lets these calls be made at any
time, whatever else it forbids.

Main results:

- `Permissive.obeys_within`: permissive rules are obeyed in sessions.
- `Permissive.obeys_checkProvider`, `Permissive.obeys_verify`, `Permissive.obeys_readProfile`,
  `Permissive.obeys_allProviders`, `Permissive.obeys_activeProviders`: they are obeyed by the
  operations; `Permissive.obeys_signIn`: by a sign-in if reconciliations obey them too.
-/

namespace DirectorySignIn

variable {α : Type}

/-- A rule on calls that permits everything but calls on the accounts and on the configurations of
other tenants. -/
structure Permissive (permits : List Step → Call → Prop) (tenant : TenantId) : Prop where
  getConfig : ∀ calls provider, permits calls (.store (.getConfig tenant provider))
  listConfigs : ∀ calls, permits calls (.store (.listConfigs tenant))
  directory : ∀ calls call, permits calls (.directory call)

namespace Permissive

variable {permits : List Step → Call → Prop} {context : Context}
  (permissive : Permissive permits context.tenant.id) (service : Service)
  (provider username password : String) (earlier : List Step)

include permissive

/-- A session obeys a permissive rule if the work in it does. -/
theorem obeys_within (settings : Settings) (reduce : DirectoryError → String → Error)
    (work : Session → Task DirectoryError α)
    (working : ∀ session history, Task.Obeys (.onCalls permits) (work session) history) :
    Task.Obeys (.onCalls permits) (Session.within settings context provider reduce work)
      earlier := by
  refine Session.obeys_within settings context provider reduce work
    (fun _ => permissive.directory _ _) ?_
  exact Session.ensures_start settings context provider (permissive.getConfig _ _)
    (fun _ _ _ _ => permissive.directory _ _) (fun _ _ _ _ _ _ _ _ => working _ _)
    (fun _ _ => trivial)

theorem obeys_bindService (session : Session) :
    Task.Obeys (.onCalls permits) session.bindService earlier :=
  Session.ensures_bindService session (permissive.directory _ _) (fun _ _ _ _ => trivial)
    (fun _ _ => trivial)

theorem obeys_findUser (session : Session) (attributes : List String) :
    Task.Obeys (.onCalls permits) (session.findUser username attributes) earlier :=
  Session.ensures_findUser session _ _ (permissive.directory _ _) (fun _ _ _ _ _ => trivial)
    (fun _ _ => trivial)

/-- The work of a verification obeys every permissive rule. -/
theorem obeys_verifyWithin (session : Session) :
    Task.Obeys (.onCalls permits) (Service.verifyWithin username password session) earlier := by
  unfold Service.verifyWithin
  split
  · trivial
  · refine Task.obeys_bind (permissive.obeys_bindService _ session) fun _ _ => ?_
    refine Task.obeys_bind (permissive.obeys_findUser _ _ session _) fun _ _ => ?_
    exact Session.ensures_bindUser session _ _ (permissive.directory _ _) (fun _ _ _ _ => trivial)
      (fun _ _ => trivial)

/-- The work of reading a profile obeys every permissive rule. -/
theorem obeys_readProfileWithin (session : Session) :
    Task.Obeys (.onCalls permits) (Service.readProfileWithin username session) earlier := by
  refine Task.obeys_bind (permissive.obeys_bindService _ session) fun _ _ => ?_
  exact Task.obeys_bind (permissive.obeys_findUser _ _ session _) fun _ _ => Task.obeys_ofExcept _

/-- A verification obeys every permissive rule. -/
theorem obeys_verify :
    Task.Obeys (.onCalls permits) (service.verify context provider username password) earlier := by
  unfold Service.verify
  split
  · exact Task.obeys_bind (Task.obeys_log _) fun _ _ => trivial
  · exact permissive.obeys_within _ _ _ _ _ fun session history =>
      permissive.obeys_verifyWithin username password history session

/-- To read a profile obeys every permissive rule. -/
theorem obeys_readProfile :
    Task.Obeys (.onCalls permits) (service.readProfile context provider username) earlier :=
  permissive.obeys_within _ _ _ _ _ fun session history =>
    permissive.obeys_readProfileWithin username history session

/-- The check of a provider obeys every permissive rule. -/
theorem obeys_checkProvider :
    Task.Obeys (.onCalls permits) (service.checkProvider context provider) earlier := by
  refine Task.obeys_bind ?_ fun _ _ => Task.obeys_log _
  exact permissive.obeys_within _ _ _ _ _ fun session history =>
    permissive.obeys_bindService history session

/-- To list the providers obeys every permissive rule. -/
theorem obeys_allProviders :
    Task.Obeys (.onCalls permits) (service.allProviders context) earlier :=
  Task.obeys_bind (Task.obeys_store (permissive.listConfigs _)) fun _ _ => trivial

/-- To list the active providers obeys every permissive rule. -/
theorem obeys_activeProviders :
    Task.Obeys (.onCalls permits) (service.activeProviders context) earlier :=
  Task.obeys_bind (permissive.obeys_allProviders service earlier) fun _ _ => trivial

/-- A sign-in obeys a permissive rule if its reconciliation does. -/
theorem obeys_signIn (request : SignInRequest)
    (reconciling : ∀ profile history, Task.Obeys (.onCalls permits)
      (Reconciliation.reconcile context.tenant request.provider profile) history) :
    Task.Obeys (.onCalls permits) (service.signIn context request) earlier := by
  refine Task.obeys_bind (Task.obeys_ofExcept _) fun _ _ => ?_
  refine Task.obeys_bind (Task.obeys_adapt (permissive.obeys_verify service _ _ _ _) _) ?_
  intro _ verified
  refine Task.obeys_bind (Task.obeys_adapt (permissive.obeys_readProfile service _ _ _) _) ?_
  exact fun profile history => Task.obeys_bind (reconciling profile history) fun _ _ => trivial

end Permissive

end DirectorySignIn
