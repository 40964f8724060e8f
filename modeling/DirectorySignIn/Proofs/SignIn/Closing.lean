import DirectorySignIn.Proofs.SignIn.Bracketing
import DirectorySignIn.Proofs.SignIn.Coupling

/-!
# Closing is of no consequence

Every session is closed, and what a directory makes of that is no concern of the caller.  Two
environments are compared that answer everything alike but the closing of sessions.  The result of
an operation that has one session is the same in both; a sign-in goes on after it has closed its
first session, so that for it closing has to take as long in both.

Main results:

- `Service.sessions_closed`: operations close each of their sessions in time, and their results do
  not depend on how that is answered.
-/

namespace DirectorySignIn

variable {σ τ : Type}

/-! ## Environments that differ in closing -/

/-- In states that are related, two environments answer everything alike but the closing of
sessions, and the states stay related. -/
structure AlikeButClosing (left : Environment σ) (right : Environment τ)
    (related : σ → τ → Prop) : Prop where
  store : ∀ {s t}, related s t → ∀ call,
    (left.store call s).1 = (right.store call t).1 ∧
      related (left.store call s).2 (right.store call t).2
  directory : ∀ {s t}, related s t → ∀ call, call ≠ .unbind →
    (left.directory call s).1 = (right.directory call t).1 ∧
      related (left.directory call s).2 (right.directory call t).2
  drawUserId : ∀ {s t}, related s t →
    (left.drawUserId s).1 = (right.drawUserId t).1 ∧
      related (left.drawUserId s).2 (right.drawUserId t).2

/-- In states that are related, closing a session takes as long in two environments, whatever comes
of it, and the states stay related. -/
def ClosingTakesAsLong (left : Environment σ) (right : Environment τ) (related : σ → τ → Prop) :
    Prop :=
  ∀ {s t}, related s t →
    (left.directory .unbind s).1.latency = (right.directory .unbind t).1.latency ∧
      related (left.directory .unbind s).2 (right.directory .unbind t).2

/-- An environment with another way of closing sessions. -/
def Environment.closingWith (environment : Environment σ) (closing : σ → Response Unit × σ) :
    Environment σ :=
  { environment with
    directory := fun call state =>
      match call with
      | .unbind => closing state
      | call => environment.directory call state }

/-- Two ways of closing sessions make environments that are alike in everything else. -/
theorem Environment.alikeButClosing (environment : Environment σ)
    (closing other : σ → Response Unit × σ) :
    AlikeButClosing (environment.closingWith closing) (environment.closingWith other) (· = ·) where
  store := by
    rintro s _ rfl call
    exact ⟨rfl, rfl⟩
  directory := by
    rintro s _ rfl call h
    cases call with
    | unbind => exact absurd rfl h
    | _ => exact ⟨rfl, rfl⟩
  drawUserId := by
    rintro s _ rfl
    exact ⟨rfl, rfl⟩

/-- After a session was closed, the directory was asked to do so, and nothing else has happened. -/
theorem Session.after_close (session : Session) (environment : Environment σ)
    (moment : Moment σ) :
    (session.close.run environment moment).after =
      (environment.reply moment
        (.directory .unbind (session.budget.limit moment.clock))).2 := by
  unfold close
  rw [Program.run_bind, Budget.run_call]
  dsimp only
  rcases environment.reply moment (.directory .unbind (session.budget.limit moment.clock)) with
    ⟨reply, after⟩
  match reply with
  | none => rfl
  | some (.ok ()) => rfl
  | some (.error e) => rfl

/-! ## The coupling -/

namespace AlikeButClosing

variable {left : Environment σ} {right : Environment τ} {related : σ → τ → Prop}
  (h : AlikeButClosing left right related)

/-- The clocks go alike and the states are related. -/
def coupling : Coupling σ τ where
  left := left
  right := right
  granted _ _ := True
  granted_of_append _ := trivial
  alike s t := s.moment.clock = t.moment.clock ∧ related s.moment.state t.moment.state
  events := (· = ·)
  errors := (· = ·)
  urls := (· = ·)
  configs := (· = ·)
  calls _ call call' := call = call' ∧ call ≠ .unbind
  events_refl _ := rfl
  errors_congruence := DirectoryError.congruence_eq
  events_failure := LogEvent.failure_congr
  clock_eq hst := hst.1
  readClock hst := hst
  log hst _ := hst
  directory := by
    rintro s t call _ ⟨hclock, hstate⟩ ⟨rfl, hcall⟩ limit
    obtain ⟨answered, hafter⟩ := h.directory hstate call hcall
    refine ⟨⟨?_, hafter⟩, congrArg Response.latency answered, ?_⟩
    · change s.moment.clock + min _ limit = t.moment.clock + min _ limit
      rw [hclock, answered]
    · exact paired_of_eq (congrArg Response.outcome answered) (fun _ => rfl) fun _ => rfl

/-- The coupling serves one and the same request on both sides. -/
theorem serves (settings : Settings) (tenant : TenantId) (request : SignInRequest) :
    h.coupling.Serves settings tenant request request where
  provider_eq := rfl
  check_eq := rfl
  username_blank := rfl
  password_empty := Iff.rfl
  lookup := by
    rintro s t ⟨hclock, hstate⟩
    obtain ⟨answered, hafter⟩ := h.store hstate (.getConfig tenant request.provider)
    refine ⟨⟨hclock, hafter⟩, ?_⟩
    refine paired_of_eq answered (fun found => ?_) fun _ => rfl
    cases found with
    | none => exact .none
    | some config => exact .some rfl
  target := by
    rintro config _ rfl
    exact paired_self _ (fun target => ⟨rfl, fun _ => ⟨rfl, nofun⟩⟩) fun _ => ⟨rfl, rfl⟩
  serviceBind := by
    rintro config _ calls rfl _
    exact ⟨rfl, nofun⟩
  search := by
    rintro config _ rfl calls attributes
    exact ⟨rfl, nofun⟩
  userBind _ _ := ⟨rfl, nofun⟩
  attributes := by
    rintro config _ rfl
    rfl
  profile := by
    rintro config _ rfl entry
    rfl

/-- Where nothing comes after the sessions, nothing is asked of closing them. -/
theorem closes : h.coupling.Closes fun _ _ => True where
  of_alike _ _ _ := trivial
  log _ _ := trivial
  close _ _ _ _ _ := trivial

/-- Sessions that take as long to be closed leave the sides alike. -/
theorem closes_alike (asLong : ClosingTakesAsLong left right related) :
    h.coupling.Closes h.coupling.alike where
  of_alike _ _ hst := hst
  log hst _ := hst
  close := by
    intro session session' sessions s t hst one two _
    obtain ⟨hclock, hstate⟩ := hst
    obtain ⟨hlatency, hafter⟩ := asLong hstate
    have hone : one.after = _ := session.after_close left s.moment
    have htwo : two.after = _ := session'.after_close right t.moment
    rw [← sessions.budget, ← hclock] at htwo
    change one.after.clock = two.after.clock ∧ related one.after.state two.after.state
    rw [hone, htwo]
    refine ⟨?_, hafter⟩
    change s.moment.clock + min _ _ = t.moment.clock + min _ _
    rw [hclock, hlatency]

/-- Reconciliations ask nothing of directories. -/
theorem reconcile (tenant : Tenant) (provider : String) (profile : Profile) :
    Task.EndAlike h.coupling.toComparison h.coupling.alike
      (Reconciliation.reconcile tenant provider profile)
      (Reconciliation.reconcile tenant provider profile) h.coupling.alike := by
  refine Coupling.reconcile ?_ ?_ tenant provider profile
  · rintro s t ⟨hclock, hstate⟩ call _
    obtain ⟨answered, hafter⟩ := h.store hstate call
    exact ⟨answered, hclock, hafter⟩
  · rintro s t ⟨hclock, hstate⟩
    obtain ⟨answered, hafter⟩ := h.drawUserId hstate
    exact ⟨answered, hclock, hafter⟩

end AlikeButClosing

/-! ## Operations -/

namespace Service

/-- In every run of an operation each session that was opened was closed by the last call made in
it, and before another one was opened.  In two environments that answer alike but for the closing
of sessions, the results of the operations with one session are the same, and so is the result of a
sign-in if closing takes as long. -/
theorem sessions_closed (service : Service) (context : Context)
    (provider username password : String) (request : SignInRequest) :
    (∀ {σ : Type} (environment : Environment σ) (moment : Moment σ),
      Bracketed ((service.checkProvider context provider).run.run environment moment).steps ∧
        Bracketed ((service.verify context provider username password).run.run environment
          moment).steps ∧
        Bracketed ((service.readProfile context provider username).run.run environment
          moment).steps ∧
        Bracketed ((service.signIn context request).run.run environment moment).steps) ∧
    ∀ {σ τ : Type} {left : Environment σ} {right : Environment τ} {related : σ → τ → Prop},
      AlikeButClosing left right related → ∀ clock s t, related s t →
        ((service.checkProvider context provider).run.run left ⟨clock, s⟩).result =
            ((service.checkProvider context provider).run.run right ⟨clock, t⟩).result ∧
          ((service.verify context provider username password).run.run left ⟨clock, s⟩).result =
            ((service.verify context provider username password).run.run right
              ⟨clock, t⟩).result ∧
          ((service.readProfile context provider username).run.run left ⟨clock, s⟩).result =
            ((service.readProfile context provider username).run.run right ⟨clock, t⟩).result ∧
          (ClosingTakesAsLong left right related →
            ((service.signIn context request).run.run left ⟨clock, s⟩).result =
              ((service.signIn context request).run.run right ⟨clock, t⟩).result) := by
  constructor
  · intro σ environment moment
    exact ⟨(service.keeps_checkProvider context provider).bracketed environment moment,
      (service.keeps_verify context provider username password).bracketed environment moment,
      (service.keeps_readProfile context provider username).bracketed environment moment,
      (service.keeps_signIn context request).bracketed environment moment⟩
  · intro σ τ left right related h clock s t hst
    have begun : h.coupling.alike (.begin ⟨clock, s⟩) (.begin ⟨clock, t⟩) := ⟨rfl, hst⟩
    have serves := h.serves service.settings context.tenant.id ⟨provider, username, password⟩
    refine ⟨?_, ?_, ?_, fun asLong => ?_⟩
    · exact ((Coupling.checkProvider serves h.closes).run begun trivial).1
    · exact ((Coupling.verify serves h.closes).run begun trivial).1
    · exact ((Coupling.readProfile serves h.closes).run begun trivial).1
    · have signedIn := Coupling.signIn
        (h.serves service.settings context.tenant.id request) (h.closes_alike asLong)
        (fun _ _ hst => hst) (h.reconcile context.tenant request.provider)
      exact (signedIn.run begun trivial).1

/-- A sign-in comes to the same result whether its sessions are closed or break off. -/
theorem sessions_closed_sample :
    let answering (outcome : Except DirectoryError Unit) :=
      Script.surroundings.withMemory.closingWith fun memory => (⟨3, outcome⟩, memory)
    let closing := answering (.ok ())
    let breaking := answering (.error (.transport "reset"))
    let memory := Memory.sample (.finding [[.sample "ada"], [.sample "ada"]])
    let signIn := Service.sample.signIn .sample .sample
    AlikeButClosing closing breaking (· = ·) ∧ ClosingTakesAsLong closing breaking (· = ·) ∧
      Bracketed (signIn.run.run breaking ⟨0, memory⟩).steps ∧
      (signIn.run.run closing ⟨0, memory⟩).result = (signIn.run.run breaking ⟨0, memory⟩).result ∧
      (signIn.run.run closing ⟨0, memory⟩).result.toOption.isSome := by
  intro answering closing breaking memory signIn
  obtain ⟨brackets, same⟩ := sessions_closed .sample .sample "ldap" "ada" "ada-pw" .sample
  have alike : AlikeButClosing closing breaking (· = ·) :=
    Script.surroundings.withMemory.alikeButClosing _ _
  have asLong : ClosingTakesAsLong closing breaking (· = ·) := by
    rintro s _ rfl
    exact ⟨rfl, rfl⟩
  refine ⟨alike, asLong, (brackets breaking ⟨0, memory⟩).2.2.2, ?_, by decide +kernel⟩
  exact (same alike 0 memory memory rfl).2.2.2 asLong

end Service

end DirectorySignIn
