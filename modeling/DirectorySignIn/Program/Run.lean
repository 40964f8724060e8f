import DirectorySignIn.Program.Basic

/-!
# Runs

An environment replies to the actions of a program.  It may have a state of any kind, and a
directory may take any time for an answer; the clock moves by that time, but never beyond the
limit that the program set for the call.  A run keeps every action with its reply and with the time
at which it was begun.

Main results:

- `run_bind`: a program followed by another is run one after the other, and the steps of the runs
  stand one behind the other.
- `Task.run_bind`: what follows a task that failed is not run.
- `clock_le_run`: the clock never goes back.
-/

namespace DirectorySignIn

/-- What a directory does with a call. -/
structure Response (α : Type) where
  /-- How long it takes, in milliseconds. -/
  latency : Nat
  outcome : Except DirectoryError α

/-- The stores and the directories that a program is run against. -/
structure Environment (σ : Type) where
  store : (call : StoreCall) → σ → Except Error call.Answer × σ
  directory : (call : DirectoryCall) → σ → Response call.Answer × σ
  drawUserId : σ → UserId × σ

/-- A point in time, with the state of the environment. -/
structure Moment (σ : Type) where
  /-- The time in milliseconds. -/
  clock : Nat
  state : σ

/-- An action that was done, with the time at which it was begun and with the reply. -/
structure Step where
  started : Nat
  action : Action
  reply : action.Reply

/-- What came of running a program. -/
structure Run (σ α : Type) where
  result : α
  steps : List Step
  after : Moment σ

variable {σ α β : Type}

/-! ## One action -/

/-- Waits for a directory for as long as the limit allows. -/
def Response.await (response : Response α) (limit : Nat) : Option (Except DirectoryError α) :=
  if response.latency ≤ limit then some response.outcome else none

/-- Replies to an action. -/
def Environment.reply (environment : Environment σ) (moment : Moment σ) :
    (action : Action) → action.Reply × Moment σ
  | .store call =>
    let (reply, state) := environment.store call moment.state
    (reply, ⟨moment.clock, state⟩)
  | .directory call limit =>
    let (response, state) := environment.directory call moment.state
    (response.await limit, ⟨moment.clock + min response.latency limit, state⟩)
  | .readClock => (moment.clock, moment)
  | .drawUserId =>
    let (id, state) := environment.drawUserId moment.state
    (id, ⟨moment.clock, state⟩)
  | .log _ => ((), moment)

@[simp]
theorem Environment.reply_store (environment : Environment σ) (moment : Moment σ)
    (call : StoreCall) :
    environment.reply moment (.store call) =
      ((environment.store call moment.state).1,
        ⟨moment.clock, (environment.store call moment.state).2⟩) :=
  rfl

@[simp]
theorem Environment.reply_readClock (environment : Environment σ) (moment : Moment σ) :
    environment.reply moment .readClock = (moment.clock, moment) :=
  rfl

@[simp]
theorem Environment.reply_drawUserId (environment : Environment σ) (moment : Moment σ) :
    environment.reply moment .drawUserId =
      ((environment.drawUserId moment.state).1,
        ⟨moment.clock, (environment.drawUserId moment.state).2⟩) :=
  rfl

@[simp]
theorem Environment.reply_log (environment : Environment σ) (moment : Moment σ)
    (event : LogEvent) : environment.reply moment (.log event) = ((), moment) :=
  rfl

/-! ## Whole programs -/

namespace Program

/-- Runs a program. -/
def run (environment : Environment σ) : Program α → Moment σ → Run σ α
  | done result, moment => ⟨result, [], moment⟩
  | act action next, moment =>
    let (reply, later) := environment.reply moment action
    let rest := run environment (next reply) later
    { rest with steps := ⟨moment.clock, action, reply⟩ :: rest.steps }

@[simp]
theorem run_done (environment : Environment σ) (result : α) (moment : Moment σ) :
    (done result).run environment moment = ⟨result, [], moment⟩ :=
  rfl

@[simp]
theorem run_pure (environment : Environment σ) (result : α) (moment : Moment σ) :
    (pure result : Program α).run environment moment = ⟨result, [], moment⟩ :=
  rfl

/-- A program is run before what follows it. -/
theorem run_bind (environment : Environment σ) (program : Program α) (f : α → Program β)
    (moment : Moment σ) :
    (program >>= f).run environment moment =
      let first := program.run environment moment
      let second := (f first.result).run environment first.after
      ⟨second.result, first.steps ++ second.steps, second.after⟩ := by
  induction program generalizing moment with
  | done result => rfl
  | act action next ih => simp [run, ih]

/-- A program of one action runs to the reply of the environment. -/
@[simp]
theorem run_perform (environment : Environment σ) (action : Action) (moment : Moment σ) :
    (perform action).run environment moment =
      let (reply, later) := environment.reply moment action
      ⟨reply, [⟨moment.clock, action, reply⟩], later⟩ :=
  rfl

/-- Replying takes no less than no time. -/
theorem clock_le_reply (environment : Environment σ) (moment : Moment σ) (action : Action) :
    moment.clock ≤ (environment.reply moment action).2.clock := by
  cases action <;> simp [Environment.reply]

/-- The clock does not run backwards while a program runs. -/
theorem clock_le_run (environment : Environment σ) (program : Program α) (moment : Moment σ) :
    moment.clock ≤ (program.run environment moment).after.clock := by
  induction program generalizing moment with
  | done result => exact Nat.le_refl _
  | act action next ih => exact Nat.le_trans (clock_le_reply environment moment action) (ih _ _)

end Program

/-- What follows a task is run if the task succeeds, and only then. -/
theorem Task.run_bind {ε : Type} (environment : Environment σ) (task : Task ε α)
    (f : α → Task ε β) (moment : Moment σ) :
    (task >>= f).run.run environment moment =
      match task.run.run environment moment with
      | ⟨.ok a, steps, after⟩ =>
        let second := (f a).run.run environment after
        ⟨second.result, steps ++ second.steps, second.after⟩
      | ⟨.error e, steps, after⟩ => ⟨.error e, steps, after⟩ := by
  rw [ExceptT.run_bind, Program.run_bind]
  rcases task.run.run environment moment with ⟨result, steps, after⟩
  cases result <;> simp

/-! ## What a run shows -/

/-- The call of a store or of a directory. -/
inductive Call where
  | store (call : StoreCall)
  | directory (call : DirectoryCall)
deriving DecidableEq

namespace Step

/-- The call that a step made. -/
def call? (step : Step) : Option Call :=
  match step.action with
  | .store call => some (.store call)
  | .directory call _ => some (.directory call)
  | _ => none

/-- The event that a step logged. -/
def event? (step : Step) : Option LogEvent :=
  match step.action with
  | .log event => some event
  | _ => none

/-- The identifier that a step drew. -/
def drawn? : Step → Option UserId
  | ⟨_, .drawUserId, id⟩ => some id
  | _ => none

end Step

namespace Run

/-- The calls of a run in their order. -/
def calls (run : Run σ α) : List Call :=
  run.steps.filterMap Step.call?

/-- The events that a run logged in their order. -/
def events (run : Run σ α) : List LogEvent :=
  run.steps.filterMap Step.event?

/-- The identifiers that a run drew in their order. -/
def drawn (run : Run σ α) : List UserId :=
  run.steps.filterMap Step.drawn?

end Run

end DirectorySignIn
