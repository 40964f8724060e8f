import DirectorySignIn.SignIn.Budget
import DirectorySignIn.Program.Run

/-!
# Tasks that succeed

When a task succeeds in an environment, and at which moment it ends.  Success is a relation between
the moment at which a task is begun, its result and the moment after it, so that a task succeeds
exactly if its parts succeed one after the other.

Main results:

- `succeeds_bind`: two tasks in a row succeed if the second succeeds at the moment after the first.
- `succeeds_call`: a call on a directory succeeds if the answer comes within the budget.
-/

namespace DirectorySignIn

variable {σ ε ε' α β : Type} {environment : Environment σ} {moment later : Moment σ}

/-- A directory takes a call that is begun at a moment, and its answer comes within the budget. -/
structure Budget.Grants (budget : Budget) (environment : Environment σ) (call : DirectoryCall)
    (moment : Moment σ) (answer : call.Answer) (later : Moment σ) : Prop where
  in_time : (environment.directory call moment.state).1.latency ≤ budget.limit moment.clock
  granted : (environment.directory call moment.state).1.outcome = .ok answer
  clock_eq : later.clock = moment.clock + (environment.directory call moment.state).1.latency
  state_eq : later.state = (environment.directory call moment.state).2

namespace Task

/-- A task that is begun at a moment succeeds with a result and ends at a later moment. -/
def Succeeds (environment : Environment σ) (task : Task ε α) (moment : Moment σ) (a : α)
    (later : Moment σ) : Prop :=
  (task.run.run environment moment).result = .ok a ∧
    (task.run.run environment moment).after = later

/-- A task has a good result if it succeeds. -/
theorem result_eq_ok_iff (task : Task ε α) (a : α) :
    (task.run.run environment moment).result = .ok a ↔
      ∃ later, Succeeds environment task moment a later :=
  ⟨fun h => ⟨_, h, rfl⟩, fun ⟨_, h, _⟩ => h⟩

/-- A task that succeeds at once ends at the moment at which it was begun. -/
@[simp]
theorem succeeds_pure (a b : α) :
    Succeeds environment (pure a : Task ε α) moment b later ↔ a = b ∧ moment = later := by
  simp [Succeeds]

/-- A task that fails at once does not succeed. -/
@[simp]
theorem not_succeeds_throw (e : ε) (a : α) :
    ¬ Succeeds environment (throw e : Task ε α) moment a later := by
  rintro ⟨result, _⟩
  cases result

/-- A task that has an outcome at once succeeds if the outcome is good. -/
@[simp]
theorem succeeds_ofExcept (outcome : Except ε α) (a : α) :
    Succeeds environment (ofExcept outcome) moment a later ↔
      outcome = .ok a ∧ moment = later := by
  simp [Succeeds, ofExcept]

/-- Two tasks in a row succeed if the second one succeeds at the moment after the first. -/
@[simp]
theorem succeeds_bind (task : Task ε α) (f : α → Task ε β) (b : β) :
    Succeeds environment (task >>= f) moment b later ↔
      ∃ a middle, Succeeds environment task moment a middle ∧
        Succeeds environment (f a) middle b later := by
  simp only [Succeeds, Task.run_bind]
  rcases task.run.run environment moment with ⟨result, steps, after⟩
  cases result with
  | error e => simp
  | ok a =>
    constructor
    · intro second
      exact ⟨a, after, ⟨rfl, rfl⟩, second⟩
    · rintro ⟨_, _, ⟨⟨⟩, rfl⟩, second⟩
      exact second

/-- A program that cannot fail succeeds with its result. -/
@[simp]
theorem succeeds_lift (program : Program α) (a : α) :
    Succeeds environment (ExceptT.lift program : Task ε α) moment a later ↔
      (program.run environment moment).result = a ∧
        (program.run environment moment).after = later := by
  simp only [Succeeds, ExceptT.run_lift, map_eq_pure_bind, Program.run_bind, Program.run_pure,
    Except.ok.injEq]

/-- To log an event succeeds and changes nothing. -/
@[simp]
theorem succeeds_log (event : LogEvent) (u : Unit) :
    Succeeds environment (log event : Task ε Unit) moment u later ↔ moment = later := by
  rw [log, succeeds_lift]
  exact and_iff_right rfl

/-- A change of errors is of no consequence for success. -/
@[simp]
theorem succeeds_adapt (task : Task ε α) (f : ε → ε') (a : α) :
    Succeeds environment (ExceptT.adapt f task) moment a later ↔
      Succeeds environment task moment a later := by
  have same : ∀ result : Except ε α, result.mapError f = .ok a ↔ result = .ok a := by
    intro result
    cases result with
    | error e => exact ⟨nofun, nofun⟩
    | ok b =>
      constructor
      · intro h
        rw [Except.ok.inj h]
      · intro h
        rw [Except.ok.inj h]
        rfl
  simp only [Succeeds, ExceptT.run_adapt, map_eq_pure_bind, Program.run_bind, Program.run_pure,
    same]

/-- A call on a store succeeds if the store replies with an answer. -/
theorem succeeds_store (call : StoreCall) (answer : call.Answer) :
    Succeeds environment (store call) moment answer later ↔
      (environment.store call moment.state).1 = .ok answer ∧
        (⟨moment.clock, (environment.store call moment.state).2⟩ : Moment σ) = later :=
  Iff.rfl

end Task

/-! ## Calls within a budget -/

namespace Budget

/-- What a call within a budget does: it looks at the clock, asks the directory for as long as the
budget allows, and looks at the clock again if no answer came in time. -/
theorem run_call (budget : Budget) (operation : String) (call : DirectoryCall)
    (environment : Environment σ) (moment : Moment σ) :
    (budget.call operation call).run.run environment moment =
      let limit := budget.limit moment.clock
      let (reply, after) := environment.reply moment (.directory call limit)
      let steps : List Step :=
        [⟨moment.clock, .readClock, moment.clock⟩, ⟨moment.clock, .directory call limit, reply⟩]
      match reply with
      | some outcome => ⟨outcome, steps, after⟩
      | none =>
        ⟨.error (budget.expiry operation after.clock),
          steps ++ [⟨after.clock, .readClock, after.clock⟩], after⟩ := by
  have tree : (budget.call operation call).run =
      .act .readClock fun started => .act (.directory call (budget.limit started)) fun
        | some outcome => .done outcome
        | none => .act .readClock fun ended => .done (.error (budget.expiry operation ended)) :=
    rfl
  rw [tree]
  simp only [Program.run, Environment.reply_readClock]
  rcases environment.reply moment (.directory call (budget.limit moment.clock)) with
    ⟨reply, after⟩
  cases reply with
  | none => rfl
  | some outcome => rfl

/-- A call within a budget succeeds if the directory grants it in time. -/
theorem succeeds_call (budget : Budget) (operation : String) (call : DirectoryCall)
    (answer : call.Answer) :
    Task.Succeeds environment (budget.call operation call) moment answer later ↔
      budget.Grants environment call moment answer later := by
  have asked : environment.reply moment (.directory call (budget.limit moment.clock)) =
      ((environment.directory call moment.state).1.await (budget.limit moment.clock),
        ⟨moment.clock + min (environment.directory call moment.state).1.latency
          (budget.limit moment.clock), (environment.directory call moment.state).2⟩) :=
    rfl
  simp only [Task.Succeeds, run_call, asked, Response.await]
  by_cases inTime :
      (environment.directory call moment.state).1.latency ≤ budget.limit moment.clock
  · rw [if_pos inTime, Nat.min_eq_left inTime]
    constructor
    · rintro ⟨granted, rfl⟩
      exact ⟨inTime, granted, rfl, rfl⟩
    · rintro ⟨-, granted, clock_eq, state_eq⟩
      refine ⟨granted, ?_⟩
      cases later
      simp_all
  · rw [if_neg inTime]
    constructor
    · rintro ⟨failed, -⟩
      cases failed
    · rintro ⟨in_time, -, -, -⟩
      exact absurd in_time inTime

end Budget

end DirectorySignIn
