import DirectorySignIn.Proofs.Program.Conduct
import DirectorySignIn.Program.Memory

/-!
# What a task yields

The calls that a task makes from a moment on, its result and the moment after it.  What a task
yields is put together from what its parts yield, one after the other.

Main results:

- `Task.Yields.bind_ok` and `Task.Yields.bind_error`: two tasks in a row make the calls of both, or
  those of the first alone if it fails.
- `Surroundings.store_cases`: a call on the stores in memory fails and changes nothing, or is
  answered by the stores.
- `Program.configs_run`: no program changes the provider configurations.
- `Program.users_run_of_reading`: a program that does not write leaves the accounts as they were.
-/

namespace DirectorySignIn

variable {σ δ ε ε' α β : Type} {environment : Environment σ} {moment middle after : Moment σ}

namespace Task

/-- A task that is begun at a moment makes certain calls and ends with a result at a later
moment. -/
structure Yields (environment : Environment σ) (task : Task ε α) (moment : Moment σ)
    (calls : List Call) (result : Except ε α) (after : Moment σ) : Prop where
  calls_eq : (task.run.run environment moment).calls = calls
  result_eq : (task.run.run environment moment).result = result
  after_eq : (task.run.run environment moment).after = after

variable {calls others : List Call} {task : Task ε α} {f : α → Task ε β} {result : Except ε β}

namespace Yields

/-- Every task yields what its run shows. -/
theorem run (environment : Environment σ) (task : Task ε α) (moment : Moment σ) :
    Yields environment task moment (task.run.run environment moment).calls
      (task.run.run environment moment).result (task.run.run environment moment).after :=
  ⟨rfl, rfl, rfl⟩

/-- A task that succeeds at once makes no calls. -/
theorem pure (a : α) : Yields environment (pure a : Task ε α) moment [] (.ok a) moment :=
  ⟨rfl, rfl, rfl⟩

/-- A task that fails at once makes no calls. -/
theorem throw (e : ε) : Yields environment (throw e : Task ε α) moment [] (.error e) moment :=
  ⟨rfl, rfl, rfl⟩

/-- A task that has an outcome at once makes no calls. -/
theorem ofExcept (outcome : Except ε α) :
    Yields environment (ofExcept outcome) moment [] outcome moment :=
  ⟨rfl, rfl, rfl⟩

/-- To log an event makes no calls. -/
theorem log (event : LogEvent) :
    Yields environment (log event : Task ε Unit) moment [] (.ok ()) moment :=
  ⟨rfl, rfl, rfl⟩

/-- A call on a store is the one call that is made, and its reply the outcome. -/
theorem store {call : StoreCall} {reply : Except Error call.Answer} {state : σ}
    (h : environment.store call moment.state = (reply, state)) :
    Yields environment (store call) moment [.store call] reply ⟨moment.clock, state⟩ := by
  refine ⟨rfl, ?_, ?_⟩
  · exact congrArg Prod.fst h
  · exact congrArg (fun answered => (⟨moment.clock, answered.2⟩ : Moment σ)) h

/-- To draw an id makes no calls. -/
theorem newUserId :
    Yields environment (ExceptT.lift Program.newUserId : Task ε UserId) moment []
      (.ok (environment.drawUserId moment.state).1)
      ⟨moment.clock, (environment.drawUserId moment.state).2⟩ :=
  ⟨rfl, rfl, rfl⟩

/-- After a success the second task goes on. -/
theorem bind_ok {a : α} (first : Yields environment task moment calls (.ok a) middle)
    (second : Yields environment (f a) middle others result after) :
    Yields environment (task >>= f) moment (calls ++ others) result after := by
  obtain ⟨rfl, hresult, rfl⟩ := first
  obtain ⟨rfl, rfl, rfl⟩ := second
  have h := Task.run_bind environment task f moment
  revert hresult h
  rcases task.run.run environment moment with ⟨outcome, steps, later⟩
  rintro rfl h
  refine ⟨?_, ?_, ?_⟩
  · rw [h]
    exact List.filterMap_append ..
  · rw [h]
  · rw [h]

/-- After a failure the second task is left out. -/
theorem bind_error {e : ε} (first : Yields environment task moment calls (.error e) after) :
    Yields environment (task >>= f) moment calls (.error e) after := by
  obtain ⟨rfl, hresult, rfl⟩ := first
  have h := Task.run_bind environment task f moment
  revert hresult h
  rcases task.run.run environment moment with ⟨outcome, steps, later⟩
  rintro rfl h
  refine ⟨?_, ?_, ?_⟩
  · rw [h]
    rfl
  · rw [h]
  · rw [h]

/-- Logging after a task changes nothing. -/
theorem logged {task : Task ε Unit} {outcome : Except ε Unit} (event : LogEvent)
    (h : Yields environment task moment calls outcome after) :
    Yields environment (do task; Task.log event) moment calls outcome after := by
  cases outcome with
  | error e => exact bind_error h
  | ok u =>
    have hlog := bind_ok (f := fun _ => Task.log event) h (log event)
    rwa [List.append_nil] at hlog

/-- A change of errors changes the outcome and nothing else. -/
theorem adapt {outcome : Except ε α} (change : ε → ε')
    (h : Yields environment task moment calls outcome after) :
    Yields environment (ExceptT.adapt change task) moment calls (outcome.mapError change)
      after := by
  obtain ⟨rfl, rfl, rfl⟩ := h
  have hrun : (ExceptT.adapt change task).run.run environment moment =
      let run := task.run.run environment moment
      ⟨run.result.mapError change, run.steps, run.after⟩ := by
    rw [ExceptT.run_adapt, map_eq_pure_bind, Program.run_bind]
    simp
  refine ⟨?_, ?_, ?_⟩
  · rw [hrun]
    rfl
  · rw [hrun]
  · rw [hrun]

end Yields

end Task

/-! ## Calls on the accounts -/

/-- Whether a call is one on the store of accounts. -/
def Call.isOnAccounts : Call → Bool
  | .store (.getConfig _ _) | .store (.listConfigs _) | .directory _ => false
  | .store _ => true

/-- Whether a call writes to the store of accounts. -/
def Call.isWrite : Call → Bool
  | .store call => call.isWrite
  | .directory _ => false

/-- Whether a step was a write, carried out or not. -/
def Step.isWrite (step : Step) : Bool :=
  step.call?.any Call.isWrite

/-- A call that does not concern accounts writes nothing. -/
theorem Call.isWrite_of_not_isOnAccounts {call : Call} (h : call.isOnAccounts = false) :
    call.isWrite = false := by
  rcases call with call | call
  · cases call <;> first | rfl | contradiction
  · rfl

/-- A task that obeys a rule on single calls makes no other calls in any run. -/
theorem Task.Obeys.calls {permits : Call → Prop} {task : Task ε α}
    (h : Task.Obeys (.onCalls fun _ => permits) task []) (environment : Environment σ)
    (moment : Moment σ) : ∀ call ∈ (task.run.run environment moment).calls, permits call := by
  intro call hcall
  obtain ⟨step, hstep, heq⟩ := List.mem_filterMap.mp hcall
  obtain ⟨before, behind, hsplit⟩ := List.append_of_mem hstep
  have hobeys := (Program.Ensures.run h environment moment).1 before step behind hsplit
  rw [Step.call?_eq] at heq
  exact hobeys call heq

/-! ## Stores in memory -/

/-- What is outside of the stores decides whether a call fails. -/
theorem Surroundings.withMemory_store (surroundings : Surroundings δ) (call : StoreCall)
    (memory : Memory δ) :
    surroundings.withMemory.store call memory =
      match surroundings.failure call memory.outside with
      | (some e, outside) => (.error e, { memory with outside })
      | (none, outside) => { memory with outside }.answer call := by
  rcases failing : surroundings.failure call memory.outside with ⟨failure, outside⟩
  cases failure <;> simp only [withMemory, store, failing]

/-- A call on the stores in memory fails and changes nothing, or is answered by the stores. -/
theorem Surroundings.store_cases (surroundings : Surroundings δ) (call : StoreCall)
    (memory : Memory δ) :
    (∃ e outside, surroundings.withMemory.store call memory =
      (.error e, { memory with outside })) ∨
    ∃ outside, surroundings.withMemory.store call memory =
      { memory with outside }.answer call := by
  rw [withMemory_store]
  rcases surroundings.failure call memory.outside with ⟨failure, outside⟩
  cases failure with
  | some e => exact .inl ⟨e, outside, rfl⟩
  | none => exact .inr ⟨outside, rfl⟩

/-- No call changes the provider configurations. -/
theorem Surroundings.configs_store (surroundings : Surroundings δ) (call : StoreCall)
    (memory : Memory δ) :
    (surroundings.withMemory.store call memory).2.configs = memory.configs := by
  rcases surroundings.store_cases call memory with ⟨e, outside, h⟩ | ⟨outside, h⟩
  · rw [h]
  · rw [h, Memory.configs_answer]

/-- Calls on the accounts are answered alike whatever is configured. -/
theorem Surroundings.store_of_isOnAccounts (surroundings : Surroundings δ) {call : StoreCall}
    (onAccounts : (Call.store call).isOnAccounts = true) (memory : Memory δ)
    (configs : ConfigStore) :
    surroundings.withMemory.store call { memory with configs } =
      ((surroundings.withMemory.store call memory).1,
        { (surroundings.withMemory.store call memory).2 with configs }) := by
  rw [surroundings.withMemory_store, surroundings.withMemory_store]
  dsimp only
  rcases surroundings.failure call memory.outside with ⟨failure, outside⟩
  have written : ∀ outcome : Except Error UserStore,
      ({ memory with configs, outside } : Memory δ).afterWrite outcome =
        (({ memory with outside }.afterWrite outcome).1,
          { ({ memory with outside } : Memory δ).afterWrite outcome |>.2 with configs }) := by
    intro outcome
    cases outcome <;> rfl
  cases failure with
  | some e => rfl
  | none =>
    cases call with
    | getConfig tenant provider => contradiction
    | listConfigs tenant => contradiction
    | findIdentity tenant provider uid => rfl
    | findEmail tenant email => rfl
    | register user => exact written _
    | attach id provider uid => exact written _

/-- A reply leaves the accounts as they were, unless it is the reply to a write. -/
theorem Surroundings.users_reply (surroundings : Surroundings δ) (moment : Moment (Memory δ))
    (action : Action) (reading : ∀ call, action.call? = some call → call.isWrite = false) :
    (surroundings.withMemory.reply moment action).2.state.users = moment.state.users := by
  cases action with
  | store call =>
    rw [Environment.reply_store]
    rcases surroundings.store_cases call moment.state with ⟨e, outside, h⟩ | ⟨outside, h⟩
    · rw [h]
    · rw [h, Memory.answer_of_not_isWrite _ (reading (.store call) rfl)]
  | _ => rfl

/-- No program changes the provider configurations. -/
theorem Program.configs_run (surroundings : Surroundings δ) (program : Program α)
    (moment : Moment (Memory δ)) :
    (program.run surroundings.withMemory moment).after.state.configs = moment.state.configs := by
  induction program generalizing moment with
  | done result => rfl
  | act action next ih =>
    have kept : (surroundings.withMemory.reply moment action).2.state.configs =
        moment.state.configs := by
      cases action with
      | store call => exact surroundings.configs_store call moment.state
      | _ => rfl
    exact (ih _ _).trans kept

/-- A program that does not write leaves the accounts as they were. -/
theorem Program.users_run_of_reading (surroundings : Surroundings δ) (program : Program α)
    (moment : Moment (Memory δ))
    (reading : ∀ call ∈ (program.run surroundings.withMemory moment).calls,
      call.isWrite = false) :
    (program.run surroundings.withMemory moment).after.state.users = moment.state.users := by
  induction program generalizing moment with
  | done result => rfl
  | act action next ih =>
    have hsteps : ∀ step, step ∈ ((act action next).run surroundings.withMemory moment).steps →
        ∀ call, step.action.call? = some call → call.isWrite = false := by
      intro step hstep call hcall
      refine reading call (List.mem_filterMap.mpr ⟨step, hstep, ?_⟩)
      rw [Step.call?_eq, hcall]
    have hfirst := surroundings.users_reply moment action (hsteps _ List.mem_cons_self)
    have hrest := ih (surroundings.withMemory.reply moment action).1
      (surroundings.withMemory.reply moment action).2 ?_
    · exact hrest.trans hfirst
    · intro call hcall
      obtain ⟨step, hstep, heq⟩ := List.mem_filterMap.mp hcall
      rw [Step.call?_eq] at heq
      exact hsteps step (List.mem_cons_of_mem _ hstep) call heq

end DirectorySignIn
