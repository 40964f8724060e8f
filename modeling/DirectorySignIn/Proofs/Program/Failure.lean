import DirectorySignIn.Proofs.Program.Conduct
import DirectorySignIn.Proofs.Program.Success

/-!
# Tasks that fail

When a task fails in an environment, and with which error.  Two tasks in a row fail if the first one
fails, or if the first one succeeds and the second one fails at the moment after it; so that a task
fails exactly at the first of its parts that does.

Main results:

- `fails_bind`: where two tasks in a row fail.
- `Budget.fails_call`: a call on a directory fails if the directory refuses it, or if it is cut off.
- `Budget.expiry_add_limit`: a call that is cut off has failed by the deadline exactly if no more
  time was left before the deadline than the time limit of a call.
- `Task.Explains.fails`: an error is one that the task makes itself, or that of a read that failed.
-/

namespace DirectorySignIn

variable {σ ε ε' α β : Type} {environment : Environment σ} {moment later : Moment σ}

/-! ## Refused calls -/

namespace Budget

/-- Whether the deadline bounds a call that is begun at a given time: no more time is left before it
than the time limit of a call. -/
def endsAtDeadline (budget : Budget) (started : Nat) : Bool :=
  match budget.deadline with
  | some deadline => deadline - started ≤ budget.timeout
  | none => false

/-- The error of a call that was begun at a given time and was cut off. -/
def cutOff (budget : Budget) (operation : String) (started : Nat) : DirectoryError :=
  if budget.endsAtDeadline started then .deadline else .timeout operation

/-- When the limit of a call is over, the deadline has come if it was what bounded the call. -/
theorem isOver_add_limit (budget : Budget) (started : Nat) :
    budget.isOver (started + budget.limit started) = budget.endsAtDeadline started := by
  unfold isOver endsAtDeadline limit
  cases budget.deadline with
  | none => rfl
  | some deadline =>
    simp only [decide_eq_decide]
    omega

/-- Why a call was cut off can be told from the time at which it was begun. -/
theorem expiry_add_limit (budget : Budget) (operation : String) (started : Nat) :
    budget.expiry operation (started + budget.limit started) =
      budget.cutOff operation started := by
  rw [expiry, isOver_add_limit, cutOff]

/-- If as much time is left as a call may take, both limits are met at once, and it counts as the
deadline. -/
example : (⟨10, some 20⟩ : Budget).cutOff "search" 10 = .deadline ∧
    (⟨10, some 20⟩ : Budget).cutOff "search" 9 = .timeout "search" := by
  decide

/-- A call that is answered in time ends with the answer. -/
theorem run_call_of_le (budget : Budget) (operation : String) (call : DirectoryCall)
    (in_time : (environment.directory call moment.state).1.latency ≤ budget.limit moment.clock) :
    (budget.call operation call).run.run environment moment =
      ⟨(environment.directory call moment.state).1.outcome,
        [⟨moment.clock, .readClock, moment.clock⟩,
          ⟨moment.clock, .directory call (budget.limit moment.clock),
            some (environment.directory call moment.state).1.outcome⟩],
        ⟨moment.clock + (environment.directory call moment.state).1.latency,
          (environment.directory call moment.state).2⟩⟩ := by
  rw [run_call]
  simp only [Environment.reply, Response.await, if_pos in_time, Nat.min_eq_left in_time]

/-- A call that is not answered in time is cut off at its limit. -/
theorem run_call_of_lt (budget : Budget) (operation : String) (call : DirectoryCall)
    (late : budget.limit moment.clock < (environment.directory call moment.state).1.latency) :
    (budget.call operation call).run.run environment moment =
      ⟨.error (budget.cutOff operation moment.clock),
        [⟨moment.clock, .readClock, moment.clock⟩,
          ⟨moment.clock, .directory call (budget.limit moment.clock), none⟩,
          ⟨moment.clock + budget.limit moment.clock, .readClock,
            moment.clock + budget.limit moment.clock⟩],
        ⟨moment.clock + budget.limit moment.clock,
          (environment.directory call moment.state).2⟩⟩ := by
  rw [run_call]
  simp only [Environment.reply, Response.await, if_neg (Nat.not_le.mpr late),
    Nat.min_eq_right (Nat.le_of_lt late), expiry_add_limit, List.cons_append, List.nil_append]

/-- A directory does not grant a call that is begun at a moment: it answers too late, or with an
error. -/
inductive Refuses (budget : Budget) (environment : Environment σ) (operation : String)
    (call : DirectoryCall) (moment : Moment σ) : DirectoryError → Prop
  | late (h : budget.limit moment.clock < (environment.directory call moment.state).1.latency) :
      Refuses budget environment operation call moment (budget.cutOff operation moment.clock)
  | failed {error : DirectoryError}
      (in_time : (environment.directory call moment.state).1.latency ≤ budget.limit moment.clock)
      (h : (environment.directory call moment.state).1.outcome = .error error) :
      Refuses budget environment operation call moment error

end Budget

/-! ## Failing -/

namespace Task

/-- A task that is begun at a moment fails with an error. -/
def Fails (environment : Environment σ) (task : Task ε α) (moment : Moment σ) (e : ε) : Prop :=
  (task.run.run environment moment).result = .error e

/-- A task that succeeds at once does not fail. -/
@[simp]
theorem not_fails_pure (a : α) (e : ε) : ¬ Fails environment (pure a : Task ε α) moment e := by
  intro h
  cases h

/-- A task that fails at once fails with its error. -/
@[simp]
theorem fails_throw (e' e : ε) :
    Fails environment (throw e' : Task ε α) moment e ↔ e' = e := by
  simp [Fails]

/-- A task that has an outcome at once fails if the outcome is an error. -/
@[simp]
theorem fails_ofExcept (outcome : Except ε α) (e : ε) :
    Fails environment (ofExcept outcome) moment e ↔ outcome = .error e := by
  simp [Fails, ofExcept]

/-- Two tasks in a row fail where the first one does, or else where the second one does. -/
@[simp]
theorem fails_bind (task : Task ε α) (f : α → Task ε β) (e : ε) :
    Fails environment (task >>= f) moment e ↔
      Fails environment task moment e ∨
        ∃ a middle, Succeeds environment task moment a middle ∧
          Fails environment (f a) middle e := by
  simp only [Fails, Succeeds, Task.run_bind]
  rcases task.run.run environment moment with ⟨result, steps, after⟩
  cases result with
  | error e' => simp
  | ok a =>
    constructor
    · intro second
      exact .inr ⟨a, after, ⟨rfl, rfl⟩, second⟩
    · rintro (first | ⟨_, _, ⟨⟨⟩, rfl⟩, second⟩)
      · contradiction
      · exact second

/-- A program that cannot fail does not fail. -/
@[simp]
theorem not_fails_lift (program : Program α) (e : ε) :
    ¬ Fails environment (ExceptT.lift program : Task ε α) moment e := by
  simp only [Fails, ExceptT.run_lift, map_eq_pure_bind, Program.run_bind, Program.run_pure,
    reduceCtorEq, not_false_eq_true]

/-- A program that goes on with the outcome of a task goes on with the error of a failure. -/
theorem fails_iff_succeeds_lift (task : Task ε' α) (e : ε') :
    Fails environment task moment e ↔
      ∃ later, Succeeds environment (ExceptT.lift task.run : Task ε (Except ε' α)) moment
        (.error e) later := by
  simp only [succeeds_lift, exists_eq_right']
  rfl

/-- To log an event does not fail. -/
@[simp]
theorem not_fails_log (event : LogEvent) (e : ε) :
    ¬ Fails environment (log event : Task ε Unit) moment e :=
  not_fails_lift _ e

/-- A change of errors changes the error of a failure. -/
@[simp]
theorem fails_adapt (task : Task ε α) (change : ε → ε') (e : ε') :
    Fails environment (ExceptT.adapt change task) moment e ↔
      ∃ cause, Fails environment task moment cause ∧ change cause = e := by
  simp only [Fails, ExceptT.run_adapt, map_eq_pure_bind, Program.run_bind, Program.run_pure]
  cases (task.run.run environment moment).result with
  | ok a =>
    constructor
    · intro impossible
      cases impossible
    · rintro ⟨_, impossible, -⟩
      cases impossible
  | error cause =>
    constructor
    · intro failed
      exact ⟨cause, rfl, Except.error.inj failed⟩
    · rintro ⟨_, failed, changed⟩
      rw [← changed, ← Except.error.inj failed]
      rfl

/-- A call on a store fails if the store replies with an error. -/
theorem fails_store (call : StoreCall) (e : Error) :
    Fails environment (store call) moment e ↔
      (environment.store call moment.state).1 = .error e :=
  Iff.rfl

end Task

/-- A call within a budget fails if the directory does not grant it. -/
theorem Budget.fails_call (budget : Budget) (operation : String) (call : DirectoryCall)
    (error : DirectoryError) :
    Task.Fails environment (budget.call operation call) moment error ↔
      budget.Refuses environment operation call moment error := by
  unfold Task.Fails
  by_cases in_time :
      (environment.directory call moment.state).1.latency ≤ budget.limit moment.clock
  · rw [run_call_of_le _ _ _ in_time]
    constructor
    · exact fun failed => .failed in_time failed
    · intro refuses
      cases refuses with
      | late h => exact absurd in_time (Nat.not_le.mpr h)
      | failed _ h => exact h
  · have late := Nat.not_le.mp in_time
    rw [run_call_of_lt _ _ _ late]
    constructor
    · rintro ⟨⟩
      exact .late late
    · intro refuses
      cases refuses with
      | late _ => rfl
      | failed h _ => exact absurd h in_time

/-! ## The errors of reads -/

/-- The error of a read of a store that failed. -/
def Step.failedRead? : Step → Option Error
  | ⟨_, .store call, .error e⟩ => if call.isWrite then none else some e
  | _ => none

/-- Reads of the stores fail with nothing but the error that is meant for it. -/
def Environment.ReadsFailAsStore (environment : Environment σ) : Prop :=
  ∀ call state e, call.isWrite = false → (environment.store call state).1 = .error e →
    ∃ detail, e = .store detail

/-- Every step of a run was answered by the environment at some moment. -/
theorem Program.exists_reply_of_mem_steps {program : Program α} {step : Step}
    (h : step ∈ (program.run environment moment).steps) :
    ∃ during, step.reply = (environment.reply during step.action).1 := by
  induction program generalizing moment with
  | done result => cases h
  | act action next ih =>
    cases h with
    | head => exact ⟨moment, rfl⟩
    | tail _ later => exact ih _ later

/-- If a read in a run failed, then as reads do. -/
theorem Environment.ReadsFailAsStore.of_failedRead (reads : environment.ReadsFailAsStore)
    {program : Program α} {step : Step} {e : Error}
    (made : step ∈ (program.run environment moment).steps) (failed : step.failedRead? = some e) :
    ∃ detail, e = .store detail := by
  obtain ⟨during, reply_eq⟩ := Program.exists_reply_of_mem_steps made
  obtain ⟨started, action, reply⟩ := step
  cases action with
  | store call =>
    cases reply with
    | ok answer => cases failed
    | error e' =>
      simp only [Step.failedRead?] at failed
      by_cases write : call.isWrite = true
      · rw [if_pos write] at failed
        cases failed
      · rw [if_neg write] at failed
        cases failed
        exact reads call during.state e (Bool.eq_false_iff.mpr write) reply_eq.symm
  | directory _ _ | readClock | drawUserId | log _ => cases failed

/-- A program does what it does. -/
theorem Program.ensures_nothing (program : Program α) (earlier : List Step) :
    program.Ensures (fun _ _ => True) (fun _ _ => True) earlier := by
  induction program generalizing earlier with
  | done result => trivial
  | act action next ih => exact ⟨trivial, fun _ reply => ih reply _⟩

namespace Task

/-- Whatever is replied, a task fails with an error of its own or with that of a read that
failed. -/
def Explains (own : Error → Prop) (task : Task Error α) : Prop :=
  ∀ earlier, Ensures (fun _ _ => True) (fun _ _ => True)
    (fun e history => own e ∨ ∃ step ∈ history, step.failedRead? = some e) task earlier

variable {own wider : Error → Prop} {task : Task Error α} {f : α → Task Error β}

theorem explains_pure (a : α) : Explains own (pure a : Task Error α) :=
  fun _ => trivial

theorem explains_throw {e : Error} (h : own e) : Explains own (throw e : Task Error α) :=
  fun _ => .inl h

/-- A program that cannot fail has no errors to explain. -/
theorem explains_lift (program : Program α) :
    Explains own (ExceptT.lift program : Task Error α) :=
  fun earlier => (ensures_lift _).mpr (program.ensures_nothing earlier)

theorem explains_log (event : LogEvent) : Explains own (log event : Task Error Unit) :=
  explains_lift _

/-- The error of a read that failed needs no other explanation. -/
theorem explains_store {call : StoreCall} (read : call.isWrite = false) :
    Explains own (store call) := by
  refine fun earlier => (ensures_store _).mpr ⟨trivial, fun started reply => ?_⟩
  cases reply with
  | ok answer => trivial
  | error e =>
    refine .inr ⟨_, List.mem_append_right _ List.mem_cons_self, ?_⟩
    simp [Step.failedRead?, read]

/-- The errors of tasks in a row are those of their parts. -/
theorem Explains.bind (first : Explains own task) (rest : ∀ a, Explains own (f a)) :
    Explains own (task >>= f) :=
  fun earlier => (ensures_bind _ _).mpr ((first earlier).mono (fun a history _ => rest a history)
    fun _ _ h => h)

/-- Errors that are explained as some are explained as more. -/
theorem Explains.mono (h : Explains own task) (implies : ∀ e, own e → wider e) :
    Explains wider task :=
  fun earlier => (h earlier).mono (fun _ _ h => h) fun e _ => Or.imp_left (implies e)

/-- A change of errors that keeps those of reads is one of the errors of the task. -/
theorem Explains.adapt (h : Explains own task) {change : Error → Error}
    (changed : ∀ e, own e → wider (change e)) (kept : ∀ e, change e = e ∨ wider (change e)) :
    Explains wider (ExceptT.adapt change task) := by
  refine fun earlier => (ensures_adapt _ _).mpr ((h earlier).mono (fun _ _ h => h) ?_)
  rintro e history (made | ⟨step, stepped, failed⟩)
  · exact .inl (changed e made)
  · rcases kept e with same | new
    · exact .inr ⟨step, stepped, failed.trans (congrArg some same.symm)⟩
    · exact .inl new

/-- An error of a run is one of the task itself, or that of a read that failed in the run. -/
theorem Explains.fails (h : Explains own task) {e : Error}
    (failed : Fails environment task moment e) :
    own e ∨ ∃ step ∈ (task.run.run environment moment).steps, step.failedRead? = some e := by
  have ended := (Program.Ensures.run (h []) environment moment).2
  rw [failed] at ended
  exact ended

end Task

end DirectorySignIn
