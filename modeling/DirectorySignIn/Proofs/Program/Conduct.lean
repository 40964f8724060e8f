import DirectorySignIn.Program.Run

/-!
# The conduct of programs

What a program does whatever is replied to it.  A rule says which actions may follow which steps;
a goal says what has to hold of the result and of all steps in the end.  A program ensures both if
it does so on every path through its tree, and then it does so in every run, whatever the stores,
the directories and the clock are like.

Main results:

- `Program.ensures_bind`, `Task.ensures_bind`: the goal of what comes first is that the rest ensures
  the goal of the whole.
- `Program.Ensures.run`: every step of a run obeys the rule, and the run meets the goal.
- `Program.Ensures.invariant`: what single actions keep is kept by whole programs.
-/

namespace DirectorySignIn

/-- Which actions may be done after certain steps. -/
abbrev Rule : Type :=
  List Step → Action → Prop

namespace Program

variable {α β : Type} {rule : Rule}

/-- Whatever is replied, each action obeys the rule after the steps before it, and the result and
all steps meet the goal. -/
def Ensures (rule : Rule) (goal : α → List Step → Prop) : Program α → List Step → Prop
  | done result, earlier => goal result earlier
  | act action next, earlier =>
    rule earlier action ∧
      ∀ started reply, Ensures rule goal (next reply) (earlier ++ [⟨started, action, reply⟩])

/-- The goal of a program that comes first is that what follows ensures the goal of the whole. -/
@[simp]
theorem ensures_bind (program : Program α) (f : α → Program β) (goal : β → List Step → Prop)
    (earlier : List Step) :
    (program >>= f).Ensures rule goal earlier ↔
      program.Ensures rule (fun a => (f a).Ensures rule goal) earlier := by
  induction program generalizing earlier with
  | done result => rfl
  | act action next ih => simp only [act_bind, Ensures, ih]

/-- A goal may be replaced by a weaker one. -/
theorem Ensures.mono {goal weaker : α → List Step → Prop} {program : Program α}
    {earlier : List Step} (h : program.Ensures rule goal earlier)
    (implies : ∀ a steps, goal a steps → weaker a steps) :
    program.Ensures rule weaker earlier := by
  induction program generalizing earlier with
  | done result => exact implies result earlier h
  | act action next ih =>
      exact ⟨h.1, fun started reply => ih reply (h.2 started reply)⟩

/-- In a run of a program that follows after some steps, each step obeys the rule after those and
the ones before it, and the goal is met. -/
theorem Ensures.run {σ : Type} {goal : α → List Step → Prop} {program : Program α}
    {earlier : List Step} (h : program.Ensures rule goal earlier) (environment : Environment σ)
    (moment : Moment σ) :
    (∀ before step after, (program.run environment moment).steps = before ++ step :: after →
        rule (earlier ++ before) step.action) ∧
      goal (program.run environment moment).result
        (earlier ++ (program.run environment moment).steps) := by
  induction program generalizing earlier moment with
  | done result =>
      refine ⟨?_, ?_⟩
      · intro before step after split
        simp [Program.run] at split
      · simpa [Program.run, Ensures] using h
  | act action next ih =>
      obtain ⟨allowed, rest⟩ := h
      let reply := (environment.reply moment action).1
      let later := (environment.reply moment action).2
      obtain ⟨obeys, met⟩ := ih reply (rest moment.clock reply) later
      refine ⟨?_, ?_⟩
      · intro before step after split
        cases before with
        | nil =>
            have first : step = ⟨moment.clock, action, reply⟩ := by
              simp only [Program.run, List.nil_append, List.cons.injEq] at split
              exact split.1.symm
            simpa [first] using allowed
        | cons head before =>
            have first : head = ⟨moment.clock, action, reply⟩ := by
              simp only [Program.run, List.cons_append, List.cons.injEq] at split
              exact split.1.symm
            have remaining : ((next reply).run environment later).steps =
                before ++ step :: after := by
              simp only [Program.run, List.cons_append, List.cons.injEq] at split
              exact split.2
            simpa [first] using obeys before step after remaining
      · simpa [Program.run] using met

/-- What every action that obeys the rule keeps is kept by the program, and as long as it holds the
program obeys each rule that follows. -/
theorem Ensures.invariant {consequence : Rule} {invariant : List Step → Prop} {program : Program α}
    {earlier : List Step} (h : program.Ensures rule (fun _ _ => True) earlier)
    (holds : invariant earlier)
    (follows : ∀ steps action, invariant steps → rule steps action → consequence steps action)
    (kept : ∀ steps step, invariant steps → rule steps step.action →
      invariant (steps ++ [step])) :
    program.Ensures consequence (fun _ => invariant) earlier := by
  induction program generalizing earlier with
  | done result => exact holds
  | act action next ih =>
    refine ⟨follows _ _ holds h.1, fun started reply => ih reply (h.2 started reply) ?_⟩
    exact kept earlier ⟨started, action, reply⟩ holds h.1

end Program

/-! ## Tasks -/

namespace Task

variable {ε ε' α β : Type} {rule : Rule}

/-- What a goal for results and one for failures say about an outcome. -/
def outcome (goal : α → List Step → Prop) (failure : ε → List Step → Prop) :
    Except ε α → List Step → Prop
  | .ok a => goal a
  | .error e => failure e

/-- Whatever is replied, each action obeys the rule, and the task ends with a result that meets
one goal or with a failure that meets the other. -/
def Ensures (rule : Rule) (goal : α → List Step → Prop) (failure : ε → List Step → Prop)
    (task : Task ε α) (earlier : List Step) : Prop :=
  task.run.Ensures rule (outcome goal failure) earlier

/-- Whatever is replied, each action obeys the rule. -/
abbrev Obeys (rule : Rule) (task : Task ε α) (earlier : List Step) : Prop :=
  Ensures rule (fun _ _ => True) (fun _ _ => True) task earlier

variable {goal : α → List Step → Prop} {failure : ε → List Step → Prop} {earlier : List Step}

/-- Goals may be replaced by weaker ones. -/
theorem Ensures.mono {weaker : α → List Step → Prop} {weakerFailure : ε → List Step → Prop}
    {task : Task ε α} (h : Ensures rule goal failure task earlier)
    (implies : ∀ a steps, goal a steps → weaker a steps)
    (failing : ∀ e steps, failure e steps → weakerFailure e steps) :
    Ensures rule weaker weakerFailure task earlier := by
  refine Program.Ensures.mono h fun result steps met => ?_
  cases result with
  | ok a => exact implies a steps met
  | error e => exact failing e steps met

/-- Goals that do not look at the outcome are goals of the program. -/
theorem ensures_iff_run {kept : List Step → Prop} {task : Task ε α} :
    Ensures rule (fun _ => kept) (fun _ => kept) task earlier ↔
      task.run.Ensures rule (fun _ => kept) earlier := by
  have same : ∀ (result : Except ε α) steps,
      outcome (fun _ => kept) (fun _ => kept) result steps ↔ kept steps := by
    intro result steps
    cases result <;> rfl
  constructor
  · exact fun h => Program.Ensures.mono h fun result steps => (same result steps).mp
  · exact fun h => Program.Ensures.mono h fun result steps => (same result steps).mpr

/-- A task that succeeds at once has to meet the goal already. -/
@[simp]
theorem ensures_pure (a : α) :
    Ensures rule goal failure (pure a) earlier ↔ goal a earlier :=
  Iff.rfl

/-- A task that fails at once has to meet what is ensured of failures already. -/
@[simp]
theorem ensures_throw (e : ε) :
    Ensures rule goal failure (throw e) earlier ↔ failure e earlier :=
  Iff.rfl

/-- A task that has an outcome at once has to meet what is ensured of it already. -/
@[simp]
theorem ensures_ofExcept (result : Except ε α) :
    Ensures rule goal failure (ofExcept result) earlier ↔ outcome goal failure result earlier :=
  Iff.rfl

/-- What follows a task has to ensure the goal of the whole if the task succeeds. -/
@[simp]
theorem ensures_bind (task : Task ε α) (f : α → Task ε β) {goal : β → List Step → Prop} :
    Ensures rule goal failure (task >>= f) earlier ↔
      Ensures rule (fun a => Ensures rule goal failure (f a)) failure task earlier := by
  have same : ∀ (result : Except ε α) (steps : List Step),
      Program.Ensures rule (outcome goal failure)
          (match result with
            | .ok a => (f a).run
            | .error e => pure (.error e)) steps ↔
        outcome (fun a => Ensures rule goal failure (f a)) failure result steps := by
    intro result steps
    cases result <;> rfl
  unfold Ensures
  rw [ExceptT.run_bind, Program.ensures_bind]
  constructor
  · exact fun h => h.mono fun result steps => (same result steps).mp
  · exact fun h => h.mono fun result steps => (same result steps).mpr

/-- A program that cannot fail has only the goal to meet. -/
@[simp]
theorem ensures_lift (program : Program α) :
    Ensures rule goal failure (ExceptT.lift program) earlier ↔
      program.Ensures rule goal earlier := by
  unfold Ensures
  rw [ExceptT.run_lift, map_eq_pure_bind, Program.ensures_bind]
  exact Iff.rfl

/-- To go on with the outcome of a task is to go on after its success and after its failure. -/
theorem ensures_lift_run (task : Task ε' α) {goal : Except ε' α → List Step → Prop} :
    Ensures rule goal failure (ExceptT.lift task.run) earlier ↔
      Ensures rule (fun a => goal (.ok a)) (fun e => goal (.error e)) task earlier := by
  rw [ensures_lift, Ensures]
  have same : ∀ result steps,
      outcome (fun a => goal (.ok a)) (fun e => goal (.error e)) result steps ↔
        goal result steps := by
    intro result steps
    cases result <;> rfl
  constructor
  · exact fun h => h.mono fun result steps => (same result steps).mpr
  · exact fun h => h.mono fun result steps => (same result steps).mp

/-- What is ensured of changed errors is ensured of the errors before the change. -/
@[simp]
theorem ensures_adapt (task : Task ε α) (f : ε → ε') {failure : ε' → List Step → Prop} :
    Ensures rule goal failure (ExceptT.adapt f task) earlier ↔
      Ensures rule goal (fun e => failure (f e)) task earlier := by
  have same : ∀ (result : Except ε α) (steps : List Step),
      outcome goal failure (result.mapError f) steps ↔
        outcome goal (fun e => failure (f e)) result steps := by
    intro result steps
    cases result <;> rfl
  unfold Ensures
  rw [ExceptT.run_adapt, map_eq_pure_bind, Program.ensures_bind]
  constructor
  · exact fun h => h.mono fun result steps => (same result steps).mp
  · exact fun h => h.mono fun result steps => (same result steps).mpr

/-- To log an event has to be allowed, and the goal holds after it. -/
@[simp]
theorem ensures_log (event : LogEvent) {goal : Unit → List Step → Prop} :
    Ensures rule goal failure (log event) earlier ↔
      rule earlier (.log event) ∧
        ∀ started, goal () (earlier ++ [⟨started, .log event, ()⟩]) := by
  rw [log, ensures_lift]
  constructor
  · rintro ⟨allowed, met⟩
    exact ⟨allowed, fun started => met started ()⟩
  · rintro ⟨allowed, met⟩
    exact ⟨allowed, fun started _ => met started⟩

/-- A call on a store has to be allowed, and whatever is replied meets what is ensured of it. -/
@[simp]
theorem ensures_store (call : StoreCall) {goal : call.Answer → List Step → Prop}
    {failure : Error → List Step → Prop} :
    Ensures rule goal failure (store call) earlier ↔
      rule earlier (.store call) ∧
        ∀ started reply, outcome goal failure reply
          (earlier ++ [⟨started, .store call, reply⟩]) :=
  Iff.rfl

end Task

/-! ## Rules on calls -/

/-- The call that an action makes. -/
def Action.call? : Action → Option Call
  | .store call => some (.store call)
  | .directory call _ => some (.directory call)
  | _ => none

/-- The event that an action logs. -/
def Action.event? : Action → Option LogEvent
  | .log event => some event
  | _ => none

/-- A step makes the call of its action. -/
theorem Step.call?_eq (step : Step) : step.call? = step.action.call? := by
  rcases step with ⟨_, action, _⟩
  cases action <;> rfl

/-- The steps that called a store or a directory. -/
def callSteps (steps : List Step) : List Step :=
  steps.filter (·.call?.isSome)

@[simp]
theorem callSteps_nil : callSteps [] = [] :=
  rfl

/-- The calls of steps in a row are in a row. -/
@[simp]
theorem callSteps_append (first second : List Step) :
    callSteps (first ++ second) = callSteps first ++ callSteps second :=
  List.filter_append ..

@[simp]
theorem callSteps_store (started : Nat) (call : StoreCall)
    (reply : (Action.store call).Reply) (rest : List Step) :
    callSteps (⟨started, .store call, reply⟩ :: rest) =
      ⟨started, .store call, reply⟩ :: callSteps rest :=
  rfl

@[simp]
theorem callSteps_directory (started : Nat) (call : DirectoryCall) (limit : Nat)
    (reply : (Action.directory call limit).Reply) (rest : List Step) :
    callSteps (⟨started, .directory call limit, reply⟩ :: rest) =
      ⟨started, .directory call limit, reply⟩ :: callSteps rest :=
  rfl

@[simp]
theorem callSteps_readClock (started : Nat) (time : Action.readClock.Reply) (rest : List Step) :
    callSteps (⟨started, .readClock, time⟩ :: rest) = callSteps rest :=
  rfl

@[simp]
theorem callSteps_log (started : Nat) (event : LogEvent) (u : (Action.log event).Reply)
    (rest : List Step) : callSteps (⟨started, .log event, u⟩ :: rest) = callSteps rest :=
  rfl

namespace Rule

/-- The rule that looks at nothing but calls: whether a call may be made after the calls that were
made before it. -/
def onCalls (permits : List Step → Call → Prop) : Rule :=
  fun earlier action => ∀ call, action.call? = some call → permits (callSteps earlier) call

variable {permits : List Step → Call → Prop} {earlier : List Step}

/-- An action that makes a call is allowed if the call is. -/
theorem onCalls_iff {action : Action} (call : Call) (made : action.call? = some call) :
    onCalls permits earlier action ↔ permits (callSteps earlier) call := by
  simp [onCalls, made]

/-- An action that makes no call is allowed. -/
theorem onCalls_of_silent {action : Action} (silent : action.call? = none) :
    onCalls permits earlier action := by
  simp [onCalls, silent]

end Rule

/-! ## Obedience of tasks -/

namespace Task

variable {ε ε' α β : Type} {rule : Rule} {permits : List Step → Call → Prop} {earlier : List Step}

/-- Tasks in a row obey a rule if all their parts do. -/
theorem obeys_bind {task : Task ε α} {f : α → Task ε β} (first : Obeys rule task earlier)
    (rest : ∀ a history, Obeys rule (f a) history) : Obeys rule (task >>= f) earlier :=
  (ensures_bind _ _).mpr (first.mono (fun a history _ => rest a history) fun _ _ _ => trivial)

/-- An outcome that is there at once breaks no rule. -/
theorem obeys_ofExcept (result : Except ε α) : Obeys rule (ofExcept result) earlier := by
  cases result <;> trivial

/-- A change of errors breaks no rule. -/
theorem obeys_adapt {task : Task ε α} (h : Obeys rule task earlier) (change : ε → ε') :
    Obeys rule (ExceptT.adapt change task) earlier :=
  (ensures_adapt _ _).mpr h

/-- A call on a store obeys a rule that allows it. -/
theorem obeys_of_allowed {call : StoreCall} (allowed : rule earlier (.store call)) :
    Obeys rule (store call) earlier := by
  refine (ensures_store _).mpr ⟨allowed, fun started reply => ?_⟩
  cases reply <;> trivial

/-- A call on a store obeys a rule on calls that permits it. -/
theorem obeys_store {call : StoreCall} (allowed : permits (callSteps earlier) (.store call)) :
    Obeys (.onCalls permits) (store call) earlier :=
  obeys_of_allowed ((Rule.onCalls_iff _ rfl).mpr allowed)

/-- To log an event obeys every rule on calls. -/
theorem obeys_log (event : LogEvent) :
    Obeys (.onCalls permits) (log event : Task ε Unit) earlier :=
  (ensures_log _).mpr ⟨Rule.onCalls_of_silent rfl, fun _ => trivial⟩

end Task

end DirectorySignIn
