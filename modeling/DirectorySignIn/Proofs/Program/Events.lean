import DirectorySignIn.Proofs.Program.Failure

/-!
# What tasks tell

A run is looked at for two kinds of events: the reports of steps on a directory that failed, and
the notes that a session could not be closed.  Most of what a task does belongs to neither kind; the
reports of tasks in a row stand one behind the other, as far as the tasks are run.

Main results:

- `Task.Plain.of_mem_eventsOf`: what plain tasks tell is of neither kind.
- `Task.reports_bind_of_succeeds`, `Task.reports_bind_of_fails`: the reports of two tasks in a row.
- `Task.TellsOfUnbinds.bind`: if both of two tasks tell of every session that they cannot close,
  they do so in a row.
-/

namespace DirectorySignIn

variable {σ ε ε' α β : Type}

/-! ## Two kinds of events -/

namespace LogEvent

/-- Whether an event is the report of a step on a directory that failed. -/
def isReport : LogEvent → Bool
  | failure _ _ _ => true
  | _ => false

/-- Whether an event says that a session could not be closed. -/
def isUnbindFailure : LogEvent → Bool
  | unbindFailed _ _ => true
  | _ => false

end LogEvent

/-- Whether a step asked for a session to be closed, and the directory did not do so in time. -/
def Step.failsToClose : Step → Bool
  | ⟨_, .directory .unbind _, some (.ok ())⟩ => false
  | ⟨_, .directory .unbind _, _⟩ => true
  | _ => false

/-- The events that some steps logged. -/
def eventsOf (steps : List Step) : List LogEvent :=
  steps.filterMap Step.event?

/-- The events of steps in a row are in a row. -/
@[simp]
theorem eventsOf_append (first second : List Step) :
    eventsOf (first ++ second) = eventsOf first ++ eventsOf second :=
  List.filterMap_append ..

namespace Run

/-- The reports of a run in their order. -/
def reports (run : Run σ α) : List LogEvent :=
  (eventsOf run.steps).filter LogEvent.isReport

/-- The events of a run that do not concern the closing of sessions. -/
def eventsButClosing (run : Run σ α) : List LogEvent :=
  (eventsOf run.steps).filter (!·.isUnbindFailure)

end Run

/-! ## Plain tasks -/

/-- Whether an action neither closes a session nor is of one of the two kinds. -/
def Action.isPlain : Action → Bool
  | .log event => !event.isReport && !event.isUnbindFailure
  | .directory .unbind _ => false
  | _ => true

/-- The rule by which nothing but plain actions is done. -/
def Rule.plain : Rule :=
  fun _ action => action.isPlain = true

/-- A task does nothing but plain actions. -/
def Task.Plain (task : Task ε α) : Prop :=
  ∀ earlier, Task.Obeys .plain task earlier

namespace Task

variable {task : Task ε α} {f : α → Task ε β}

theorem plain_pure (a : α) : Plain (pure a : Task ε α) :=
  fun _ => trivial

theorem plain_throw (e : ε) : Plain (throw e : Task ε α) :=
  fun _ => trivial

theorem plain_ofExcept (outcome : Except ε α) : Plain (ofExcept outcome) :=
  fun _ => obeys_ofExcept outcome

/-- To log an event is plain if the event is. -/
theorem plain_log {event : LogEvent} (h : (Action.log event).isPlain = true) :
    Plain (log event : Task ε Unit) :=
  fun _ => (ensures_log _).mpr ⟨h, fun _ => trivial⟩

/-- A call on a store is plain. -/
theorem plain_store (call : StoreCall) : Plain (store call) :=
  fun _ => obeys_of_allowed rfl

/-- To draw an id is plain. -/
theorem plain_newUserId : Plain (ExceptT.lift Program.newUserId : Task ε UserId) :=
  fun _ => (ensures_lift _).mpr ⟨rfl, fun _ _ => trivial⟩

/-- Tasks in a row are plain if all their parts are. -/
theorem Plain.bind (first : Plain task) (rest : ∀ a, Plain (f a)) : Plain (task >>= f) :=
  fun earlier => obeys_bind (first earlier) fun a history => rest a history

theorem Plain.adapt (h : Plain task) (change : ε → ε') : Plain (ExceptT.adapt change task) :=
  fun earlier => obeys_adapt (h earlier) change

/-- To go on with the outcome of a plain task is plain. -/
theorem Plain.lift (h : Plain task) : Plain (ExceptT.lift task.run : Task ε' (Except ε α)) :=
  fun earlier => (ensures_lift_run _).mpr (h earlier)

/-- All steps of a plain task are plain. -/
theorem Plain.isPlain_of_mem (h : Plain task) {environment : Environment σ} {moment : Moment σ}
    {step : Step} (made : step ∈ (task.run.run environment moment).steps) :
    step.action.isPlain = true := by
  obtain ⟨before, behind, split⟩ := List.append_of_mem made
  exact (Program.Ensures.run (h []) environment moment).1 before step behind split

/-- What a plain task tells is of neither kind. -/
theorem Plain.of_mem_eventsOf (h : Plain task) {environment : Environment σ} {moment : Moment σ}
    {event : LogEvent} (told : event ∈ eventsOf (task.run.run environment moment).steps) :
    event.isReport = false ∧ event.isUnbindFailure = false := by
  obtain ⟨step, made, logged⟩ := List.mem_filterMap.mp told
  have plain := h.isPlain_of_mem made
  obtain ⟨started, action, reply⟩ := step
  cases action with
  | log other =>
    obtain rfl : other = event := Option.some.inj logged
    simpa [Action.isPlain] using plain
  | store _ | directory _ _ | readClock | drawUserId => cases logged

end Task

/-- A call on a directory is plain unless it closes the session. -/
theorem Budget.plain_call (budget : Budget) (operation : String) {call : DirectoryCall}
    (plain : ∀ limit, (Action.directory call limit).isPlain = true) :
    Task.Plain (budget.call operation call) := by
  refine fun earlier => ⟨rfl, fun _ started => ⟨plain _, fun _ reply => ?_⟩⟩
  match reply with
  | some (.ok _) => trivial
  | some (.error _) => trivial
  | none => exact ⟨rfl, fun _ _ => trivial⟩

namespace Task

/-- A program that cannot fail does as a task what it does. -/
theorem steps_lift (environment : Environment σ) (program : Program α) (moment : Moment σ) :
    ((ExceptT.lift program : Task ε α).run.run environment moment).steps =
      (program.run environment moment).steps := by
  rw [ExceptT.run_lift, map_eq_pure_bind, Program.run_bind]
  simp

/-- A task does the same whatever its errors are changed to. -/
theorem steps_adapt (environment : Environment σ) (task : Task ε α) (change : ε → ε')
    (moment : Moment σ) :
    ((ExceptT.adapt change task).run.run environment moment).steps =
      (task.run.run environment moment).steps := by
  rw [ExceptT.run_adapt, map_eq_pure_bind, Program.run_bind]
  simp

end Task

/-! ## Reports -/

namespace Task

variable {environment : Environment σ} {moment middle : Moment σ} {task : Task ε α}
  {f : α → Task ε β}

/-- The reports of a task that is begun at a moment. -/
def reports (environment : Environment σ) (task : Task ε α) (moment : Moment σ) :
    List LogEvent :=
  (task.run.run environment moment).reports

/-- A program reports as a task what it reports by itself. -/
theorem reports_lift (program : Program α) :
    reports environment (ExceptT.lift program : Task ε α) moment =
      (program.run environment moment).reports := by
  rw [reports, Run.reports, steps_lift, Run.reports]

/-- A change of errors does not change what is reported. -/
theorem reports_adapt (task : Task ε α) (change : ε → ε') :
    reports environment (ExceptT.adapt change task) moment = reports environment task moment := by
  rw [reports, Run.reports, steps_adapt, reports, Run.reports]

/-- After a success the reports of the second task are added. -/
theorem reports_bind_of_succeeds {a : α} (first : Succeeds environment task moment a middle) :
    reports environment (task >>= f) moment =
      reports environment task moment ++ reports environment (f a) middle := by
  obtain ⟨result_eq, rfl⟩ := first
  have run := Task.run_bind environment task f moment
  revert result_eq run
  unfold reports Run.reports
  rcases task.run.run environment moment with ⟨result, steps, after⟩
  rintro rfl run
  rw [run, eventsOf_append, List.filter_append]

/-- After a failure there is nothing to add. -/
theorem reports_bind_of_fails {e : ε} (first : Fails environment task moment e) :
    reports environment (task >>= f) moment = reports environment task moment := by
  have run := Task.run_bind environment task f moment
  unfold Fails at first
  revert first run
  unfold reports Run.reports
  rcases task.run.run environment moment with ⟨result, steps, after⟩
  rintro rfl run
  rw [run]

/-- A plain task reports nothing. -/
theorem Plain.reports (h : Plain task) : reports environment task moment = [] :=
  List.filter_eq_nil_iff.mpr fun _ told => by simp [(h.of_mem_eventsOf told).1]

/-- What follows a plain task that succeeds makes all the reports. -/
theorem Plain.reports_bind (h : Plain task) {a : α}
    (first : Succeeds environment task moment a middle) :
    Task.reports environment (task >>= f) moment = Task.reports environment (f a) middle := by
  rw [reports_bind_of_succeeds first, h.reports, List.nil_append]

/-- A task that is begun either succeeds or fails. -/
theorem succeeds_or_fails (environment : Environment σ) (task : Task ε α) (moment : Moment σ) :
    (∃ a later, Succeeds environment task moment a later) ∨
      ∃ e, Fails environment task moment e := by
  cases result : (task.run.run environment moment).result with
  | ok a => exact .inl ⟨a, _, result, rfl⟩
  | error e => exact .inr ⟨e, result⟩

end Task

/-! ## Notes of sessions that could not be closed -/

/-- In some steps one note was taken of each session that could not be closed, and no others. -/
def UnbindsTold (steps : List Step) : Prop :=
  (eventsOf steps).countP LogEvent.isUnbindFailure = steps.countP Step.failsToClose

/-- If all unbinds that failed are told of in two rows of steps, so they are in both together. -/
theorem UnbindsTold.append {first second : List Step} (h : UnbindsTold first)
    (h' : UnbindsTold second) : UnbindsTold (first ++ second) := by
  unfold UnbindsTold at *
  rw [eventsOf_append, List.countP_append, List.countP_append, h, h']

/-- A task takes a note of each session that it cannot close, in whichever environment. -/
def Task.TellsOfUnbinds (task : Task ε α) : Prop :=
  ∀ (σ : Type) (environment : Environment σ) (moment : Moment σ),
    UnbindsTold (task.run.run environment moment).steps

namespace Task

variable {task : Task ε α} {f : α → Task ε β}

/-- A plain task unbinds nothing and has nothing to tell of it. -/
theorem Plain.tellsOfUnbinds (h : Plain task) : TellsOfUnbinds task := by
  intro σ environment moment
  have none_told : (eventsOf (task.run.run environment moment).steps).countP
      LogEvent.isUnbindFailure = 0 :=
    List.countP_eq_zero.mpr fun _ told => by simp [(h.of_mem_eventsOf told).2]
  have none_failed : (task.run.run environment moment).steps.countP Step.failsToClose = 0 := by
    refine List.countP_eq_zero.mpr fun step made fails => ?_
    have plain := h.isPlain_of_mem made
    obtain ⟨started, action, reply⟩ := step
    cases action with
    | directory call limit =>
      cases call with
      | unbind => cases plain
      | connect _ | bind _ _ | search _ _ _ _ => cases fails
    | store _ | readClock | drawUserId | log _ => cases fails
  exact none_told.trans none_failed.symm

/-- To log any other event is to tell nothing of unbinds. -/
theorem tellsOfUnbinds_log {event : LogEvent} (other : event.isUnbindFailure = false) :
    TellsOfUnbinds (log event : Task ε Unit) := by
  intro σ environment moment
  change [event].countP LogEvent.isUnbindFailure = 0
  simp [other]

/-- Tasks in a row tell of unbinds if all their parts do. -/
theorem TellsOfUnbinds.bind (first : TellsOfUnbinds task) (rest : ∀ a, TellsOfUnbinds (f a)) :
    TellsOfUnbinds (task >>= f) := by
  intro σ environment moment
  have told := first σ environment moment
  rw [Task.run_bind]
  revert told
  rcases task.run.run environment moment with ⟨result, steps, after⟩
  cases result with
  | error e => exact fun told => told
  | ok a => exact fun told => told.append (rest a σ environment after)

/-- A change of errors does not change what is told of unbinds. -/
theorem TellsOfUnbinds.adapt (h : TellsOfUnbinds task) (change : ε → ε') :
    TellsOfUnbinds (ExceptT.adapt change task) := by
  intro σ environment moment
  rw [steps_adapt]
  exact h σ environment moment

end Task

end DirectorySignIn
