import DirectorySignIn.Proofs.Program.Conduct
import DirectorySignIn.Proofs.Program.Failure

/-!
# How long programs take

Only calls on a directory take time, and each of them has a limit that depends on the time at which
it was begun.  So the time of a run is bounded by the number of its calls and by the deadline, and
the bounds of programs that are run one after the other add up.  What becomes of a call that was cut
off is followed along with that: from the call itself to the result of the run.

Main results:

- `Budget.Covers.trans`: the bounds of two spans of time, one after the other, add up.
- `Program.Timely.bind`: two programs in a row take the time of both, and what a cut-off call comes
  to in the first is carried on by the second.
- `Budget.timely_call`: a call within a budget takes the time of one call, and fails if it is cut
  off.
-/

namespace DirectorySignIn

variable {σ ε ε' α β : Type} {environment : Environment σ}

/-! ## Spans of time -/

namespace Budget

/-- A span of time is no longer than the time limits of so many calls together, and it does not go
beyond the deadline unless it was begun there. -/
structure Covers (budget : Budget) (count begun ended : Nat) : Prop where
  limits : ended ≤ begun + count * budget.timeout
  deadline : ∀ deadline, budget.deadline = some deadline → ended ≤ max begun deadline

variable {budget : Budget} {count more begun middle ended : Nat}

/-- No time is covered by no calls. -/
theorem covers_self (budget : Budget) (time : Nat) : budget.Covers 0 time time where
  limits := Nat.le_add_right _ _
  deadline _ _ := Nat.le_max_left _ _

/-- What some calls cover is covered by more. -/
theorem Covers.mono (h : budget.Covers count begun ended) (enough : count ≤ more) :
    budget.Covers more begun ended where
  limits := by
    have product := Nat.mul_le_mul_right budget.timeout enough
    exact Nat.le_trans h.limits (Nat.add_le_add_left product begun)
  deadline := h.deadline

/-- Calls in a row cover the time of both. -/
theorem Covers.trans (first : budget.Covers count begun middle)
    (second : budget.Covers more middle ended) : budget.Covers (count + more) begun ended where
  limits := by
    have begun_first := first.limits
    have then_second := second.limits
    rw [Nat.add_mul]
    omega
  deadline deadline h := by
    have begun_first := first.deadline deadline h
    have then_second := second.deadline deadline h
    omega

/-- Waiting for an answer takes no longer than one call may. -/
theorem covers_wait (budget : Budget) (started latency : Nat) :
    budget.Covers 1 started (started + min latency (budget.limit started)) where
  limits := by
    have limit := budget.limit_le_timeout started
    omega
  deadline deadline h := by
    have limit : budget.limit started ≤ deadline - started := by
      simp only [Budget.limit, h]
      exact Nat.min_le_right _ _
    omega

end Budget

/-! ## Programs -/

/-- The steps behind a step of two runs in a row. -/
theorem Step.behind_of_append {first second before after : List Step} {step : Step}
    (h : first ++ second = before ++ step :: after) :
    (∃ rest, first = before ++ step :: rest ∧ after = rest ++ second) ∨
      ∃ front, second = front ++ step :: after := by
  rcases List.append_eq_append_iff.mp h with ⟨front, -, second_eq⟩ | ⟨behind, first_eq, h⟩
  · exact .inr ⟨front, second_eq⟩
  · rcases List.cons_eq_append_iff.mp h with ⟨-, second_eq⟩ | ⟨rest, rfl, after_eq⟩
    · exact .inr ⟨[], second_eq⟩
    · exact .inl ⟨rest, first_eq, after_eq⟩

namespace Program

/-- In a program, a call that was cut off comes to something: it depends on the time at which the
call was begun, the call, what the operator was told afterwards, and the result. -/
abbrev Consequence (α : Type) : Type :=
  Nat → DirectoryCall → List LogEvent → α → Prop

/-- Begun at any moment, a program takes no longer than so many calls may, and each call that was
cut off has a consequence. -/
structure Timely (environment : Environment σ) (budget : Budget) (count : Nat)
    (consequence : Consequence α) (program : Program α) : Prop where
  in_time : ∀ moment,
    budget.Covers count moment.clock (program.run environment moment).after.clock
  cut_off : ∀ moment before started call limit after,
    (program.run environment moment).steps =
      before ++ ⟨started, .directory call limit, none⟩ :: after →
    consequence started call (after.filterMap Step.event?)
      (program.run environment moment).result

variable {budget : Budget} {count more : Nat} {consequence : Consequence α}
  {later : Consequence β} {program : Program α} {f : α → Program β}

namespace Timely

/-- A program that is timely with some calls is so with more. -/
theorem mono (h : program.Timely environment budget count consequence) (enough : count ≤ more) :
    program.Timely environment budget more consequence where
  in_time moment := (h.in_time moment).mono enough
  cut_off := h.cut_off

/-- A consequence may be replaced by a weaker one. -/
theorem weaken {weaker : Consequence α}
    (h : program.Timely environment budget count consequence)
    (implies : ∀ started call events a,
      consequence started call events a → weaker started call events a) :
    program.Timely environment budget count weaker where
  in_time := h.in_time
  cut_off moment before started call limit after split :=
    implies _ _ _ _ (h.cut_off moment before started call limit after split)

/-- Two programs in a row take the time of both.  What a cut-off call comes to in the first one is
carried on by the second one. -/
theorem bind (first : program.Timely environment budget count consequence)
    (second : ∀ moment, (f (program.run environment moment).result).Timely environment budget more
      later)
    (carried : ∀ moment started call events a, consequence started call events a →
      later started call (events ++ ((f a).run environment moment).events)
        ((f a).run environment moment).result) :
    (program >>= f).Timely environment budget (count + more) later where
  in_time moment := by
    rw [run_bind]
    exact (first.in_time moment).trans ((second moment).in_time _)
  cut_off moment before started call limit after split := by
    rw [run_bind] at split ⊢
    rcases Step.behind_of_append split with ⟨rest, inFirst, rfl⟩ | ⟨front, inSecond⟩
    · rw [List.filterMap_append]
      exact carried _ _ _ _ _ (first.cut_off moment before started call limit rest inFirst)
    · exact (second moment).cut_off _ front started call limit after inSecond

end Timely

/-- Two programs in a row log their events in a row. -/
theorem events_run_bind (program : Program α) (f : α → Program β) (moment : Moment σ) :
    ((program >>= f).run environment moment).events =
      (program.run environment moment).events ++
        ((f (program.run environment moment).result).run environment
          (program.run environment moment).after).events := by
  rw [run_bind]
  exact List.filterMap_append ..

/-- The clock stands still while nothing is asked of a directory. -/
theorem clock_run_of_away {program : Program α} (moment : Moment σ)
    (away : ∀ call, Call.directory call ∉ (program.run environment moment).calls) :
    (program.run environment moment).after.clock = moment.clock := by
  induction program generalizing moment with
  | done result => rfl
  | act action next ih =>
    have still : (environment.reply moment action).2.clock = moment.clock := by
      cases action with
      | directory call limit => exact absurd List.mem_cons_self (away call)
      | _ => rfl
    have rest := ih (environment.reply moment action).1 (environment.reply moment action).2
    rw [still] at rest
    apply rest
    intro call made
    obtain ⟨step, stepped, called⟩ := List.mem_filterMap.mp made
    exact away call (List.mem_filterMap.mpr ⟨step, List.mem_cons_of_mem _ stepped, called⟩)

/-- What asks nothing of a directory takes no time and is not cut off. -/
theorem timely_of_away
    (away : ∀ moment call, Call.directory call ∉ (program.run environment moment).calls) :
    program.Timely environment budget 0 consequence where
  in_time moment := by
    rw [clock_run_of_away moment (away moment)]
    exact budget.covers_self _
  cut_off moment before started call limit after split := by
    have made : (⟨started, .directory call limit, none⟩ : Step) ∈
        (program.run environment moment).steps := by
      rw [split]
      exact List.mem_append_cons_self
    have called : Call.directory call ∈ (program.run environment moment).calls :=
      List.mem_filterMap.mpr ⟨_, made, rfl⟩
    exact absurd called (away moment call)

theorem timely_pure (a : α) : (pure a : Program α).Timely environment budget 0 consequence :=
  timely_of_away fun _ _ made => absurd made List.not_mem_nil

/-- To log an event takes no time. -/
theorem timely_log (event : LogEvent) {consequence : Consequence Unit} :
    (log event).Timely environment budget 0 consequence := by
  refine timely_of_away fun moment call made => ?_
  obtain ⟨step, stepped, called⟩ := List.mem_filterMap.mp made
  obtain rfl := List.mem_singleton.mp stepped
  cases called

end Program

/-! ## Tasks -/

namespace Task

open Program (Consequence Timely)

variable {budget : Budget} {count more : Nat} {task : Task ε α} {f : α → Task ε β}

/-- A call on a store takes no time. -/
theorem timely_store (call : StoreCall) {consequence : Consequence (Except Error call.Answer)} :
    (store call).run.Timely environment budget 0 consequence := by
  refine Program.timely_of_away fun moment other made => ?_
  obtain ⟨step, stepped, called⟩ := List.mem_filterMap.mp made
  obtain rfl := List.mem_singleton.mp stepped
  cases called

/-- A task that begins with a program is run by running it first. -/
theorem run_lift_bind (program : Program α) (g : α → Task ε β) :
    (ExceptT.lift program >>= g).run = program >>= fun a => (g a).run := by
  rw [ExceptT.run_bind, ExceptT.run_lift, map_eq_pure_bind, bind_assoc]
  rfl

/-- To log an event takes no time, as a task either. -/
theorem timely_log (event : LogEvent) {consequence : Consequence (Except ε Unit)} :
    (log event : Task ε Unit).run.Timely environment budget 0 consequence := by
  refine Program.timely_of_away fun moment call made => ?_
  obtain ⟨step, stepped, called⟩ := List.mem_filterMap.mp made
  obtain rfl := List.mem_singleton.mp stepped
  cases called

/-- An outcome that is there at once takes no time. -/
theorem timely_ofExcept (outcome : Except ε α) {consequence : Consequence (Except ε α)} :
    (ofExcept outcome).run.Timely environment budget 0 consequence :=
  Program.timely_pure outcome

/-- Two tasks in a row take the time of both.  The second one is only asked for when the first one
has succeeded, so a consequence of the first one has to outlast the second one in that case
alone. -/
theorem timely_bind {consequence : Consequence (Except ε α)} {later : Consequence (Except ε β)}
    (first : task.run.Timely environment budget count consequence)
    (second : ∀ a moment after, Succeeds environment task moment a after →
      (f a).run.Timely environment budget more later)
    (succeeded : ∀ started call events a new result, consequence started call events (.ok a) →
      later started call (events ++ new) result)
    (failed : ∀ started call events e, consequence started call events (.error e) →
      later started call events (.error e)) :
    (task >>= f).run.Timely environment budget (count + more) later := by
  rw [ExceptT.run_bind]
  refine first.bind (fun moment => ?_) (fun moment started call events outcome came => ?_)
  · cases outcome : (task.run.run environment moment).result with
    | ok a => exact second a moment _ ⟨outcome, rfl⟩
    | error e => exact (Program.timely_pure _).mono (Nat.zero_le _)
  · cases outcome with
    | ok a => exact succeeded _ _ _ _ _ _ came
    | error e => simpa [Run.events] using failed _ _ _ _ came

/-- A change of errors takes no time. -/
theorem timely_adapt {change : ε → ε'} {consequence : Consequence (Except ε α)}
    {later : Consequence (Except ε' α)}
    (h : task.run.Timely environment budget count consequence)
    (changed : ∀ started call events result, consequence started call events result →
      later started call events (result.mapError change)) :
    (ExceptT.adapt change task).run.Timely environment budget count later := by
  rw [ExceptT.run_adapt, map_eq_pure_bind, ← Nat.add_zero count]
  refine h.bind (fun _ => Program.timely_pure _) fun moment _ _ _ result came => ?_
  simpa [Run.events] using changed _ _ _ result came

end Task

/-! ## Calls within a budget -/

namespace Budget

open Program (Consequence)

/-- A call that is cut off is the last thing that is done, and the failure tells whether it was the
deadline. -/
def StopsAt (budget : Budget) (operation : String) (call : DirectoryCall) :
    Consequence (Except DirectoryError α) :=
  fun started other events result =>
    other = call ∧ events = [] ∧ result = .error (budget.cutOff operation started)

/-- A call within a budget takes the time of one call, and fails if it is cut off. -/
theorem timely_call (budget : Budget) (operation : String) (call : DirectoryCall) :
    (budget.call operation call).run.Timely environment budget 1
      (budget.StopsAt operation call) := by
  constructor
  · intro moment
    have waited := budget.covers_wait moment.clock
      (environment.directory call moment.state).1.latency
    by_cases in_time :
        (environment.directory call moment.state).1.latency ≤ budget.limit moment.clock
    · rw [Nat.min_eq_left in_time] at waited
      rw [run_call_of_le _ _ _ in_time]
      exact waited
    · have late := Nat.not_le.mp in_time
      rw [Nat.min_eq_right (Nat.le_of_lt late)] at waited
      rw [run_call_of_lt _ _ _ late]
      exact waited
  · intro moment before started other limit after split
    by_cases in_time :
        (environment.directory call moment.state).1.latency ≤ budget.limit moment.clock
    · rw [run_call_of_le _ _ _ in_time] at split
      rcases before with _ | ⟨first, _ | ⟨second, rest⟩⟩
      · cases split
      · cases split
      · simp at split
    · rw [run_call_of_lt _ _ _ (Nat.not_le.mp in_time)] at split ⊢
      rcases before with _ | ⟨first, _ | ⟨second, _ | ⟨third, rest⟩⟩⟩
      · cases split
      · cases split
        exact ⟨rfl, rfl, rfl⟩
      · cases split
      · simp at split

end Budget

end DirectorySignIn
