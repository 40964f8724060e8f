import DirectorySignIn.Proofs.Program.Conduct

/-!
# Two runs side by side

Two programs are run side by side, each in an environment of its own, and what holds of both runs
together is told by a relation before and a relation after.  The relations look at how far each
side has got, its steps and its moment, so that what is shown of two runs covers their traces as
well as their results.

Main results:

- `Program.beside_bind`, `Task.beside_bind`: what holds after the first programs is what the second
  ones begin with.
- `Task.beside_store`: a call on a store on either side.
- `Program.beside_self`, `Task.endAlike_self`: what all actions of a program keep, the program
  keeps.
-/

namespace DirectorySignIn

variable {σ τ α β α' β' : Type}

/-! ## Progress -/

/-- How far a program has got: the steps it has done, and the moment after them. -/
structure Progress (σ : Type) where
  steps : List Step
  moment : Moment σ

namespace Progress

/-- The progress at the beginning. -/
def begin (moment : Moment σ) : Progress σ :=
  ⟨[], moment⟩

/-- The progress after a run. -/
def after (progress : Progress σ) (run : Run σ α) : Progress σ :=
  ⟨progress.steps ++ run.steps, run.after⟩

/-- The progress after one action. -/
def act (progress : Progress σ) (environment : Environment σ) (action : Action) : Progress σ :=
  ⟨progress.steps ++
      [⟨progress.moment.clock, action, (environment.reply progress.moment action).1⟩],
    (environment.reply progress.moment action).2⟩

/-- The calls that were made so far. -/
def calls (progress : Progress σ) : List Call :=
  progress.steps.filterMap Step.call?

/-- The events that were logged so far. -/
def events (progress : Progress σ) : List LogEvent :=
  progress.steps.filterMap Step.event?

variable (progress : Progress σ) (environment : Environment σ)

@[simp]
theorem begin_steps (moment : Moment σ) : (begin moment).steps = [] :=
  rfl

@[simp]
theorem begin_moment (moment : Moment σ) : (begin moment).moment = moment :=
  rfl

@[simp]
theorem after_begin_steps (moment : Moment σ) (run : Run σ α) :
    ((begin moment).after run).steps = run.steps :=
  rfl

@[simp]
theorem after_moment (run : Run σ α) : (progress.after run).moment = run.after :=
  rfl

/-- An action is the last step that was done. -/
@[simp]
theorem act_steps (action : Action) :
    (progress.act environment action).steps = progress.steps ++
      [⟨progress.moment.clock, action, (environment.reply progress.moment action).1⟩] :=
  rfl

@[simp]
theorem act_moment (action : Action) :
    (progress.act environment action).moment = (environment.reply progress.moment action).2 :=
  rfl

/-- An action makes the call that it is, if it is one. -/
@[simp]
theorem calls_act (action : Action) :
    (progress.act environment action).calls = progress.calls ++ action.call?.toList := by
  rw [calls, act_steps, List.filterMap_append, ← calls]
  cases action <;> rfl

/-- An action logs the event that it reports, if it reports one. -/
@[simp]
theorem events_act (action : Action) :
    (progress.act environment action).events = progress.events ++ action.event?.toList := by
  rw [events, act_steps, List.filterMap_append, ← events]
  cases action <;> rfl

end Progress

/-! ## Comparisons -/

/-- Two environments, and what is taken for granted about the steps that are done in them. -/
structure Comparison (σ τ : Type) where
  left : Environment σ
  right : Environment τ
  granted : List Step → List Step → Prop
  granted_of_append : ∀ {steps more others moreOthers},
    granted (steps ++ more) (others ++ moreOthers) → granted steps others

namespace Program

variable {comparison : Comparison σ τ} {before : Progress σ → Progress τ → Prop}

/-- Begun on two sides that one relation holds of, two programs end with results and on sides that
another relation holds of, if the steps are as they are taken for granted. -/
def Beside (comparison : Comparison σ τ) (before : Progress σ → Progress τ → Prop)
    (program : Program α) (other : Program β)
    (after : α → β → Progress σ → Progress τ → Prop) : Prop :=
  ∀ s t, before s t →
    let one := program.run comparison.left s.moment
    let two := other.run comparison.right t.moment
    comparison.granted (s.after one).steps (t.after two).steps →
      after one.result two.result (s.after one) (t.after two)

variable {program : Program α} {other : Program β} {after : α → β → Progress σ → Progress τ → Prop}

/-- The relation before may be replaced by a stronger one, and the relation after by a weaker
one. -/
theorem Beside.mono {stronger : Progress σ → Progress τ → Prop}
    {weaker : α → β → Progress σ → Progress τ → Prop}
    (h : Beside comparison before program other after)
    (hbefore : ∀ s t, stronger s t → before s t)
    (hafter : ∀ a b s t, after a b s t → weaker a b s t) :
    Beside comparison stronger program other weaker :=
  fun s t hst granted => hafter _ _ _ _ (h s t (hbefore s t hst) granted)

/-- What the relation before says of other things than the two sides may be assumed. -/
theorem beside_of_assuming {fact : Prop}
    (h : fact → Beside comparison before program other after) :
    Beside comparison (fun s t => fact ∧ before s t) program other after :=
  fun s t hst => h hst.1 s t hst.2

/-- What holds of two results before holds of them after, since nothing is done. -/
theorem beside_done {a : α} {b : β} (h : ∀ s t, before s t → after a b s t) :
    Beside comparison before (done a) (done b) after := by
  intro s t hst one two _
  have hs : s.after one = s := by
    cases s
    simp [one, Progress.after]
  have ht : t.after two = t := by
    cases t
    simp [two, Progress.after]
  rw [hs, ht]
  exact h s t hst

/-- The second programs begin with what holds after the first ones. -/
theorem beside_bind {f : α → Program α'} {g : β → Program β'}
    {middle : α → β → Progress σ → Progress τ → Prop}
    {after : α' → β' → Progress σ → Progress τ → Prop}
    (first : Beside comparison before program other middle)
    (rest : ∀ a b, Beside comparison (middle a b) (f a) (g b) after) :
    Beside comparison before (program >>= f) (other >>= g) after := by
  intro s t hst
  simp only [run_bind]
  intro granted
  have hgranted := granted
  simp only [Progress.after, ← List.append_assoc] at granted
  have hmiddle := first s t hst (comparison.granted_of_append granted)
  have hrest := rest _ _ _ _ hmiddle
  simp only [Progress.after, List.append_assoc] at hrest
  exact hrest hgranted

/-- Two actions are done beside each other if what is wanted holds of the replies to them. -/
theorem beside_perform {action other : Action}
    {after : action.Reply → other.Reply → Progress σ → Progress τ → Prop}
    (h : ∀ s t, before s t →
      comparison.granted (s.act comparison.left action).steps
        (t.act comparison.right other).steps →
      after (comparison.left.reply s.moment action).1 (comparison.right.reply t.moment other).1
        (s.act comparison.left action) (t.act comparison.right other)) :
    Beside comparison before (perform action) (perform other) after :=
  h

/-- A program that obeys a rule comes to the same result on both sides if each action that obeys it
gets the same reply on two sides that are alike and leaves them alike. -/
theorem beside_self {rule : Rule} {alike : Progress σ → Progress τ → Prop} {program : Program α}
    (h : ∀ action s t, rule s.steps action → alike s t →
      comparison.granted (s.act comparison.left action).steps
        (t.act comparison.right action).steps →
      (comparison.left.reply s.moment action).1 = (comparison.right.reply t.moment action).1 ∧
        alike (s.act comparison.left action) (t.act comparison.right action)) :
    Beside comparison (fun s t => program.Ensures rule (fun _ _ => True) s.steps ∧ alike s t)
      program program (fun a b s t => a = b ∧ alike s t) := by
  induction program with
  | done result => exact beside_done fun s t hst => ⟨rfl, hst.2⟩
  | act action next ih =>
    have first : Beside comparison
        (fun s t => (act action next).Ensures rule (fun _ _ => True) s.steps ∧ alike s t)
        (perform action) (perform action) (fun reply other s t => reply = other ∧
          (next reply).Ensures rule (fun _ _ => True) s.steps ∧ alike s t) := by
      refine beside_perform fun s t hst granted => ?_
      obtain ⟨⟨allowed, rest⟩, halike⟩ := hst
      obtain ⟨same, hafter⟩ := h action s t allowed halike granted
      exact ⟨same, rest _ _, hafter⟩
    refine beside_bind first fun reply other => beside_of_assuming fun same => ?_
    subst same
    exact ih reply

end Program

/-! ## Tasks -/

/-- Two outcomes are paired if both are results that one relation holds of, or both are failures
that another holds of. -/
inductive Paired {ε ε' : Type} (goal : α → β → Prop) (failure : ε → ε' → Prop) :
    Except ε α → Except ε' β → Prop where
  | ok {a : α} {b : β} (h : goal a b) : Paired goal failure (.ok a) (.ok b)
  | error {e : ε} {e' : ε'} (h : failure e e') : Paired goal failure (.error e) (.error e')

/-- Outcomes that are paired by some relations are paired by weaker ones. -/
theorem Paired.mono {ε ε' : Type} {goal weaker : α → β → Prop}
    {failure weakerFailure : ε → ε' → Prop} {outcome : Except ε α} {other : Except ε' β}
    (h : Paired goal failure outcome other) (hgoal : ∀ a b, goal a b → weaker a b)
    (hfailure : ∀ e e', failure e e' → weakerFailure e e') :
    Paired weaker weakerFailure outcome other := by
  cases h with
  | ok met => exact .ok (hgoal _ _ met)
  | error met => exact .error (hfailure _ _ met)

/-- An outcome is paired with itself. -/
theorem paired_self {ε : Type} {goal : α → α → Prop} {failure : ε → ε → Prop}
    (outcome : Except ε α) (hgoal : ∀ a, goal a a) (hfailure : ∀ e, failure e e) :
    Paired goal failure outcome outcome := by
  cases outcome with
  | ok a => exact .ok (hgoal a)
  | error e => exact .error (hfailure e)

/-- Equal outcomes are paired. -/
theorem paired_of_eq {ε : Type} {goal : α → α → Prop} {failure : ε → ε → Prop}
    {outcome other : Except ε α} (same : outcome = other) (hgoal : ∀ a, goal a a)
    (hfailure : ∀ e, failure e e) : Paired goal failure outcome other :=
  same ▸ paired_self outcome hgoal hfailure

/-- What is said of the results and of the failures alike holds whichever they are. -/
theorem Paired.and_right {ε ε' : Type} {goal : α → β → Prop} {failure : ε → ε' → Prop}
    {fact : Prop} {outcome : Except ε α} {other : Except ε' β}
    (h : Paired (fun a b => goal a b ∧ fact) (fun e e' => failure e e' ∧ fact) outcome other) :
    Paired goal failure outcome other ∧ fact := by
  cases h with
  | ok met => exact ⟨.ok met.1, met.2⟩
  | error met => exact ⟨.error met.1, met.2⟩

/-- Outcomes that are paired with their equals are equal. -/
theorem eq_of_paired {ε : Type} {outcome other : Except ε α}
    (h : Paired (· = ·) (· = ·) outcome other) : outcome = other := by
  cases h with
  | ok met => exact congrArg Except.ok met
  | error met => exact congrArg Except.error met

/-- Programs that go on from paired outcomes go on from two results or from two failures. -/
theorem Program.beside_of_paired {ε ε' : Type} {comparison : Comparison σ τ}
    {goal : α → β → Progress σ → Progress τ → Prop}
    {failure : ε → ε' → Progress σ → Progress τ → Prop} {program : Except ε α → Program α'}
    {other : Except ε' β → Program β'} {after : α' → β' → Progress σ → Progress τ → Prop}
    (results : ∀ a b, Beside comparison (goal a b) (program (.ok a)) (other (.ok b)) after)
    (failures : ∀ e e',
      Beside comparison (failure e e') (program (.error e)) (other (.error e')) after)
    (outcome : Except ε α) (otherOutcome : Except ε' β) :
    Beside comparison
      (fun s t => Paired (fun a b => goal a b s t) (fun e e' => failure e e' s t) outcome
        otherOutcome)
      (program outcome) (other otherOutcome) after := by
  intro s t paired
  cases paired with
  | ok met => exact results _ _ s t met
  | error met => exact failures _ _ s t met

namespace Task

variable {ε ε' η η' : Type} {comparison : Comparison σ τ}
  {before : Progress σ → Progress τ → Prop}

/-- Begun on two sides that one relation holds of, two tasks both succeed or both fail, with
results or failures and on sides that the relations after hold of. -/
def Beside (comparison : Comparison σ τ) (before : Progress σ → Progress τ → Prop)
    (task : Task ε α) (other : Task ε' β) (goal : α → β → Progress σ → Progress τ → Prop)
    (failure : ε → ε' → Progress σ → Progress τ → Prop) : Prop :=
  Program.Beside comparison before task.run other.run fun outcome other s t =>
    Paired (fun a b => goal a b s t) (fun e e' => failure e e' s t) outcome other

variable {task : Task ε α} {other : Task ε' β} {goal : α → β → Progress σ → Progress τ → Prop}
  {failure : ε → ε' → Progress σ → Progress τ → Prop}

/-- The relation before may be replaced by a stronger one, and the relations after by weaker ones.
-/
theorem Beside.mono {stronger : Progress σ → Progress τ → Prop}
    {weaker : α → β → Progress σ → Progress τ → Prop}
    {weakerFailure : ε → ε' → Progress σ → Progress τ → Prop}
    (h : Beside comparison before task other goal failure)
    (hbefore : ∀ s t, stronger s t → before s t)
    (hgoal : ∀ a b s t, goal a b s t → weaker a b s t)
    (hfailure : ∀ e e' s t, failure e e' s t → weakerFailure e e' s t) :
    Beside comparison stronger task other weaker weakerFailure :=
  Program.Beside.mono h hbefore fun _ _ s t paired =>
    paired.mono (fun a b => hgoal a b s t) (fun e e' => hfailure e e' s t)

/-- What the relation before says of other things than the two sides may be assumed. -/
theorem beside_of_assuming {fact : Prop}
    (h : fact → Beside comparison before task other goal failure) :
    Beside comparison (fun s t => fact ∧ before s t) task other goal failure :=
  Program.beside_of_assuming h

/-- Tasks that have outcomes at once have paired ones. -/
theorem beside_ofExcept {outcome : Except ε α} {other : Except ε' β}
    (h : ∀ s t, before s t → Paired (fun a b => goal a b s t) (fun e e' => failure e e' s t)
      outcome other) :
    Beside comparison before (ofExcept outcome) (ofExcept other) goal failure :=
  Program.beside_done h

/-- Tasks that succeed at once reach the goal without a step. -/
theorem beside_pure {a : α} {b : β} (h : ∀ s t, before s t → goal a b s t) :
    Beside comparison before (pure a : Task ε α) (pure b : Task ε' β) goal failure :=
  Program.beside_done fun s t hst => .ok (h s t hst)

/-- Tasks that fail at once have related errors without a step. -/
theorem beside_throw {e : ε} {e' : ε'} (h : ∀ s t, before s t → failure e e' s t) :
    Beside comparison before (throw e : Task ε α) (throw e' : Task ε' β) goal failure :=
  Program.beside_done fun s t hst => .error (h s t hst)

/-- The second tasks begin with what holds after the first ones if these succeed. -/
theorem beside_bind {f : α → Task ε α'} {g : β → Task ε' β'}
    {middle : α → β → Progress σ → Progress τ → Prop}
    {goal : α' → β' → Progress σ → Progress τ → Prop}
    (first : Beside comparison before task other middle failure)
    (rest : ∀ a b, Beside comparison (middle a b) (f a) (g b) goal failure) :
    Beside comparison before (task >>= f) (other >>= g) goal failure := by
  unfold Beside
  rw [ExceptT.run_bind, ExceptT.run_bind]
  refine Program.beside_bind first (Program.beside_of_paired rest fun e e' => ?_)
  exact Program.beside_done fun _ _ failed => .error failed

/-- Programs that cannot fail meet the goal as tasks. -/
theorem beside_lift {program : Program α} {other : Program β}
    (h : Program.Beside comparison before program other goal) :
    Beside comparison before (ExceptT.lift program : Task ε α) (ExceptT.lift other : Task ε' β) goal
      failure := by
  unfold Beside
  rw [ExceptT.run_lift, ExceptT.run_lift, map_eq_pure_bind, map_eq_pure_bind]
  exact Program.beside_bind h fun _ _ => Program.beside_done fun _ _ met => .ok met

/-- Tasks that go on from paired outcomes go on from two results or from two failures. -/
theorem beside_of_paired {task : Except η α → Task ε α'} {other : Except η' β → Task ε' β'}
    {goal : α → β → Progress σ → Progress τ → Prop}
    {failure : η → η' → Progress σ → Progress τ → Prop}
    {goal' : α' → β' → Progress σ → Progress τ → Prop}
    {failure' : ε → ε' → Progress σ → Progress τ → Prop}
    (results : ∀ a b,
      Beside comparison (goal a b) (task (.ok a)) (other (.ok b)) goal' failure')
    (failures : ∀ e e',
      Beside comparison (failure e e') (task (.error e)) (other (.error e')) goal' failure')
    (outcome : Except η α) (otherOutcome : Except η' β) :
    Beside comparison
      (fun s t => Paired (fun a b => goal a b s t) (fun e e' => failure e e' s t) outcome
        otherOutcome)
      (task outcome) (other otherOutcome) goal' failure' :=
  Program.beside_of_paired results failures outcome otherOutcome

/-- What holds of changed errors is shown of the errors before the change. -/
theorem beside_adapt {f : ε → η} {g : ε' → η'} {failure : η → η' → Progress σ → Progress τ → Prop}
    (h : Beside comparison before task other goal fun e e' => failure (f e) (g e')) :
    Beside comparison before (ExceptT.adapt f task) (ExceptT.adapt g other) goal failure := by
  unfold Beside
  rw [ExceptT.run_adapt, ExceptT.run_adapt, map_eq_pure_bind, map_eq_pure_bind]
  refine Program.beside_bind h (Program.beside_of_paired (fun a b => ?_) fun e e' => ?_)
  · exact Program.beside_done fun _ _ met => .ok met
  · exact Program.beside_done fun _ _ failed => .error failed

/-- An event is logged on either side. -/
theorem beside_log {event otherEvent : LogEvent}
    {goal : Unit → Unit → Progress σ → Progress τ → Prop}
    (h : ∀ s t, before s t → goal () () (s.act comparison.left (.log event))
      (t.act comparison.right (.log otherEvent))) :
    Beside comparison before (log event : Task ε Unit) (log otherEvent : Task ε' Unit) goal
      failure :=
  beside_lift (Program.beside_perform fun s t hst _ => h s t hst)

/-- A call is made on the store of either side, and the replies are paired. -/
theorem beside_store {call otherCall : StoreCall}
    {goal : call.Answer → otherCall.Answer → Progress σ → Progress τ → Prop}
    {failure : Error → Error → Progress σ → Progress τ → Prop}
    (h : ∀ s t, before s t →
      comparison.granted (s.act comparison.left (.store call)).steps
        (t.act comparison.right (.store otherCall)).steps →
      Paired
        (fun a b => goal a b (s.act comparison.left (.store call))
          (t.act comparison.right (.store otherCall)))
        (fun e e' => failure e e' (s.act comparison.left (.store call))
          (t.act comparison.right (.store otherCall)))
        (comparison.left.store call s.moment.state).1
        (comparison.right.store otherCall t.moment.state).1) :
    Beside comparison before (store call) (store otherCall) goal failure :=
  Program.beside_perform h

/-! ## Ending alike -/

/-- Two tasks end alike: with the same result or the same failure, and on sides that a relation
holds of. -/
def EndAlike (comparison : Comparison σ τ) (before : Progress σ → Progress τ → Prop)
    (task other : Task ε α) (after : Progress σ → Progress τ → Prop) : Prop :=
  Beside comparison before task other (fun a b s t => a = b ∧ after s t)
    (fun e e' s t => e = e' ∧ after s t)

variable {task other : Task ε α} {after : Progress σ → Progress τ → Prop}

/-- Tasks in a row end alike if all their parts do. -/
theorem EndAlike.bind {f g : α → Task ε β} {middle : Progress σ → Progress τ → Prop}
    (first : EndAlike comparison before task other middle) (kept : ∀ s t, middle s t → after s t)
    (rest : ∀ a, EndAlike comparison middle (f a) (g a) after) :
    EndAlike comparison before (task >>= f) (other >>= g) after := by
  refine beside_bind (first.mono (fun _ _ hst => hst) (fun _ _ _ _ met => met) ?_) ?_
  · exact fun e e' s t failed => ⟨failed.1, kept s t failed.2⟩
  · intro a b
    refine beside_of_assuming fun same => ?_
    subst same
    exact rest a

/-- Tasks that end alike do so with errors that are changed alike. -/
theorem EndAlike.adapt (h : EndAlike comparison before task other after) (f : ε → η) :
    EndAlike comparison before (ExceptT.adapt f task) (ExceptT.adapt f other) after := by
  refine beside_adapt (Beside.mono h (fun _ _ hst => hst) (fun _ _ _ _ met => met) ?_)
  exact fun e e' s t failed => ⟨congrArg f failed.1, failed.2⟩

/-- A task that obeys a rule ends alike if each action that obeys it gets the same reply on two
sides that are alike and leaves them alike. -/
theorem endAlike_self {rule : Rule} {alike : Progress σ → Progress τ → Prop}
    (obeys : ∀ earlier, Obeys rule task earlier)
    (h : ∀ action s t, rule s.steps action → alike s t →
      comparison.granted (s.act comparison.left action).steps
        (t.act comparison.right action).steps →
      (comparison.left.reply s.moment action).1 = (comparison.right.reply t.moment action).1 ∧
        alike (s.act comparison.left action) (t.act comparison.right action)) :
    EndAlike comparison alike task task alike := by
  unfold EndAlike Beside
  refine (Program.beside_self h).mono ?_ ?_
  · exact fun s t hst => ⟨ensures_iff_run.mp (obeys s.steps), hst⟩
  · rintro outcome _ s t ⟨rfl, hst⟩
    exact paired_self outcome (fun _ => ⟨rfl, hst⟩) fun _ => ⟨rfl, hst⟩

/-- Tasks that end alike have the same outcome. -/
theorem EndAlike.run (h : EndAlike comparison before task other after) {s : Progress σ}
    {t : Progress τ} (hst : before s t) :
    let one := task.run.run comparison.left s.moment
    let two := other.run.run comparison.right t.moment
    comparison.granted (s.after one).steps (t.after two).steps →
      one.result = two.result ∧ after (s.after one) (t.after two) := by
  intro one two granted
  obtain ⟨paired, ended⟩ := (h s t hst granted).and_right
  exact ⟨eq_of_paired paired, ended⟩

end Task

end DirectorySignIn
