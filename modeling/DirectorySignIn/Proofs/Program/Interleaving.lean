import DirectorySignIn.Proofs.Program.Conduct
import Mathlib.Logic.Function.Basic

/-!
# Programs that take turns

Several programs are under way in one environment.  Whoever has the turn does one action, which is
replied to before anyone else has a turn; in which order the turns come is anyone's guess.  What
holds however they come is shown like an invariant of a loop: each action that a party may do after
its own steps has to keep it.

Main results:

- `Interplay.turn_invariant`, `Interplay.play_invariant`: what every permitted action keeps is kept
  by one turn, and by any row of turns.
- `Interplay.exists_play_alone`: a party that has turn after turn runs as it would alone.
-/

namespace DirectorySignIn

variable {σ ι α : Type}

/-- A step with the party that did it. -/
structure Turn (ι : Type) where
  party : ι
  step : Step

/-- Several parties in the middle of their programs. -/
structure Interplay (σ ι α : Type) where
  /-- What each party has still to do. -/
  ahead : ι → Program α
  /-- The turns so far. -/
  turns : List (Turn ι)
  moment : Moment σ

section Own

variable [DecidableEq ι]

/-- The steps of one party. -/
def ownSteps (party : ι) (turns : List (Turn ι)) : List Step :=
  (turns.filter (·.party = party)).map (·.step)

@[simp]
theorem ownSteps_nil (party : ι) : ownSteps party [] = [] :=
  rfl

/-- The steps of a party in turns in a row are in a row. -/
@[simp]
theorem ownSteps_append (party : ι) (first second : List (Turn ι)) :
    ownSteps party (first ++ second) = ownSteps party first ++ ownSteps party second := by
  simp [ownSteps]

/-- In its own turn a party does the step. -/
@[simp]
theorem ownSteps_self (party : ι) (step : Step) : ownSteps party [⟨party, step⟩] = [step] := by
  simp [ownSteps]

/-- In another party's turn a party does nothing. -/
theorem ownSteps_of_ne {party other : ι} (h : other ≠ party) (step : Step) :
    ownSteps party [⟨other, step⟩] = [] := by
  simp [ownSteps, h]

end Own

namespace Interplay

variable [DecidableEq ι] (environment : Environment σ)

/-- Nobody has done anything yet. -/
def start (programs : ι → Program α) (moment : Moment σ) : Interplay σ ι α :=
  ⟨programs, [], moment⟩

/-- A party has a turn: it does its next action, if it is not done. -/
def turn (interplay : Interplay σ ι α) (party : ι) : Interplay σ ι α :=
  match interplay.ahead party with
  | .done _ => interplay
  | .act action next =>
    let (reply, later) := environment.reply interplay.moment action
    { ahead := Function.update interplay.ahead party (next reply)
      turns := interplay.turns ++ [⟨party, interplay.moment.clock, action, reply⟩]
      moment := later }

/-- The parties have turns in a certain order. -/
def play (interplay : Interplay σ ι α) (order : List ι) : Interplay σ ι α :=
  order.foldl (turn environment) interplay

/-- The result of a party, once it is done. -/
def result? (interplay : Interplay σ ι α) (party : ι) : Option α :=
  match interplay.ahead party with
  | .done result => some result
  | .act _ _ => none

variable {environment} {interplay : Interplay σ ι α}

/-- A party that is done does nothing in its turn. -/
theorem turn_of_done {party : ι} {result : α} (h : interplay.ahead party = .done result) :
    interplay.turn environment party = interplay := by
  simp [turn, h]

/-- A party that is not done does its next action in its turn. -/
theorem turn_of_act {party : ι} {action : Action} {next : action.Reply → Program α}
    (h : interplay.ahead party = .act action next) :
    interplay.turn environment party =
      let answered := environment.reply interplay.moment action
      { ahead := Function.update interplay.ahead party (next answered.1)
        turns := interplay.turns ++ [⟨party, interplay.moment.clock, action, answered.1⟩]
        moment := answered.2 } := by
  simp [turn, h]

/-! ## Invariants -/

section Invariant

variable {rules : ι → Rule} {goals : ι → α → List Step → Prop}
  {Invariant : List (Turn ι) → Moment σ → Prop}

/-- Each party goes on obeying its rule after its own steps, and meets its goal in the end. -/
def Conducted (rules : ι → Rule) (goals : ι → α → List Step → Prop)
    (interplay : Interplay σ ι α) : Prop :=
  ∀ party, (interplay.ahead party).Ensures (rules party) (goals party)
    (ownSteps party interplay.turns)

variable (kept : ∀ turns moment party action, Invariant turns moment →
  rules party (ownSteps party turns) action →
    let answered := environment.reply moment action
    Invariant (turns ++ [⟨party, moment.clock, action, answered.1⟩]) answered.2)

include kept

/-- One turn keeps what every permitted action keeps. -/
theorem turn_invariant (conduct : interplay.Conducted rules goals)
    (holds : Invariant interplay.turns interplay.moment) (party : ι) :
    (interplay.turn environment party).Conducted rules goals ∧
      Invariant (interplay.turn environment party).turns
        (interplay.turn environment party).moment := by
  have mine := conduct party
  cases h : interplay.ahead party with
  | done result =>
    rw [turn_of_done h]
    exact ⟨conduct, holds⟩
  | act action next =>
    rw [h] at mine
    obtain ⟨allowed, rest⟩ := mine
    rw [turn_of_act h]
    refine ⟨fun other => ?_, kept _ _ party action holds allowed⟩
    -- The others have done nothing, and the party goes on after the step that it has done.
    by_cases same : other = party
    · subst same
      simpa using rest _ _
    · simpa [Function.update_of_ne same, ownSteps_of_ne (Ne.symm same)] using conduct other

/-- Turns in any order keep what every permitted action keeps. -/
theorem play_invariant (conduct : interplay.Conducted rules goals)
    (holds : Invariant interplay.turns interplay.moment) (order : List ι) :
    (interplay.play environment order).Conducted rules goals ∧
      Invariant (interplay.play environment order).turns
        (interplay.play environment order).moment := by
  induction order generalizing interplay with
  | nil => exact ⟨conduct, holds⟩
  | cons party rest ih =>
    obtain ⟨conducted, held⟩ := turn_invariant kept conduct holds party
    exact ih conducted held

end Invariant

/-! ## One party alone -/

/-- A party that has turn after turn runs as it would alone. -/
theorem exists_play_alone (environment : Environment σ) (interplay : Interplay σ ι α) (party : ι) :
    ∃ n, interplay.play environment (List.replicate n party) =
      let run := (interplay.ahead party).run environment interplay.moment
      ⟨Function.update interplay.ahead party (.done run.result),
        interplay.turns ++ run.steps.map (⟨party, ·⟩), run.after⟩ := by
  generalize h : interplay.ahead party = program
  induction program generalizing interplay with
  | done result =>
    have waits : Function.update interplay.ahead party (.done result) = interplay.ahead := by
      rw [← h, Function.update_eq_self]
    exact ⟨0, by simp [play, waits]⟩
  | act action next ih =>
    obtain ⟨n, played⟩ := ih _ (interplay.turn environment party) (by
      rw [turn_of_act h]
      exact Function.update_self ..)
    refine ⟨n + 1, ?_⟩
    rw [List.replicate_succ]
    refine played.trans ?_
    simp [turn_of_act h, Program.run]

end Interplay

end DirectorySignIn
