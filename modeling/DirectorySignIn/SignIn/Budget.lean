import DirectorySignIn.Program.Basic

/-!
# Budgets

A request belongs to a tenant and may have a deadline.  Every call on a directory has a budget:
the time limit of a single call, and no more than what is left before the deadline.

Main results:

- `limit_le_timeout`: a call never gets more than the time limit of a single call.
- `add_limit_le`: a call that is begun before the deadline never goes on beyond it.
-/

namespace DirectorySignIn

/-- What all operations of one request share. -/
structure Context where
  tenant : Tenant
  /-- The time in milliseconds after which nothing is waited for. -/
  deadline : Option Nat

/-- The time left before the deadline of a request. -/
def Context.remaining (context : Context) : Program (Option Nat) := do
  let now ← Program.now
  return context.deadline.map (· - now)

/-- How long the calls of an operation may take. -/
structure Budget where
  /-- The time limit of a single call, in milliseconds. -/
  timeout : Nat
  deadline : Option Nat

namespace Budget

/-- The time limit of a call that is begun at a given time. -/
def limit (budget : Budget) (now : Nat) : Nat :=
  match budget.deadline with
  | some deadline => min budget.timeout (deadline - now)
  | none => budget.timeout

/-- Whether the deadline has come. -/
def isOver (budget : Budget) (now : Nat) : Bool :=
  match budget.deadline with
  | some deadline => deadline ≤ now
  | none => false

/-- Why a call was cut off. -/
def expiry (budget : Budget) (operation : String) (now : Nat) : DirectoryError :=
  if budget.isOver now then .deadline else .timeout operation

/-- Calls a directory within the budget. -/
def call (budget : Budget) (operation : String) (call : DirectoryCall) :
    Task DirectoryError call.Answer :=
  ExceptT.mk do
    let started ← Program.now
    match ← Program.perform (.directory call (budget.limit started)) with
    | some outcome => return outcome
    | none =>
      let ended ← Program.now
      return .error (budget.expiry operation ended)

/-- No call may take longer than the time limit of a call. -/
theorem limit_le_timeout (budget : Budget) (now : Nat) : budget.limit now ≤ budget.timeout := by
  unfold limit
  split
  · exact Nat.min_le_left _ _
  · exact Nat.le_refl _

/-- A call that is begun before the deadline is over by the deadline. -/
theorem add_limit_le {budget : Budget} {now deadline : Nat} (h : budget.deadline = some deadline)
    (hnow : now ≤ deadline) : now + budget.limit now ≤ deadline := by
  simp only [limit, h]
  omega

end Budget

end DirectorySignIn
