import DirectorySignIn.Log
import DirectorySignIn.Program.Call

/-!
# Programs

A program is a finite tree of actions: it acts, and how it goes on depends on the reply.  What a
program does is thereby told apart from who replies, so that one and the same program can be run
against any stores and any directory, and the calls of several programs can be interleaved.

Main results:

- programs form a lawful monad.
-/

namespace DirectorySignIn

/-- Something a program does. -/
inductive Action where
  /-- Calls a store. -/
  | store (call : StoreCall)
  /-- Calls a directory and waits for the answer for at most so many milliseconds. -/
  | directory (call : DirectoryCall) (limit : Nat)
  /-- Looks at the clock. -/
  | readClock
  /-- Makes up an identifier for a new user. -/
  | drawUserId
  /-- Tells the operator. -/
  | log (event : LogEvent)

/-- What comes back for an action.  There is no answer of a directory if the time is up. -/
@[reducible]
def Action.Reply : Action → Type
  | store call => Except Error call.Answer
  | directory call _ => Option (Except DirectoryError call.Answer)
  | readClock => Nat
  | drawUserId => UserId
  | log _ => Unit

/-- A program with a result. -/
inductive Program (α : Type) where
  | done (result : α)
  | act (action : Action) (next : action.Reply → Program α)

namespace Program

variable {α β γ : Type}

/-- Goes on with the result of a program. -/
def bind : Program α → (α → Program β) → Program β
  | done result, f => f result
  | act action next, f => act action fun reply => bind (next reply) f

instance : Monad Program where
  pure := done
  bind := bind

@[simp]
theorem done_bind (result : α) (f : α → Program β) : done result >>= f = f result :=
  rfl

@[simp]
theorem act_bind (action : Action) (next : action.Reply → Program α) (f : α → Program β) :
    act action next >>= f = act action fun reply => next reply >>= f :=
  rfl

theorem bind_done (program : Program α) : program >>= done = program := by
  induction program with
  | done result => rfl
  | act action next ih => rw [act_bind]; congr; funext reply; exact ih reply

/-- It does not matter how programs in a row are put together. -/
theorem bind_assoc (program : Program α) (f : α → Program β) (g : β → Program γ) :
    program >>= f >>= g = program >>= fun a => f a >>= g := by
  induction program with
  | done result => rfl
  | act action next ih => simp only [act_bind]; congr; funext reply; exact ih reply

instance : LawfulMonad Program :=
  LawfulMonad.mk' Program (fun program => bind_done program) (fun _ _ => rfl) bind_assoc

/-! ## Single actions -/

/-- Does one thing and returns the reply. -/
def perform (action : Action) : Program action.Reply :=
  act action done

/-- The time in milliseconds. -/
def now : Program Nat :=
  perform .readClock

/-- Tells the operator. -/
def log (event : LogEvent) : Program Unit :=
  perform (.log event)

/-- An identifier for a new user. -/
def newUserId : Program UserId :=
  perform .drawUserId

end Program

/-- A program that may fail. -/
abbrev Task (ε α : Type) : Type :=
  ExceptT ε Program α

namespace Task

/-- Calls a store. -/
def store (call : StoreCall) : Task Error call.Answer :=
  ExceptT.mk (Program.perform (.store call))

/-- An outcome that is known without doing anything. -/
def ofExcept {ε α : Type} (outcome : Except ε α) : Task ε α :=
  ExceptT.mk (pure outcome)

/-- Tells the operator in the course of a task. -/
def log {ε : Type} (event : LogEvent) : Task ε Unit :=
  ExceptT.lift (Program.log event)

end Task

end DirectorySignIn
