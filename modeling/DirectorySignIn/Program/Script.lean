import DirectorySignIn.Program.Memory

/-!
# Scripts

A rehearsed world outside of the stores.  For every kind of call a script has a queue of what
happens; a call takes the first item of its queue, and the calls that find their queue empty
succeed at once.  Identifiers are drawn in ascending order.

Main results:

- `takeReaction_of_ne`: a call leaves the queues of the other kinds alone.
-/

namespace DirectorySignIn

/-- A kind of call on a store. -/
inductive StoreMethod where
  | getConfig
  | listConfigs
  | findIdentity
  | findEmail
  | register
  | attach
deriving DecidableEq

/-- A kind of call on a directory. -/
inductive DirectoryMethod where
  | connect
  | bind
  | search
  | unbind
deriving DecidableEq

/-- The kind of a call on a store. -/
def StoreCall.method : StoreCall → StoreMethod
  | getConfig _ _ => .getConfig
  | listConfigs _ => .listConfigs
  | findIdentity _ _ _ => .findIdentity
  | findEmail _ _ => .findEmail
  | register _ => .register
  | attach _ _ _ => .attach

/-- The kind of a call on a directory. -/
def DirectoryCall.method : DirectoryCall → DirectoryMethod
  | connect _ => .connect
  | bind _ _ => .bind
  | search _ _ _ _ => .search
  | unbind => .unbind

/-- What a directory does with a call whatever its arguments are. -/
structure Reaction where
  latency : Nat := 0
  error : Option DirectoryError := none
  /-- The entries that are found if the call is a search. -/
  entries : List Entry := []
deriving DecidableEq

namespace Reaction

/-- The answer to a call that succeeds. -/
def answer (reaction : Reaction) : (call : DirectoryCall) → call.Answer
  | .search _ _ _ _ => reaction.entries
  | .connect _ | .bind _ _ | .unbind => ()

/-- The response to a call. -/
def response (reaction : Reaction) (call : DirectoryCall) : Response call.Answer :=
  { latency := reaction.latency
    outcome :=
      match reaction.error with
      | some e => .error e
      | none => .ok (reaction.answer call) }

end Reaction

/-- What happens outside of the stores, call by call. -/
structure Script where
  /-- For every kind of call on a store, the failures to come. -/
  failures : StoreMethod → List (Option Error) := fun _ => []
  /-- For every kind of call on a directory, the reactions to come. -/
  reactions : DirectoryMethod → List Reaction := fun _ => []
  /-- How many identifiers were drawn. -/
  drawn : Nat := 0

namespace Script

/-- Takes the next failure of a kind of call. -/
def takeFailure (script : Script) (method : StoreMethod) : Option Error × Script :=
  ((script.failures method).head?.join, { script with
    failures := fun m => if m = method then (script.failures m).tail else script.failures m })

/-- Takes the next reaction to a kind of call. -/
def takeReaction (script : Script) (method : DirectoryMethod) : Reaction × Script :=
  ((script.reactions method).head?.getD {}, { script with
    reactions := fun m => if m = method then (script.reactions m).tail else script.reactions m })

/-- The first identifier that is drawn, far from those that people make up. -/
def firstId : Nat := 0xfeedf00d000040008000000000000000

/-- The identifier that is drawn after so many others. -/
def userId (n : Nat) : UserId :=
  ⟨⟨BitVec.ofNat 128 (firstId + n)⟩⟩

/-- Draws an identifier. -/
def drawUserId (script : Script) : UserId × Script :=
  (userId script.drawn, { script with drawn := script.drawn + 1 })

/-- Taking a reaction to one method leaves those to other methods in their queues. -/
theorem takeReaction_of_ne (script : Script) {method other : DirectoryMethod} (h : other ≠ method) :
    (script.takeReaction method).2.reactions other = script.reactions other := by
  simp [takeReaction, h]

/-- What is outside of the stores, as scripted. -/
def surroundings : Surroundings Script where
  failure call script := script.takeFailure call.method
  directory call script :=
    let (reaction, script) := script.takeReaction call.method
    (reaction.response call, script)
  drawUserId := drawUserId

end Script

end DirectorySignIn
