import DirectorySignIn.Account.Store
import DirectorySignIn.Program.Run
import DirectorySignIn.Provider.Store

/-!
# Stores in memory

An environment whose stores are kept in memory.  What is outside of them, the directories above
all, is left open; it may also let a call on a store fail, and then nothing is written.

Main results:

- `answer_of_not_isWrite`: a call that does not write leaves everything as it was.
- `configs_answer`: no call changes the provider configurations.
-/

namespace DirectorySignIn

/-- Both stores, and the state of what is outside of them. -/
structure Memory (δ : Type) where
  configs : ConfigStore
  users : UserStore
  outside : δ

/-- What is outside of the stores. -/
structure Surroundings (δ : Type) where
  /-- The failure of a call on a store, if it is to fail. -/
  failure : StoreCall → δ → Option Error × δ
  directory : (call : DirectoryCall) → δ → Response call.Answer × δ
  drawUserId : δ → UserId × δ

variable {δ : Type}

namespace Memory

/-- The stored accounts after a write, and whether it was carried out. -/
def afterWrite (memory : Memory δ) : Except Error UserStore → Except Error Unit × Memory δ
  | .ok users => (.ok (), { memory with users })
  | .error e => (.error e, memory)

/-- The answer of the stores to a call. -/
def answer (memory : Memory δ) : (call : StoreCall) → Except Error call.Answer × Memory δ
  | .getConfig tenant provider => (.ok (memory.configs.get? tenant provider), memory)
  | .listConfigs tenant => (.ok (memory.configs.ofTenant tenant), memory)
  | .findIdentity tenant provider uid =>
    (.ok (memory.users.findIdentity? tenant provider uid), memory)
  | .findEmail tenant email => (.ok (memory.users.findEmail? tenant email), memory)
  | .register user => memory.afterWrite (memory.users.register user)
  | .attach user provider uid => memory.afterWrite (memory.users.attach user provider uid)

/-- A call that does not write leaves the stores as they were. -/
theorem answer_of_not_isWrite (memory : Memory δ) {call : StoreCall} (h : call.isWrite = false) :
    (memory.answer call).2 = memory := by
  cases call <;> simp_all [StoreCall.isWrite, answer]

/-- Writing accounts leaves the configurations as they were. -/
@[simp]
theorem configs_afterWrite (memory : Memory δ) (outcome : Except Error UserStore) :
    (memory.afterWrite outcome).2.configs = memory.configs := by
  cases outcome <;> rfl

/-- No call writes configurations. -/
theorem configs_answer (memory : Memory δ) (call : StoreCall) :
    (memory.answer call).2.configs = memory.configs := by
  cases call <;> simp [answer]

end Memory

namespace Surroundings

/-- The answer to a call on a store, unless it is to fail. -/
def store (surroundings : Surroundings δ) (call : StoreCall) (memory : Memory δ) :
    Except Error call.Answer × Memory δ :=
  let (failure, outside) := surroundings.failure call memory.outside
  match failure with
  | some e => (.error e, { memory with outside })
  | none => { memory with outside }.answer call

/-- The environment of stores in memory. -/
def withMemory (surroundings : Surroundings δ) : Environment (Memory δ) where
  store := surroundings.store
  directory call memory :=
    let (response, outside) := surroundings.directory call memory.outside
    (response, { memory with outside })
  drawUserId memory :=
    let (id, outside) := surroundings.drawUserId memory.outside
    (id, { memory with outside })

end Surroundings

end DirectorySignIn
