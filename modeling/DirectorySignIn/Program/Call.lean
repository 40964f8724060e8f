import DirectorySignIn.Account.User
import DirectorySignIn.Directory.Entry
import DirectorySignIn.Directory.Target

/-!
# Calls

What the service asks of the stores and of a directory, and what is answered to each call if it
succeeds.  The service never owns what it reads and writes: whoever runs it answers these calls.
-/

namespace DirectorySignIn

/-- A call on the store of provider configurations or on the store of accounts. -/
inductive StoreCall where
  | getConfig (tenant : TenantId) (provider : String)
  | listConfigs (tenant : TenantId)
  | findIdentity (tenant : TenantId) (provider uid : String)
  | findEmail (tenant : TenantId) (email : String)
  | register (user : User)
  | attach (user : UserId) (provider uid : String)
deriving DecidableEq

namespace StoreCall

/-- What is answered to a call that succeeds. -/
@[reducible]
def Answer : StoreCall → Type
  | getConfig _ _ => Option ProviderConfig
  | listConfigs _ => List ProviderConfig
  | findIdentity _ _ _ | findEmail _ _ => Option User
  | register _ | attach _ _ _ => Unit

/-- Whether a call writes to the store of accounts. -/
def isWrite : StoreCall → Bool
  | register _ | attach _ _ _ => true
  | _ => false

end StoreCall

/-- A call on a directory.  All but the first concern the session that was opened last. -/
inductive DirectoryCall where
  | connect (target : Target)
  | bind (dn password : String)
  | search (base : String) (scope : SearchScope) (filter : String) (attributes : List String)
  | unbind
deriving DecidableEq

namespace DirectoryCall

/-- What is answered to a call that succeeds. -/
@[reducible]
def Answer : DirectoryCall → Type
  | search _ _ _ _ => List Entry
  | connect _ | bind _ _ | unbind => Unit

end DirectoryCall

end DirectorySignIn
