import DirectorySignIn.Identifier
import DirectorySignIn.Provider.Config

/-!
# The store of provider configurations

The configurations of each tenant, in ascending order of their ids.  Storing a configuration
replaces the one of the same provider key; among equal ids the one that was stored last comes
last.

Main results:

- `ofTenant_upsert_of_ne`: storing for one tenant leaves the others alone.
-/

namespace DirectorySignIn

/-- The stored provider configurations. -/
structure ConfigStore where
  /-- The configurations of a tenant in their order. -/
  ofTenant : TenantId → List ProviderConfig

namespace ConfigStore

/-- The store without configurations. -/
def empty : ConfigStore :=
  ⟨fun _ => []⟩

/-- Puts a configuration behind those with no greater id. -/
def place (config : ProviderConfig) : List ProviderConfig → List ProviderConfig
  | [] => [config]
  | other :: rest =>
    if other.id ≤ config.id then other :: place config rest else config :: other :: rest

/-- Stores a configuration of a tenant. -/
def upsert (store : ConfigStore) (tenant : TenantId) (config : ProviderConfig) : ConfigStore :=
  ⟨fun t =>
    if t = tenant then
      place config ((store.ofTenant tenant).filter fun other => other.provider != config.provider)
    else store.ofTenant t⟩

/-- The configuration of a tenant's provider. -/
def get? (store : ConfigStore) (tenant : TenantId) (provider : String) : Option ProviderConfig :=
  (store.ofTenant tenant).find? fun config => config.provider == provider

/-- Storing for one tenant leaves the configurations of the others alone. -/
theorem ofTenant_upsert_of_ne {store : ConfigStore} {tenant other : TenantId}
    {config : ProviderConfig} (h : other ≠ tenant) :
    (store.upsert tenant config).ofTenant other = store.ofTenant other := by
  simp [upsert, h]

end ConfigStore

end DirectorySignIn
