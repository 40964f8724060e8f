import DirectorySignIn.Program.Basic

/-!
# The catalog of providers

What a sign-in page or an administrator is shown of a tenant's providers, in the order of the
store.
-/

namespace DirectorySignIn.Catalog

/-- Every provider of a tenant. -/
def all (tenant : TenantId) : Task Error (List ProviderOption) := do
  let configs ← Task.store (.listConfigs tenant)
  return configs.map ProviderConfig.option

/-- The providers of a tenant through which users may sign in. -/
def active (tenant : TenantId) : Task Error (List ProviderOption) := do
  let options ← all tenant
  return options.filter (·.isEnabled)

end DirectorySignIn.Catalog
