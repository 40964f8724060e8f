import DirectorySignIn.Provider.Store
import Mathlib.Data.List.Nodup

/-!
# Reached stores of provider configurations

A store that was filled by storing one configuration after the other has one configuration for each
provider key of a tenant, so that the look-up of a key and the list of all configurations agree.  A
tenant's configurations are sorted by id: to put a new one in its place is to append it and to sort
stably.

Main results:

- `Reached.keysDistinct`: no tenant of a reached store has two configurations of one key.
- `Reached.ofTenant_upsert`: storing removes the configuration of the same key, appends the new one
  and sorts.
- `KeysDistinct.get?_eq_some_iff`: a configuration is found by its key exactly if it is stored.
-/

namespace DirectorySignIn.ConfigStore

variable {store : ConfigStore} {tenant : TenantId} {provider : String} {config : ProviderConfig}
  {configs : List ProviderConfig}

/-- No tenant has two configurations of one provider key. -/
def KeysDistinct (store : ConfigStore) : Prop :=
  ∀ tenant, ((store.ofTenant tenant).map (·.provider)).Nodup

/-- The store was filled by storing one configuration after the other. -/
inductive Reached : ConfigStore → Prop
  | empty : Reached .empty
  | upsert {store : ConfigStore} (reached : Reached store) (tenant : TenantId)
      (config : ProviderConfig) : Reached (store.upsert tenant config)

/-! ## Storing -/

/-- Wherever a configuration is put, it comes to the others. -/
theorem perm_place (config : ProviderConfig) (configs : List ProviderConfig) :
    (place config configs).Perm (config :: configs) := by
  induction configs with
  | nil => exact .refl _
  | cons other rest ih =>
    unfold place
    by_cases before : other.id ≤ config.id
    · rw [if_pos before]
      exact (ih.cons other).trans (.swap config other rest)
    · rw [if_neg before]

/-- The store without configurations has no two of one key. -/
theorem keysDistinct_empty : empty.KeysDistinct :=
  fun _ => List.nodup_nil

/-- Storing replaces the configuration of the same key, if there is one. -/
theorem KeysDistinct.upsert (h : store.KeysDistinct) (tenant : TenantId)
    (config : ProviderConfig) : (store.upsert tenant config).KeysDistinct := by
  intro other
  by_cases same : other = tenant
  · subst same
    let others := (store.ofTenant other).filter fun stored => stored.provider != config.provider
    have placed : (store.upsert other config).ofTenant other = place config others := if_pos rfl
    have distinct : (others.map (·.provider)).Nodup :=
      (h other).sublist (List.filter_sublist.map _)
    have new : config.provider ∉ others.map (·.provider) := by
      intro taken
      obtain ⟨stored, kept, key_eq⟩ := List.mem_map.mp taken
      have ne := (List.mem_filter.mp kept).2
      rw [key_eq] at ne
      simp at ne
    rw [placed]
    apply ((perm_place config others).map _).nodup_iff.mpr
    rw [List.map_cons]
    exact List.nodup_cons.mpr ⟨new, distinct⟩
  · rw [ofTenant_upsert_of_ne same]
    exact h other

/-- A store that was filled by storing alone has no two configurations of one key. -/
theorem Reached.keysDistinct (h : Reached store) : store.KeysDistinct := by
  induction h with
  | empty => exact keysDistinct_empty
  | upsert _ tenant config ih => exact ih.upsert tenant config

/-! ## The order of the ids -/

/-- The order of the ids, in which configurations of one id may stand either way. -/
def idLe (config other : ProviderConfig) : Bool :=
  config.id ≤ other.id

theorem idLe_trans (a b c : ProviderConfig) : idLe a b → idLe b c → idLe a c := by
  simp only [idLe, decide_eq_true_eq]
  exact UInt64.le_trans

theorem idLe_total (a b : ProviderConfig) : idLe a b || idLe b a := by
  simp only [idLe, Bool.or_eq_true, decide_eq_true_eq]
  exact UInt64.le_total a.id b.id

/-- Before configurations that all have greater ids, a configuration comes first. -/
theorem place_of_lt (least : ∀ other ∈ configs, config.id < other.id) :
    place config configs = config :: configs := by
  cases configs with
  | nil => rfl
  | cons other rest =>
    have after := UInt64.not_le.mpr (least other List.mem_cons_self)
    rw [place, if_neg after]

/-- Sorting leaves a first configuration with the least id in front. -/
theorem mergeSort_cons_of_le (least : ∀ other ∈ configs, config.id ≤ other.id) :
    (config :: configs).mergeSort idLe = config :: configs.mergeSort idLe := by
  obtain ⟨front, back, sorted, others, smaller⟩ :=
    List.mergeSort_cons idLe_trans idLe_total config configs
  have front_nil : front = [] := by
    refine List.eq_nil_iff_forall_not_mem.mpr fun other mem => ?_
    have placed : other ∈ configs.mergeSort idLe := others ▸ List.mem_append_left back mem
    have le : idLe config other = true :=
      decide_eq_true (least other (List.mem_mergeSort.mp placed))
    have less := smaller other mem
    rw [le] at less
    contradiction
  rw [sorted, others, front_nil]
  rfl

/-- Sorting brings a last configuration with the least id in front of others that are in order. -/
theorem mergeSort_concat_of_lt (ascending : configs.Pairwise (·.id ≤ ·.id))
    (least : ∀ other ∈ configs, config.id < other.id) :
    (configs ++ [config]).mergeSort idLe = config :: configs := by
  have kept : configs.Sublist ((configs ++ [config]).mergeSort idLe) :=
    List.sublist_mergeSort idLe_trans idLe_total (ascending.imp fun le => decide_eq_true le)
      (List.sublist_append_left configs [config])
  have order := List.pairwise_mergeSort idLe_trans idLe_total (configs ++ [config])
  have perm := List.mergeSort_perm (configs ++ [config]) idLe
  have placed : config ∈ (configs ++ [config]).mergeSort idLe := perm.mem_iff.mpr (by simp)
  rcases sorted : (configs ++ [config]).mergeSort idLe with _ | ⟨first, others⟩
  · rw [sorted] at placed
    contradiction
  · rw [sorted] at kept order perm placed
    -- The first one has no greater id than the last one, so it is the last one.
    obtain rfl : first = config := by
      have mem : first ∈ configs ++ [config] := perm.mem_iff.mp List.mem_cons_self
      by_contra ne
      have stored : first ∈ configs := (List.mem_append.mp mem).resolve_right (by simpa using ne)
      have behind : config ∈ others := (List.mem_cons.mp placed).resolve_left (Ne.symm ne)
      have le : first.id ≤ config.id := of_decide_eq_true (List.rel_of_pairwise_cons order behind)
      exact UInt64.not_le.mpr (least first stored) le
    have length : others.length = configs.length := by simpa using perm.length_eq
    rcases List.sublist_cons_iff.mp kept with kept | ⟨rest, rfl, -⟩
    · rw [kept.eq_of_length length.symm]
    · exact absurd (least first List.mem_cons_self) (UInt64.lt_irrefl _)

/-- Among configurations in the order of their ids, a configuration is put where a stable sort
takes it from the end. -/
theorem place_eq_mergeSort (ascending : configs.Pairwise (·.id ≤ ·.id)) (config : ProviderConfig) :
    place config configs = (configs ++ [config]).mergeSort idLe := by
  induction configs with
  | nil => rw [List.nil_append, List.mergeSort_singleton, place]
  | cons other rest ih =>
    obtain ⟨least, ascendingRest⟩ := List.pairwise_cons.mp ascending
    by_cases before : other.id ≤ config.id
    · have first : ∀ stored ∈ rest ++ [config], other.id ≤ stored.id :=
        List.forall_mem_append.mpr ⟨least, List.forall_mem_singleton.mpr before⟩
      rw [place, if_pos before, ih ascendingRest, List.cons_append, mergeSort_cons_of_le first]
    · have after : config.id < other.id := UInt64.not_le.mp before
      have first : ∀ stored ∈ other :: rest, config.id < stored.id :=
        List.forall_mem_cons.mpr ⟨after, fun stored mem =>
          UInt64.lt_of_lt_of_le after (least stored mem)⟩
      rw [place_of_lt first, mergeSort_concat_of_lt ascending first]

/-- The configurations of each tenant are in the order of their ids. -/
def IdsAscending (store : ConfigStore) : Prop :=
  ∀ tenant, (store.ofTenant tenant).Pairwise (·.id ≤ ·.id)

/-- If configurations are in the order of their ids, storing one removes the one of the same key,
appends it and sorts. -/
theorem IdsAscending.ofTenant_upsert (h : store.IdsAscending) (tenant : TenantId)
    (config : ProviderConfig) :
    (store.upsert tenant config).ofTenant tenant =
      ((store.ofTenant tenant).filter (·.provider != config.provider) ++ [config]).mergeSort
        idLe := by
  have placed : (store.upsert tenant config).ofTenant tenant =
      place config ((store.ofTenant tenant).filter (·.provider != config.provider)) := if_pos rfl
  rw [placed, place_eq_mergeSort ((h tenant).sublist List.filter_sublist)]

/-- Storing keeps the order of the ids. -/
theorem IdsAscending.upsert (h : store.IdsAscending) (tenant : TenantId)
    (config : ProviderConfig) : (store.upsert tenant config).IdsAscending := by
  intro other
  by_cases same : other = tenant
  · subst same
    rw [h.ofTenant_upsert]
    exact (List.pairwise_mergeSort idLe_trans idLe_total _).imp of_decide_eq_true
  · rw [ofTenant_upsert_of_ne same]
    exact h other

/-- A store that was filled by storing alone has its configurations in the order of their ids. -/
theorem Reached.idsAscending (h : Reached store) : store.IdsAscending := by
  induction h with
  | empty => exact fun _ => .nil
  | upsert _ tenant config ih => exact ih.upsert tenant config

/-- Storing in a store that was filled by storing alone removes the configuration of the same key,
appends the new one and sorts. -/
theorem Reached.ofTenant_upsert (h : Reached store) (tenant : TenantId) (config : ProviderConfig) :
    (store.upsert tenant config).ofTenant tenant =
      ((store.ofTenant tenant).filter (·.provider != config.provider) ++ [config]).mergeSort
        idLe :=
  h.idsAscending.ofTenant_upsert tenant config

/-! ## Looking up -/

/-- Whatever is found is stored under the key. -/
theorem of_get?_eq_some (h : store.get? tenant provider = some config) :
    config ∈ store.ofTenant tenant ∧ config.provider = provider := by
  refine ⟨List.mem_of_find?_eq_some h, ?_⟩
  have found := List.find?_some h
  exact beq_iff_eq.mp found

/-- If keys are distinct, whatever is stored is found by its key. -/
theorem KeysDistinct.get?_eq_some_iff (h : store.KeysDistinct) :
    store.get? tenant provider = some config ↔
      config ∈ store.ofTenant tenant ∧ config.provider = provider := by
  constructor
  · exact of_get?_eq_some
  · rintro ⟨stored, rfl⟩
    cases found : store.get? tenant config.provider with
    | none =>
      have nobody := List.find?_eq_none.mp found config stored
      exact absurd (beq_self_eq_true config.provider) nobody
    | some other =>
      obtain ⟨otherStored, key_eq⟩ := of_get?_eq_some found
      exact congrArg some (List.inj_on_of_nodup_map (h tenant) otherStored stored key_eq)

end DirectorySignIn.ConfigStore
