import DirectorySignIn.Proofs.Program.Outcome
import DirectorySignIn.Proofs.Provider.Reached
import DirectorySignIn.Proofs.SignIn.Bracketing
import Mathlib.Data.List.Induction

/-!
# Histories of provider configurations

A store of configurations is compared with the history of what was stored in it.  All that counts
of a history is, for every tenant and every provider key, the configuration that was stored last,
and when.

Main results:

- `lastStored_concat_iff`: what storing one more configuration does to a history.
- `IsListing.upsert`: what it does to the listing of a tenant.
- `afterAll_eq_lastStored`: a store that was filled from the beginning is the map of what was
  stored last, listed by id and, among equal ids, by time.
-/

namespace DirectorySignIn

variable {δ : Type}

/-- A configuration that is stored for a tenant. -/
structure Upsert where
  tenant : TenantId
  config : ProviderConfig
deriving DecidableEq

namespace ConfigStore

variable {history : List Upsert} {tenant : TenantId} {config other : ProviderConfig}
  {listed : List ProviderConfig} {time : Nat}

/-- The store after configurations were stored one after the other. -/
def afterAll (history : List Upsert) : ConfigStore :=
  history.foldl (fun store one => store.upsert one.tenant one.config) .empty

@[simp]
theorem afterAll_nil : afterAll [] = .empty :=
  rfl

/-- One more configuration is stored in what all before it have left. -/
@[simp]
theorem afterAll_concat (history : List Upsert) (one : Upsert) :
    afterAll (history ++ [one]) = (afterAll history).upsert one.tenant one.config := by
  simp [afterAll]

/-- After any history a store is one that was filled by storing alone. -/
theorem reached_afterAll (history : List Upsert) : (afterAll history).Reached := by
  induction history using List.reverseRecOn with
  | nil => exact .empty
  | append_singleton history one ih =>
    rw [afterAll_concat]
    exact ih.upsert one.tenant one.config

/-! ## What was stored last -/

/-- Of all configurations that were stored for a tenant under one provider key, this is the last
one.  So many were stored before it, for whichever tenant. -/
def LastStored (history : List Upsert) (tenant : TenantId) (config : ProviderConfig)
    (time : Nat) : Prop :=
  ∃ earlier later, history = earlier ++ ⟨tenant, config⟩ :: later ∧ earlier.length = time ∧
    ∀ one ∈ later, one.tenant = tenant → one.config.provider ≠ config.provider

/-- The last configuration of one key was stored before the last one of another key. -/
def StoredBefore (history : List Upsert) (tenant : TenantId) (config other : ProviderConfig) :
    Prop :=
  ∃ m n, LastStored history tenant config m ∧ LastStored history tenant other n ∧ m < n

/-- What was stored last was stored at a time of the history. -/
theorem LastStored.lt_length (h : LastStored history tenant config time) :
    time < history.length := by
  obtain ⟨earlier, later, rfl, rfl, -⟩ := h
  simp

/-- What is stored now is the last one of its key; all others are so if they were, unless they are
replaced. -/
theorem lastStored_concat_iff (one : Upsert) :
    LastStored (history ++ [one]) tenant config time ↔
      (one = ⟨tenant, config⟩ ∧ time = history.length) ∨
        (LastStored history tenant config time ∧
          (one.tenant = tenant → one.config.provider ≠ config.provider)) := by
  constructor
  · rintro ⟨earlier, later, split, rfl, unreplaced⟩
    rcases List.eq_nil_or_concat later with rfl | ⟨later, last, rfl⟩
    · obtain ⟨rfl, same⟩ := List.append_inj' split rfl
      exact .inl ⟨List.singleton_inj.mp same, rfl⟩
    · rw [List.concat_eq_append] at split unreplaced
      rw [← List.cons_append, ← List.append_assoc] at split
      obtain ⟨rfl, same⟩ := List.append_inj' split rfl
      obtain rfl := List.singleton_inj.mp same
      refine .inr ⟨⟨earlier, later, rfl, rfl, fun two stored => ?_⟩, ?_⟩
      · exact unreplaced two (List.mem_append_left _ stored)
      · exact unreplaced one (List.mem_append_right _ (List.mem_singleton_self one))
  · rintro (⟨rfl, rfl⟩ | ⟨⟨earlier, later, rfl, rfl, unreplaced⟩, kept⟩)
    · exact ⟨history, [], rfl, rfl, by simp⟩
    · refine ⟨earlier, later ++ [one], by simp, rfl, fun two stored => ?_⟩
      rcases List.mem_append.mp stored with before | last
      · exact unreplaced two before
      · obtain rfl := List.mem_singleton.mp last
        exact kept

/-- What is stored now is the last one of its key. -/
theorem lastStored_self (history : List Upsert) (tenant : TenantId) (config : ProviderConfig) :
    LastStored (history ++ [⟨tenant, config⟩]) tenant config history.length :=
  (lastStored_concat_iff _).mpr (.inl ⟨rfl, rfl⟩)

/-- The order in which two configurations were stored stays if neither is replaced. -/
theorem StoredBefore.concat (h : StoredBefore history tenant config other) {one : Upsert}
    (kept : one.tenant = tenant → one.config.provider ≠ config.provider)
    (otherKept : one.tenant = tenant → one.config.provider ≠ other.provider) :
    StoredBefore (history ++ [one]) tenant config other := by
  obtain ⟨m, n, before, after, lt⟩ := h
  exact ⟨m, n, (lastStored_concat_iff one).mpr (.inr ⟨before, kept⟩),
    (lastStored_concat_iff one).mpr (.inr ⟨after, otherKept⟩), lt⟩

/-! ## Listings -/

/-- The listing of a tenant after a history: for each provider key the last configuration of it,
once, in ascending order of the ids, and among equal ids in order of the time of storing. -/
structure IsListing (history : List Upsert) (tenant : TenantId) (listed : List ProviderConfig) :
    Prop where
  mem_iff : ∀ config, config ∈ listed ↔ ∃ time, LastStored history tenant config time
  keys_nodup : (listed.map (·.provider)).Nodup
  ordered : listed.Pairwise fun config other =>
    config.id < other.id ∨ config.id = other.id ∧ StoredBefore history tenant config other

/-- Without a history nothing is listed. -/
theorem isListing_nil (tenant : TenantId) : IsListing [] tenant [] where
  mem_iff config := by
    constructor
    · simp
    · rintro ⟨time, last⟩
      exact absurd last.lt_length (Nat.not_lt_zero time)
  keys_nodup := List.nodup_nil
  ordered := .nil

/-- What is stored for another tenant leaves the listing as it is. -/
theorem IsListing.elsewhere (h : IsListing history tenant listed) {one : Upsert}
    (other : one.tenant ≠ tenant) : IsListing (history ++ [one]) tenant listed where
  mem_iff config := by
    rw [h.mem_iff]
    refine exists_congr fun time => ?_
    rw [lastStored_concat_iff]
    constructor
    · exact fun last => .inr ⟨last, fun same => absurd same other⟩
    · rintro (⟨rfl, -⟩ | ⟨last, -⟩)
      · exact absurd rfl other
      · exact last
  keys_nodup := h.keys_nodup
  ordered := h.ordered.imp fun order => order.imp_right fun ⟨same, before⟩ =>
    ⟨same, before.concat (fun eq => absurd eq other) fun eq => absurd eq other⟩

/-- A configuration that is put behind those with no greater id keeps any order that puts it
there. -/
theorem pairwise_place {before : ProviderConfig → ProviderConfig → Prop}
    (ordered : listed.Pairwise before)
    (ascending : ∀ {a b}, before a b → a.id ≤ b.id)
    (behind : ∀ a ∈ listed, a.id ≤ config.id → before a config)
    (ahead : ∀ {a}, config.id < a.id → before config a) :
    (place config listed).Pairwise before := by
  induction listed with
  | nil => exact List.pairwise_singleton _ _
  | cons first rest ih =>
    obtain ⟨least, ordered⟩ := List.pairwise_cons.mp ordered
    unfold place
    by_cases le : first.id ≤ config.id
    · rw [if_pos le]
      refine List.pairwise_cons.mpr ⟨fun a placed => ?_, ?_⟩
      · rcases List.mem_cons.mp ((perm_place config rest).mem_iff.mp placed) with rfl | stored
        · exact behind first List.mem_cons_self le
        · exact least a stored
      · exact ih ordered fun a stored => behind a (List.mem_cons_of_mem _ stored)
    · rw [if_neg le]
      have lt : config.id < first.id := UInt64.not_le.mp le
      refine List.pairwise_cons.mpr ⟨fun a stored => ?_, List.pairwise_cons.mpr ⟨least, ordered⟩⟩
      rcases List.mem_cons.mp stored with rfl | stored
      · exact ahead lt
      · exact ahead (UInt64.lt_of_lt_of_le lt (ascending (least a stored)))

/-- What is stored for the tenant replaces the configuration of its key and is put behind all that
have no greater id, for it was stored after them. -/
theorem IsListing.upsert (h : IsListing history tenant listed) (config : ProviderConfig) :
    IsListing (history ++ [⟨tenant, config⟩]) tenant
      (place config (listed.filter fun other => other.provider != config.provider)) := by
  have others : ∀ {a}, a ∈ listed.filter (fun other => other.provider != config.provider) ↔
      (∃ time, LastStored history tenant a time) ∧ config.provider ≠ a.provider := by
    intro a
    rw [List.mem_filter, h.mem_iff, bne_iff_ne, ne_comm]
  refine ⟨fun a => ?_, ?_, ?_⟩
  · rw [(perm_place config _).mem_iff, List.mem_cons, others, ← exists_and_right]
    constructor
    · rintro (rfl | ⟨time, last, ne⟩)
      · exact ⟨_, lastStored_self history tenant a⟩
      · exact ⟨time, (lastStored_concat_iff _).mpr (.inr ⟨last, fun _ => ne⟩)⟩
    · rintro ⟨time, last⟩
      rcases (lastStored_concat_iff _).mp last with ⟨same, -⟩ | ⟨last, ne⟩
      · exact .inl (Upsert.mk.inj same).2.symm
      · exact .inr ⟨time, last, ne rfl⟩
  · rw [((perm_place config _).map _).nodup_iff, List.map_cons, List.nodup_cons]
    refine ⟨fun taken => ?_, h.keys_nodup.sublist (List.filter_sublist.map _)⟩
    obtain ⟨a, kept, same⟩ := List.mem_map.mp taken
    exact (others.mp kept).2 same.symm
  · refine pairwise_place ?_ ?_ ?_ fun lt => .inl lt
    · -- All that is left was not replaced, so it is still ordered as it was before.
      have ordered := h.ordered.sublist
        (List.filter_sublist (p := fun other : ProviderConfig => other.provider != config.provider))
      refine ordered.imp_of_mem fun {a b} kept otherKept order => ?_
      exact order.imp_right fun ⟨same, before⟩ =>
        ⟨same, before.concat (fun _ => (others.mp kept).2) fun _ => (others.mp otherKept).2⟩
    · rintro a b (lt | ⟨same, -⟩)
      · exact UInt64.le_of_lt lt
      · exact same ▸ UInt64.le_refl _
    · intro a kept le
      obtain ⟨⟨time, last⟩, ne⟩ := others.mp kept
      by_cases same : a.id = config.id
      · refine .inr ⟨same, time, history.length, ?_, lastStored_self history tenant config,
          last.lt_length⟩
        exact (lastStored_concat_iff _).mpr (.inr ⟨last, fun _ => ne⟩)
      · exact .inl (UInt64.lt_of_le_of_ne le same)

/-- The configurations of a tenant are its listing after what was stored. -/
theorem isListing_ofTenant (history : List Upsert) (tenant : TenantId) :
    IsListing history tenant ((afterAll history).ofTenant tenant) := by
  induction history using List.reverseRecOn with
  | nil => exact isListing_nil tenant
  | append_singleton history one ih =>
    rw [afterAll_concat]
    by_cases own : one.tenant = tenant
    · obtain ⟨tenant, config⟩ := one
      subst own
      have placed : ((afterAll history).upsert tenant config).ofTenant tenant =
          place config (((afterAll history).ofTenant tenant).filter fun other =>
            other.provider != config.provider) := if_pos rfl
      rw [placed]
      exact ih.upsert config
    · rw [ofTenant_upsert_of_ne (Ne.symm own)]
      exact ih.elsewhere own

/-- Only what was stored for a tenant counts for its listing. -/
theorem ofTenant_filter (history : List Upsert) (tenant : TenantId) :
    (afterAll (history.filter fun one => one.tenant = tenant)).ofTenant tenant =
      (afterAll history).ofTenant tenant := by
  induction history using List.reverseRecOn with
  | nil => rfl
  | append_singleton history one ih =>
    rw [List.filter_append, afterAll_concat]
    by_cases own : one.tenant = tenant
    · have kept : [one].filter (fun one => one.tenant = tenant) = [one] := by simp [own]
      rw [kept, afterAll_concat, own]
      simp only [ConfigStore.upsert, if_true, ih]
    · have dropped : [one].filter (fun one => one.tenant = tenant) = [] := by simp [own]
      rw [dropped, List.append_nil, ih, ofTenant_upsert_of_ne (Ne.symm own)]

/-! ## Looking up -/

/-- Something was stored last under each key under which anything was stored. -/
theorem exists_lastStored_iff (history : List Upsert) (tenant : TenantId) (provider : String) :
    (∃ config time, config.provider = provider ∧ LastStored history tenant config time) ↔
      ∃ one ∈ history, one.tenant = tenant ∧ one.config.provider = provider := by
  induction history using List.reverseRecOn with
  | nil =>
    constructor
    · rintro ⟨config, time, -, last⟩
      exact absurd last.lt_length (Nat.not_lt_zero time)
    · simp
  | append_singleton history one ih =>
    constructor
    · rintro ⟨config, time, rfl, earlier, later, split, -, -⟩
      exact ⟨⟨tenant, config⟩, by simp [split], rfl, rfl⟩
    · rintro ⟨two, stored, rfl, rfl⟩
      by_cases replaced : one.tenant = two.tenant ∧ one.config.provider = two.config.provider
      · refine ⟨one.config, history.length, replaced.2, ?_⟩
        rw [← replaced.1]
        exact lastStored_self history one.tenant one.config
      · have before : two ∈ history := by
          rcases List.mem_append.mp stored with before | last
          · exact before
          · obtain rfl := List.mem_singleton.mp last
            exact absurd ⟨rfl, rfl⟩ replaced
        obtain ⟨config, time, key_eq, last⟩ := ih.mpr ⟨two, before, rfl, rfl⟩
        refine ⟨config, time, key_eq, (lastStored_concat_iff one).mpr (.inr ⟨last, ?_⟩)⟩
        exact fun own same => replaced ⟨own, same.trans key_eq⟩

/-- A key finds the configuration that was stored last under it. -/
theorem get?_afterAll_eq_some_iff (history : List Upsert) (tenant : TenantId) (provider : String)
    (config : ProviderConfig) :
    (afterAll history).get? tenant provider = some config ↔
      config.provider = provider ∧ ∃ time, LastStored history tenant config time := by
  rw [(reached_afterAll history).keysDistinct.get?_eq_some_iff,
    (isListing_ofTenant history tenant).mem_iff, and_comm]

/-- A key finds nothing exactly if nothing was stored under it. -/
theorem get?_afterAll_eq_none_iff (history : List Upsert) (tenant : TenantId) (provider : String) :
    (afterAll history).get? tenant provider = none ↔
      ∀ one ∈ history, one.tenant = tenant → one.config.provider ≠ provider := by
  have missing : (afterAll history).get? tenant provider = none ↔
      ¬ ∃ config time, config.provider = provider ∧ LastStored history tenant config time := by
    simp only [Option.eq_none_iff_forall_ne_some, ne_eq, get?_afterAll_eq_some_iff, not_exists,
      not_and]
    exact ⟨fun h config time same => h config same time,
      fun h config same time => h config time same⟩
  rw [missing, exists_lastStored_iff]
  simp only [not_exists, not_and, ne_eq]

end ConfigStore

/-! ## Catalogs -/

namespace Catalog

variable {surroundings : Surroundings δ} {moment : Moment (Memory δ)} {tenant : TenantId}

/-- If the store answers, every provider of the tenant is shown, in the order of the store. -/
theorem result_all
    (answers : (surroundings.failure (.listConfigs tenant) moment.state.outside).1 = none) :
    ((all tenant).run.run surroundings.withMemory moment).result =
      .ok ((moment.state.configs.ofTenant tenant).map ProviderConfig.option) := by
  have stored := surroundings.withMemory_store (.listConfigs tenant) moment.state
  rcases failing : surroundings.failure (.listConfigs tenant) moment.state.outside with
    ⟨failure, outside⟩
  obtain rfl : failure = none := by rw [failing] at answers; exact answers
  rw [failing] at stored
  have shown := (Task.Yields.store stored).bind_ok
    (f := fun configs => (pure (configs.map ProviderConfig.option) : Task Error _)) (.pure _)
  exact shown.result_eq

/-- If the store answers, the enabled ones are shown, in the same order. -/
theorem result_active
    (answers : (surroundings.failure (.listConfigs tenant) moment.state.outside).1 = none) :
    ((active tenant).run.run surroundings.withMemory moment).result =
      .ok (((moment.state.configs.ofTenant tenant).filter (·.isEnabled)).map
        ProviderConfig.option) := by
  have listed := Task.Yields.run surroundings.withMemory (all tenant) moment
  rw [result_all answers] at listed
  have shown := (listed.bind_ok (f := fun options => pure (options.filter (·.isEnabled)))
    (.pure _)).result_eq
  rw [List.filter_map] at shown
  exact shown

end Catalog

/-! ## The store as a map -/

namespace ConfigStore

/-- After any history, the store is the map of what was stored last for each tenant and each key.
The listing of a tenant holds these configurations, each key once, by ascending ids and among equal
ids by time; a look-up finds the one of its key, and nothing if nothing was stored under it; and
what was stored for other tenants makes no difference to either.  Every provider is shown in the
order of the listing, and so are the enabled ones. -/
theorem afterAll_eq_lastStored (history : List Upsert) (tenant : TenantId) :
    let store := afterAll history
    let own := afterAll (history.filter fun one => one.tenant = tenant)
    IsListing history tenant (store.ofTenant tenant) ∧
      (∀ provider,
        (∀ config, store.get? tenant provider = some config ↔
          config.provider = provider ∧ ∃ time, LastStored history tenant config time) ∧
        (store.get? tenant provider = none ↔
          ∀ one ∈ history, one.tenant = tenant → one.config.provider ≠ provider)) ∧
      own.ofTenant tenant = store.ofTenant tenant ∧
      (∀ provider, own.get? tenant provider = store.get? tenant provider) ∧
      ∀ {δ : Type} (surroundings : Surroundings δ) (moment : Moment (Memory δ)) (service : Service)
        (context : Context), moment.state.configs = store → context.tenant.id = tenant →
        (surroundings.failure (.listConfigs tenant) moment.state.outside).1 = none →
          ((service.allProviders context).run.run surroundings.withMemory moment).result =
              .ok ((store.ofTenant tenant).map ProviderConfig.option) ∧
            ((service.activeProviders context).run.run surroundings.withMemory moment).result =
              .ok (((store.ofTenant tenant).filter (·.isEnabled)).map ProviderConfig.option) := by
  intro store own
  have same : own.ofTenant tenant = store.ofTenant tenant := ofTenant_filter history tenant
  refine ⟨isListing_ofTenant history tenant, fun provider => ⟨fun config => ?_, ?_⟩, same,
    fun provider => ?_, ?_⟩
  · exact get?_afterAll_eq_some_iff history tenant provider config
  · exact get?_afterAll_eq_none_iff history tenant provider
  · unfold get?
    rw [same]
  · rintro δ surroundings moment service context stored rfl answers
    rw [← stored]
    exact ⟨Catalog.result_all answers, Catalog.result_active answers⟩

/-- The sample tenant has three providers, of which one was stored again under the same id and one
under another id and disabled; and somebody else has a provider of the same key. -/
def restored : List Upsert :=
  let stored (provider : String) (id : UInt64) (status : ProviderStatus) : Upsert :=
    ⟨Context.sample.tenant.id, { ProviderConfig.sample with provider, id, status }⟩
  [stored "a" 2 .enabled, stored "b" 1 .enabled, stored "c" 2 .enabled, stored "a" 2 .enabled,
    ⟨⟨⟨7⟩⟩, { ProviderConfig.sample with provider := "c" }⟩, stored "b" 3 .disabled]

/-- What was stored again comes behind what has the same id, and what has got another id comes where
that belongs. -/
theorem afterAll_eq_lastStored_restored :
    let memory : Memory Script := ⟨afterAll restored, .empty, {}⟩
    let listed := (afterAll restored).ofTenant Context.sample.tenant.id
    let shown := ((Service.sample.activeProviders .sample).run.run Script.surroundings.withMemory
      ⟨0, memory⟩).result
    listed.map (·.provider) = ["c", "a", "b"] ∧
      IsListing restored Context.sample.tenant.id listed ∧
      (Script.surroundings.failure (.listConfigs Context.sample.tenant.id) memory.outside).1 =
        none ∧
      shown = .ok ((listed.filter (·.isEnabled)).map ProviderConfig.option) ∧
      shown.toOption.map (·.map (·.provider)) = some ["c", "a"] := by
  intro memory listed shown
  obtain ⟨listing, -, -, -, catalogs⟩ := afterAll_eq_lastStored restored Context.sample.tenant.id
  have answers : (Script.surroundings.failure (.listConfigs Context.sample.tenant.id)
      memory.outside).1 = none := rfl
  obtain ⟨-, active⟩ := catalogs Script.surroundings ⟨0, memory⟩ .sample .sample rfl rfl answers
  exact ⟨by decide +kernel, listing, answers, active, by decide +kernel⟩

end ConfigStore

end DirectorySignIn
