import RowGate.Proofs.OpenApi.Document
import RowGate.Proofs.Service.Starting

set_option autoImplicit false

namespace RowGate

-- The induction is on the resources; the first one that passes is the least, as slugs ascend.
theorem find?_eq_some_iff_least (resources : List Resource) (test : Resource → Bool)
    (ascending : (resources.map (·.slug)).Pairwise (· < ·)) (resource : Resource) :
    resources.find? test = some resource ↔
      resource ∈ resources ∧ test resource = true ∧
        ∀ other ∈ resources, test other = true → resource.slug ≤ other.slug := by
  induction resources with
  | nil => simp
  | cons first rest ih =>
    obtain ⟨before, ascending⟩ := List.pairwise_cons.mp ascending
    have least : ∀ other ∈ rest, first.slug < other.slug := fun other member =>
      before other.slug (List.mem_map_of_mem member)
    cases passes : test first with
    | true =>
      rw [List.find?_cons_of_pos passes, Option.some_inj]
      constructor
      next =>
        rintro rfl
        refine ⟨List.mem_cons_self, passes, List.forall_mem_cons.mpr ⟨fun _ => le_refl _, ?_⟩⟩
        exact fun other member _ => le_of_lt (least other member)
      next =>
        intro ⟨member, _, bound⟩
        rcases List.mem_cons.mp member with same | later
        next => exact same.symm
        next => exact absurd (bound first List.mem_cons_self passes) (not_le_of_gt (least _ later))
    | false =>
      have refused : ¬test first = true := by simp [passes]
      rw [List.find?_cons_of_neg refused, ih ascending]
      constructor
      next =>
        intro ⟨member, tested, bound⟩
        exact ⟨List.mem_cons_of_mem _ member, tested,
          List.forall_mem_cons.mpr ⟨fun passed => absurd passed refused, bound⟩⟩
      next =>
        intro ⟨member, tested, bound⟩
        rcases List.mem_cons.mp member with rfl | later
        next => exact absurd tested refused
        next => exact ⟨later, tested, (List.forall_mem_cons.mp bound).2⟩

namespace Registry

/-- What a registry, its empty store and its document hold of configurations, in any order. -/
structure Serves (registry : Registry) (configs : List ResourceConfig) : Prop where
  found : ∀ slug resource, registry.get slug = .ok resource ↔
    ∃ config ∈ configs, config.slug = slug ∧ Resource.ofConfig config = .ok resource
  listed : registry.models.Perm (configs.map .described)
  ascending : (registry.models.map (·.slug)).Pairwise (· < ·)
  tables : ∀ newKey name table, (Service.emptyStore newKey registry).tables.get? name = some table ↔
    ∃ config ∈ configs, config.tableName = name ∧
      (∀ other ∈ configs, other.tableName = name → config.slug ≤ other.slug) ∧
      table = { schema := (Resource.described config).schema }
  schemas : ∀ basePath entry, entry ∈ (OpenApi.document registry basePath).schemas ↔
    ∃ config ∈ configs, entry = OpenApi.schemaEntry (.described config)
  paths : ∀ basePath entry, entry ∈ (OpenApi.document registry basePath).paths ↔
    ∃ config ∈ configs,
      entry ∈ OpenApi.pathEntries (OpenApi.baseText basePath) (.described config)

section

variable (configs : List ResourceConfig) (registry : Registry)
  (read : ofConfigs configs = .ok registry)

include read

theorem exists_mem_models_iff (holds : Resource → Prop) :
    (∃ resource ∈ registry.models, holds resource) ↔
      ∃ config ∈ configs, holds (.described config) := by
  have perm := models_perm configs registry read
  simp [perm.mem_iff]

theorem forall_mem_models_iff (holds : Resource → Prop) :
    (∀ resource ∈ registry.models, holds resource) ↔
      ∀ config ∈ configs, holds (.described config) := by
  have perm := models_perm configs registry read
  simp [perm.mem_iff]

theorem get?_emptyStore (newKey : Nat → String) (name : String) (table : Table) :
    (Service.emptyStore newKey registry).tables.get? name = some table ↔
      ∃ config ∈ configs, config.tableName = name ∧
        (∀ other ∈ configs, other.tableName = name → config.slug ≤ other.slug) ∧
        table = { schema := (Resource.described config).schema } := by
  have ascending := (made_of_ofConfigs configs registry read).ascending
  have least (resource : Resource) : registry.models.find? (·.table = name) = some resource ↔
      resource ∈ registry.models ∧ resource.table = name ∧
        ∀ other ∈ configs, other.tableName = name → resource.slug ≤ other.slug := by
    simp only [find?_eq_some_iff_least _ _ ascending, decide_eq_true_eq]
    rw [forall_mem_models_iff configs registry read fun other =>
      other.table = name → resource.slug ≤ other.slug]
    rfl
  have shared := exists_mem_models_iff configs registry read fun resource =>
    resource.table = name ∧ (∀ other ∈ configs, other.tableName = name → resource.slug ≤ other.slug) ∧
      table = { schema := resource.schema }
  rw [Service.emptyStore, Store.get?_defineAll]
  simp only [Store.get?_empty, Option.none_or, Option.map_eq_some_iff, least]
  refine Iff.trans ?_ shared
  simp only [and_assoc, @eq_comm _ table]

theorem serves : registry.Serves configs where
  found slug resource := by
    have made := made_of_ofConfigs configs registry read
    have sameSlug (config : ResourceConfig) (built : Resource.ofConfig config = .ok resource) :
        resource.slug = config.slug := by
      rw [Resource.eq_of_ofConfig config resource built]
      rfl
    rw [made.get_eq_ok_iff, mem_models_iff configs registry read]
    constructor
    next =>
      rintro ⟨⟨config, member, built⟩, rfl⟩
      exact ⟨config, member, (sameSlug config built).symm, built⟩
    next =>
      rintro ⟨config, member, rfl, built⟩
      exact ⟨⟨config, member, built⟩, sameSlug config built⟩
  listed := models_perm configs registry read
  ascending := (made_of_ofConfigs configs registry read).ascending
  tables := get?_emptyStore configs registry read
  schemas basePath entry := by
    have made := made_of_ofConfigs configs registry read
    have served := exists_mem_models_iff configs registry read (entry = OpenApi.schemaEntry ·)
    obtain ⟨name, schema⟩ := entry
    rw [OpenApi.mem_schemas_iff registry basePath made, ← served]
    simp [OpenApi.schemaEntry, eq_comm]
  paths basePath entry := by
    have made := made_of_ofConfigs configs registry read
    rw [OpenApi.mem_paths_iff registry basePath made]
    exact exists_mem_models_iff configs registry read _

end

theorem configuration_of_ofConfigs (configs : List ResourceConfig) (fault : Error)
    (failed : ofConfigs configs = .error fault) : ∃ detail, fault = .configuration detail := by
  rw [ofConfigs] at failed
  refine fault_of_foldlM (fun fault => ∃ detail, fault = Error.configuration detail) _ ?_ _ configs
    fault failed
  intro registry config fault failed
  rcases (bind_eq_error_iff _ _ _).mp failed with unnamed | ⟨resource, _, refused⟩
  next =>
    rw [Resource.ofConfig] at unnamed
    split at unnamed <;> cases unnamed
    exact ⟨_, rfl⟩
  next =>
    rw [register] at refused
    split at refused
    next =>
      cases refused
      exact ⟨_, rfl⟩
    next =>
      split at refused <;> cases refused
      exact ⟨_, rfl⟩

theorem ofConfigs_perm (configs others : List ResourceConfig) (perm : configs.Perm others)
    (registry : Registry) (read : ofConfigs configs = .ok registry) : ofConfigs others = .ok registry := by
  obtain ⟨identified, apart, rfl⟩ := (ofConfigs_eq_ok_iff configs registry).mp read
  refine (ofConfigs_eq_ok_iff others _).mpr ⟨?_, (perm.map _).nodup_iff.mp apart, ?_⟩
  next => exact fun config member => identified config (perm.mem_iff.mpr member)
  next =>
    rw [← keys_entries] at apart
    rw [Keyed.ofEntries_perm _ _ apart (perm.map entryOf)]

theorem ofConfigs_reordered (configs others : List ResourceConfig) (perm : configs.Perm others) :
    ((∃ registry, ofConfigs configs = .ok registry) ↔
      (∀ config ∈ configs, config.Identified) ∧ (configs.map (·.slug)).Nodup) ∧
    (∀ registry, ofConfigs configs = .ok registry →
      registry.Serves configs ∧ ofConfigs others = .ok registry ∧
        ∀ other, ofConfigs others = .ok other →
          (∀ newKey, Service.emptyStore newKey other = Service.emptyStore newKey registry) ∧
            ∀ basePath, OpenApi.document other basePath = OpenApi.document registry basePath) ∧
    ∀ fault, ofConfigs configs = .error fault →
      ∃ detail other, fault = .configuration detail ∧
        ofConfigs others = .error (.configuration other) := by
  refine ⟨?_, ?_, ?_⟩
  next =>
    simp only [ofConfigs_eq_ok_iff]
    exact ⟨fun ⟨_, identified, apart, _⟩ => ⟨identified, apart⟩,
      fun ⟨identified, apart⟩ => ⟨_, identified, apart, rfl⟩⟩
  next =>
    intro registry read
    have reread := ofConfigs_perm configs others perm registry read
    refine ⟨serves configs registry read, reread, fun other again => ?_⟩
    cases reread.symm.trans again
    exact ⟨fun _ => rfl, fun _ => rfl⟩
  next =>
    intro fault failed
    obtain ⟨detail, caused⟩ := configuration_of_ofConfigs configs fault failed
    cases again : ofConfigs others with
    | ok registry => cases failed.symm.trans (ofConfigs_perm others configs perm.symm registry again)
    | error other =>
      obtain ⟨text, rfl⟩ := configuration_of_ofConfigs others other again
      exact ⟨detail, text, caused, rfl⟩

def visitorsConfig : ResourceConfig where
  slug := "visitors"
  table := some "users"
  primaryKey := "code"

def membersConfig : ResourceConfig where
  slug := "members"
  table := some "users"

theorem ofConfigs_reordered_shared :
    [visitorsConfig, membersConfig].Perm [membersConfig, visitorsConfig] ∧
      ∃ registry, ofConfigs [visitorsConfig, membersConfig] = .ok registry ∧
        ofConfigs [membersConfig, visitorsConfig] = .ok registry ∧
        registry.Serves [visitorsConfig, membersConfig] ∧
        (Service.emptyStore Store.keyText registry).tables.get? "users" =
          some { schema := { name := "users", primaryKey := "id" } } := by
  have perm : [visitorsConfig, membersConfig].Perm [membersConfig, visitorsConfig] := .swap _ _ _
  have identified : ∀ config ∈ [visitorsConfig, membersConfig], config.Identified := by
    simp only [ResourceConfig.identified_iff]
    decide
  obtain ⟨accepted, same, -⟩ := ofConfigs_reordered _ _ perm
  obtain ⟨registry, read⟩ := accepted.mpr ⟨identified, by decide⟩
  obtain ⟨serves, reread, -⟩ := same registry read
  have defined := (serves.tables Store.keyText "users"
    { schema := (Resource.described membersConfig).schema }).mpr
    ⟨membersConfig, by decide, by decide, by decide, rfl⟩
  exact ⟨perm, registry, read, reread, serves, defined⟩

end Registry

end RowGate
