import RowGate.Proofs.Keyed
import RowGate.Proofs.Outcome
import RowGate.Resource.Registry

set_option autoImplicit false

namespace RowGate

theorem checkIdentifier_eq_ok_iff (name : String) :
    checkIdentifier name = .ok () ↔ isIdentifier name = true := by
  unfold checkIdentifier
  split <;> simp_all

structure ResourceConfig.Identified (config : ResourceConfig) : Prop where
  slug : isIdentifier config.slug = true
  table : ∀ table ∈ config.table, isIdentifier table = true
  primaryKey : isIdentifier config.primaryKey = true
  fillable : ∀ name ∈ config.fillable, isIdentifier name = true
  columns : ∀ column ∈ config.columns, isIdentifier column.name = true
  relations : ∀ relation ∈ config.relations,
    isIdentifier relation.name = true ∧ isIdentifier relation.table = true ∧
      isIdentifier relation.localKey = true ∧ isIdentifier relation.foreignKey = true

theorem ResourceConfig.identified_iff (config : ResourceConfig) :
    config.Identified ↔ ∀ name ∈ config.names, isIdentifier name = true := by
  have parts : (∀ name ∈ config.names, isIdentifier name = true) ↔
      (isIdentifier config.slug = true ∧ isIdentifier config.tableName = true ∧
        isIdentifier config.primaryKey = true) ∧
      (∀ name ∈ config.fillable, isIdentifier name = true) ∧
      (∀ column ∈ config.columns, isIdentifier column.name = true) ∧
      ∀ relation ∈ config.relations,
        isIdentifier relation.name = true ∧ isIdentifier relation.table = true ∧
          isIdentifier relation.localKey = true ∧ isIdentifier relation.foreignKey = true := by
    simp only [names, List.forall_mem_append, List.forall_mem_cons, List.forall_mem_map,
      List.forall_mem_flatMap, List.not_mem_nil, false_implies, implies_true, and_true, and_assoc]
  rw [parts]
  constructor
  next =>
    intro ⟨slug, table, primaryKey, fillable, columns, relations⟩
    refine ⟨⟨slug, ?_, primaryKey⟩, fillable, columns, relations⟩
    rw [tableName]
    cases named : config.table with
    | none => exact slug
    | some name => exact table name named
  next =>
    intro ⟨⟨slug, table, primaryKey⟩, fillable, columns, relations⟩
    refine ⟨slug, ?_, primaryKey, fillable, columns, relations⟩
    intro name named
    rw [tableName, named] at table
    exact table

namespace Resource

def described (config : ResourceConfig) : Resource where
  slug := config.slug
  table := config.tableName
  primaryKey := config.primaryKey
  fillable := config.fillable
  columns := config.columns
  relations := config.relations

theorem ofConfig_eq_ok_iff (config : ResourceConfig) (resource : Resource) :
    ofConfig config = .ok resource ↔ config.Identified ∧ resource = described config := by
  rw [config.identified_iff, ofConfig]
  cases found : config.names.find? (fun name => !isIdentifier name) with
  | some name =>
    have wrong := List.find?_some found
    have member := List.mem_of_find?_eq_some found
    simp only [reduceCtorEq, false_iff, not_and]
    intro identified
    simp [identified name member] at wrong
  | none =>
    have identified : ∀ name ∈ config.names, isIdentifier name = true := by
      simpa using found
    constructor
    next =>
      rintro ⟨⟩
      exact ⟨identified, rfl⟩
    next =>
      rintro ⟨-, rfl⟩
      rfl

theorem eq_of_ofConfig (config : ResourceConfig) (resource : Resource)
    (made : ofConfig config = .ok resource) : resource = described config :=
  ((ofConfig_eq_ok_iff config resource).mp made).2

end Resource

namespace Registry

theorem register_eq_ok_iff (registry after : Registry) (resource : Resource) :
    registry.register resource = .ok after ↔
      isIdentifier resource.slug = true ∧ registry.resources.get? resource.slug = none ∧
        after = { resources := registry.resources.insert resource.slug resource } := by
  constructor
  next =>
    intro registered
    rw [register] at registered
    split at registered
    next => cases registered
    next named =>
      split at registered
      next => cases registered
      next fresh =>
        cases registered
        exact ⟨by simpa using named, by simpa [Keyed.has] using fresh, rfl⟩
  next =>
    rintro ⟨named, fresh, rfl⟩
    simp [register, Keyed.has, named, fresh]

-- What registering one resource after the other makes of nothing.
inductive Made : Registry → Prop where
  | empty : Made {}
  | register (registry after : Registry) (resource : Resource) (made : Made registry)
      (registered : registry.register resource = .ok after) : Made after

theorem Made.sorted {registry : Registry} (made : registry.Made) : registry.resources.Sorted := by
  induction made with
  | empty => exact .nil
  | register registry after resource made registered ih =>
    obtain ⟨_, _, rfl⟩ := (register_eq_ok_iff registry after resource).mp registered
    exact ih.insert resource.slug resource

theorem Made.identified {registry : Registry} (made : registry.Made) (slug : String)
    (resource : Resource) (member : (slug, resource) ∈ registry.resources) :
    resource.slug = slug ∧ isIdentifier slug = true := by
  induction made with
  | empty => cases member
  | register registry after added made registered ih =>
    obtain ⟨named, _, rfl⟩ := (register_eq_ok_iff registry after added).mp registered
    rcases Keyed.mem_insert _ _ _ _ member with same | old
    next =>
      cases same
      exact ⟨rfl, named⟩
    next => exact ih old

theorem Made.identified_of_mem {registry : Registry} (made : registry.Made) (resource : Resource)
    (member : resource ∈ registry.models) : isIdentifier resource.slug = true := by
  obtain ⟨⟨slug, resource⟩, placed, rfl⟩ := List.mem_map.mp member
  obtain ⟨rfl, named⟩ := made.identified slug resource placed
  exact named

theorem Made.ascending {registry : Registry} (made : registry.Made) :
    (registry.models.map (·.slug)).Pairwise (· < ·) := by
  have same : registry.models.map (·.slug) = registry.resources.keys := by
    rw [models, Keyed.keys, List.map_map]
    exact List.map_congr_left fun entry member => (made.identified entry.1 entry.2 member).1
  rw [same]
  exact made.sorted

theorem Made.nodup_slugs {registry : Registry} (made : registry.Made) :
    (registry.models.map (·.slug)).Nodup :=
  made.ascending.imp ne_of_lt

theorem isIdentifier_of_get (registry : Registry) (slug : String) (resource : Resource)
    (registered : registry.get slug = .ok resource) : isIdentifier slug = true := by
  obtain ⟨_, checked, _⟩ := (bind_eq_ok_iff _ _ _).mp registered
  exact (checkIdentifier_eq_ok_iff slug).mp checked

theorem mem_models_of_get (registry : Registry) (slug : String) (resource : Resource)
    (registered : registry.get slug = .ok resource) : resource ∈ registry.models := by
  obtain ⟨_, _, registered⟩ := (bind_eq_ok_iff _ _ _).mp registered
  split at registered
  next found =>
    cases registered
    exact List.mem_map_of_mem (Keyed.mem_keys_of_get? _ slug resource found)
  next => cases registered

theorem Made.get_eq_ok_iff {registry : Registry} (made : registry.Made) (slug : String)
    (resource : Resource) :
    registry.get slug = .ok resource ↔ resource ∈ registry.models ∧ resource.slug = slug := by
  constructor
  next =>
    intro registered
    refine ⟨registry.mem_models_of_get slug resource registered, ?_⟩
    obtain ⟨_, _, registered⟩ := (bind_eq_ok_iff _ _ _).mp registered
    split at registered
    next found =>
      cases registered
      exact (made.identified slug resource (Keyed.mem_keys_of_get? _ slug resource found)).1
    next => cases registered
  next =>
    rintro ⟨member, rfl⟩
    obtain ⟨⟨slug, resource⟩, placed, rfl⟩ := List.mem_map.mp member
    obtain ⟨rfl, named⟩ := made.identified slug resource placed
    refine (check_bind_eq_ok_iff _ _ _).mpr ⟨(checkIdentifier_eq_ok_iff _).mpr named, ?_⟩
    rw [made.sorted.get?_of_mem _ _ placed]

theorem registerDescribed_eq_ok_iff (registry after : Registry) (config : ResourceConfig) :
    (do registry.register (← Resource.ofConfig config)) = .ok after ↔
      config.Identified ∧ registry.resources.get? config.slug = none ∧
        after = { resources := registry.resources.insert config.slug (.described config) } := by
  rw [bind_eq_ok_iff]
  constructor
  next =>
    intro ⟨resource, described, registered⟩
    obtain ⟨identified, rfl⟩ := (Resource.ofConfig_eq_ok_iff config resource).mp described
    obtain ⟨-, fresh, rfl⟩ := (register_eq_ok_iff registry after _).mp registered
    exact ⟨identified, fresh, rfl⟩
  next =>
    intro ⟨identified, fresh, added⟩
    have described := (Resource.ofConfig_eq_ok_iff config _).mpr ⟨identified, rfl⟩
    exact ⟨_, described, (register_eq_ok_iff registry after _).mpr ⟨identified.slug, fresh, added⟩⟩

def entryOf (config : ResourceConfig) : String × Resource :=
  (config.slug, .described config)

-- The induction is on the configurations; a slug is fresh for what was registered and for the rest.
theorem foldlM_register_eq_ok_iff (configs : List ResourceConfig) (registry after : Registry) :
    configs.foldlM (fun registry config => do
        registry.register (← Resource.ofConfig config)) registry = .ok after ↔
      (∀ config ∈ configs, config.Identified) ∧ (configs.map (·.slug)).Nodup ∧
        (∀ config ∈ configs, registry.resources.get? config.slug = none) ∧
        after = ⟨(configs.map entryOf).foldl
          (fun built entry => built.insert entry.1 entry.2) registry.resources⟩ := by
  induction configs generalizing registry with
  | nil => simp [pure, Except.pure, eq_comm]
  | cons config rest ih =>
    rw [List.foldlM_cons, bind_eq_ok_iff]
    simp only [registerDescribed_eq_ok_iff, ih]
    constructor
    next =>
      rintro ⟨next, ⟨identified, fresh, rfl⟩, others, apart, unknown, rfl⟩
      have free (other : ResourceConfig) (member : other ∈ rest) :=
        (Keyed.get?_insert_eq_none_iff _ _ _ _).mp (unknown other member)
      refine ⟨List.forall_mem_cons.mpr ⟨identified, others⟩, ?_,
        List.forall_mem_cons.mpr ⟨fresh, fun other member => (free other member).2⟩, rfl⟩
      rw [List.map_cons, List.nodup_cons, List.mem_map]
      exact ⟨fun ⟨other, member, same⟩ => (free other member).1 same.symm, apart⟩
    next =>
      intro ⟨identified, apart, unknown, read⟩
      obtain ⟨first, others⟩ := List.forall_mem_cons.mp identified
      obtain ⟨fresh, further⟩ := List.forall_mem_cons.mp unknown
      obtain ⟨differs, apart⟩ := List.nodup_cons.mp apart
      refine ⟨_, ⟨first, fresh, rfl⟩, others, apart, fun other member => ?_, read⟩
      have elsewhere : config.slug ≠ other.slug := fun same =>
        differs (List.mem_map.mpr ⟨other, member, same.symm⟩)
      exact (Keyed.get?_insert_eq_none_iff _ _ _ _).mpr ⟨elsewhere, further other member⟩

theorem ofConfigs_eq_ok_iff (configs : List ResourceConfig) (registry : Registry) :
    ofConfigs configs = .ok registry ↔
      (∀ config ∈ configs, config.Identified) ∧ (configs.map (·.slug)).Nodup ∧
        registry = ⟨Keyed.ofEntries (configs.map entryOf)⟩ := by
  rw [ofConfigs, foldlM_register_eq_ok_iff]
  simp [Keyed.get?, Keyed.ofEntries]

theorem keys_entries (configs : List ResourceConfig) :
    Keyed.keys (configs.map entryOf) = configs.map (·.slug) := by
  rw [Keyed.keys, List.map_map]
  rfl

theorem foldlM_made (configs : List ResourceConfig) (registry after : Registry) (made : registry.Made)
    (folded : configs.foldlM (fun registry config => do
      registry.register (← Resource.ofConfig config)) registry = .ok after) : after.Made := by
  induction configs generalizing registry with
  | nil =>
    cases folded
    exact made
  | cons config rest ih =>
    rw [List.foldlM_cons] at folded
    obtain ⟨next, registered, folded⟩ := (bind_eq_ok_iff _ _ _).mp folded
    obtain ⟨added, _, registered⟩ := (bind_eq_ok_iff _ _ _).mp registered
    exact ih next (.register registry next added made registered) folded

section

variable (configs : List ResourceConfig) (registry : Registry)
  (read : ofConfigs configs = .ok registry)

include read

theorem made_of_ofConfigs : registry.Made :=
  foldlM_made configs {} registry .empty read

theorem models_perm : registry.models.Perm (configs.map .described) := by
  obtain ⟨_, apart, rfl⟩ := (ofConfigs_eq_ok_iff configs registry).mp read
  have sorted := Keyed.perm_ofEntries (configs.map entryOf) (by rw [keys_entries]; exact apart)
  have models := sorted.map Prod.snd
  rw [List.map_map] at models
  exact models

theorem mem_models_iff (resource : Resource) :
    resource ∈ registry.models ↔ ∃ config ∈ configs, Resource.ofConfig config = .ok resource := by
  obtain ⟨identified, _⟩ := (ofConfigs_eq_ok_iff configs registry).mp read
  rw [(models_perm configs registry read).mem_iff, List.mem_map]
  refine exists_congr fun config => and_congr_right fun member => ?_
  rw [Resource.ofConfig_eq_ok_iff, and_iff_right (identified config member)]
  exact eq_comm

theorem described_mem_models (config : ResourceConfig) (member : config ∈ configs) :
    Resource.described config ∈ registry.models :=
  (models_perm configs registry read).mem_iff.mpr (List.mem_map_of_mem member)

end

end Registry

end RowGate
