import RowGate.Proofs.Resource.Registry
import RowGate.Proofs.Service.Effects
import RowGate.Proofs.Store.History

set_option autoImplicit false

namespace RowGate

namespace Store

def KeepsSchemas (before after : Store) : Prop :=
  ∀ name table, before.tables.get? name = some table →
    ∃ rows, after.tables.get? name = some { table with rows }

theorem keepsSchemas_of_tables {before after : Store} (same : after.tables = before.tables) :
    before.KeepsSchemas after :=
  fun _ table found => ⟨table.rows, same ▸ found⟩

theorem KeepsSchemas.trans {before between after : Store} (first : before.KeepsSchemas between)
    (second : between.KeepsSchemas after) : before.KeepsSchemas after := by
  intro name table found
  obtain ⟨rows, there⟩ := first name table found
  exact second name { table with rows } there

theorem Writes.keepsSchemas {before after : Store} {name : String} {table : Table} {rows : List Row}
    (writes : before.Writes name table rows after) : before.KeepsSchemas after := by
  intro other found there
  by_cases same : other = name
  next =>
    subst same
    cases writes.found.symm.trans there
    exact ⟨rows, writes.written⟩
  next => exact ⟨found.rows, (writes.kept other same).trans there⟩

theorem Step.keepsSchemas {before after : Store} (step : before.Step after) :
    before.KeepsSchemas after := by
  cases step with
  | unchanged same => exact keepsSchemas_of_tables same
  | defined schema fresh written kept =>
    intro name table found
    have other : name ≠ schema.name := by
      rintro rfl
      cases fresh.symm.trans found
    exact ⟨table.rows, (kept name other).trans found⟩
  | inserted name table row accepted writes => exact writes.keepsSchemas
  | updated name id table front rest old row first accepted writes => exact writes.keepsSchemas
  | deleted name id table front rest old first writes => exact writes.keepsSchemas

theorem apply_keepsSchemas (store : Store) (change : Change) :
    store.KeepsSchemas (store.apply change) :=
  holds_of_steps store.KeepsSchemas (fun _ _ step kept => kept.trans step.keepsSchemas)
    (apply_steps store change) (keepsSchemas_of_tables rfl)

@[simp] theorem get?_empty (newKey : Nat → String) (name : String) :
    (empty newKey).tables.get? name = none := rfl

theorem get?_define (store : Store) (schema : Schema) (name : String) :
    (store.define schema).tables.get? name =
      (store.tables.get? name).or (if schema.name = name then some { schema } else none) := by
  by_cases same : schema.name = name
  next =>
    subst same
    cases found : store.tables.get? schema.name <;> simp [define, Keyed.has, found]
  next =>
    rw [define]
    split <;> simp [same]

theorem get?_defineAll (resources : List Resource) (store : Store) (name : String) :
    (resources.foldl (fun store resource => store.define resource.schema) store).tables.get? name =
      (store.tables.get? name).or
        ((resources.find? (·.table = name)).map fun resource => { schema := resource.schema }) := by
  induction resources generalizing store with
  | nil => simp
  | cons resource rest ih =>
    rw [List.foldl_cons, ih, get?_define, Option.or_assoc, List.find?_cons]
    by_cases same : resource.table = name <;> simp [Resource.schema, same]

end Store

namespace Service

-- What happens to the store of a service: a request, or a change by the program around it.
inductive Event where
  | request (request : Request)
  | change (change : Store.Change)

def occur (service : Service) (store : Store) : Event → Store
  | .request request => (service.respond store request).2
  | .change change => store.apply change

def run (service : Service) (store : Store) (events : List Event) : Store :=
  events.foldl service.occur store

theorem respond_keepsSchemas (service : Service) (store : Store) (request : Request) :
    store.KeepsSchemas (service.respond store request).2 := by
  rcases respond_tables_or_writes service store request with same | ⟨name, table, rows, writes⟩
  next => exact Store.keepsSchemas_of_tables same
  next => exact writes.keepsSchemas

theorem run_keepsSchemas (service : Service) (store : Store) (events : List Event) :
    store.KeepsSchemas (service.run store events) := by
  induction events generalizing store with
  | nil => exact Store.keepsSchemas_of_tables rfl
  | cons event rest ih =>
    have first : store.KeepsSchemas (service.occur store event) := by
      cases event with
      | request request => exact respond_keepsSchemas service store request
      | change change => exact store.apply_keepsSchemas change
    exact first.trans (ih (service.occur store event))

-- No request adds a table.
theorem respond_tables (service : Service) (store : Store) (request : Request) (name : String) :
    (service.respond store request).2.tables.get? name = none ↔ store.tables.get? name = none := by
  rcases respond_tables_or_writes service store request with same | ⟨changed, table, rows, writes⟩
  next => rw [same]
  next =>
    by_cases same : name = changed
    next =>
      subst same
      rw [writes.found, writes.written]
      simp
    next => rw [writes.kept name same]

theorem run_tables (service : Service) (store : Store) (requests : List Request) (name : String) :
    (service.run store (requests.map .request)).tables.get? name = none ↔
      store.tables.get? name = none := by
  induction requests generalizing store with
  | nil => rfl
  | cons request rest ih =>
    exact (ih (service.respond store request).2).trans (respond_tables service store request name)

theorem config_of_start (host : Host) (config : Config) (service : Service) (initial : Store)
    (started : start host config = .ok (service, initial)) (resource : Resource)
    (member : resource ∈ service.registry.models) :
    ∃ source ∈ config.resources, Resource.ofConfig source = .ok resource := by
  obtain ⟨registry, made, started⟩ := (bind_eq_ok_iff _ _ _).mp started
  cases started
  exact (Registry.mem_models_iff config.resources registry made resource).mp member

theorem missing_of_run (host : Host) (config : Config) (service : Service) (initial : Store)
    (started : start host config = .ok (service, initial)) (requests : List Request) (name : String) :
    (service.run initial (requests.map .request)).tables.get? name = none ↔
      ∀ resource ∈ service.registry.models, resource.table ≠ name := by
  obtain ⟨registry, _, started⟩ := (bind_eq_ok_iff _ _ _).mp started
  cases started
  rw [run_tables, emptyStore, Store.get?_defineAll]
  simp [ofConfig]

theorem table_of_run (host : Host) (config : Config) (service : Service) (initial : Store)
    (started : start host config = .ok (service, initial)) (events : List Event) (resource : Resource)
    (member : resource ∈ service.registry.models) :
    ∃ first rows, service.registry.models.find? (·.table = resource.table) = some first ∧
      (service.run initial events).tables.get? resource.table =
        some { schema := first.schema, rows } := by
  obtain ⟨registry, _, started⟩ := (bind_eq_ok_iff _ _ _).mp started
  cases started
  obtain ⟨first, found⟩ : ∃ first, registry.models.find? (·.table = resource.table) = some first := by
    rw [← Option.isSome_iff_exists, List.find?_isSome]
    exact ⟨resource, member, by simp⟩
  have defined : (emptyStore host.newKey registry).tables.get? resource.table =
      some { schema := first.schema } := by
    simp [emptyStore, Store.get?_defineAll, found]
  obtain ⟨rows, there⟩ := run_keepsSchemas (ofConfig host config.service registry) _ events _ _ defined
  exact ⟨first, rows, found, there⟩

end Service

end RowGate
