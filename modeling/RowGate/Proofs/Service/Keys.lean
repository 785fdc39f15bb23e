import RowGate.Proofs.Service.Assignment
import RowGate.Proofs.Service.Starting

set_option autoImplicit false

namespace RowGate

def Schema.keysOf (schema : Schema) (rows : List Row) : List (Option Json) :=
  rows.map (·.get? schema.primaryKey)

def Config.AgreesOnKeys (config : Config) : Prop :=
  ∀ one ∈ config.resources, ∀ other ∈ config.resources,
    one.tableName = other.tableName → one.primaryKey = other.primaryKey

namespace Store

def KeepsKeys (before after : Store) : Prop :=
  ∀ name table, before.tables.get? name = some table →
    ∃ rows, after.tables.get? name = some { table with rows } ∧
      table.schema.keysOf rows = table.schema.keysOf table.rows

theorem keepsKeys_of_tables {before after : Store} (same : after.tables = before.tables) :
    before.KeepsKeys after :=
  fun _ table found => ⟨table.rows, same ▸ found, rfl⟩

theorem Writes.keepsKeys_iff {before after : Store} {name : String} {table : Table} {rows : List Row}
    (writes : before.Writes name table rows after) :
    before.KeepsKeys after ↔ table.schema.keysOf rows = table.schema.keysOf table.rows := by
  constructor
  next =>
    intro kept
    obtain ⟨found, there, same⟩ := kept name table writes.found
    cases writes.written.symm.trans there
    exact same
  next =>
    intro same other found there
    by_cases here : other = name
    next =>
      subst here
      cases writes.found.symm.trans there
      exact ⟨rows, writes.written, same⟩
    next => exact ⟨found.rows, (writes.kept other here).trans there, rfl⟩

theorem Writes.keepsKeys_replaced {before after : Store} {name id : String} {table : Table}
    {front rest : List Row} {old row : Row} (first : table.FirstMatch id front old rest)
    (writes : before.Writes name table (front ++ row :: rest) after) :
    before.KeepsKeys after ↔
      row.get? table.schema.primaryKey = old.get? table.schema.primaryKey := by
  rw [writes.keepsKeys_iff, first.rows_eq]
  simp [Schema.keysOf]

structure Rekeys (before : Store) (resource : Resource) (table : Table) (id : String)
    (body : List UInt8) (value : Json) (after : Store) : Prop where
  foreign : resource.primaryKey ≠ table.schema.primaryKey
  assigns : resource.Assigns table.schema.primaryKey
  given : ∃ fields : Row, Json.readBytes? body = some (.object fields) ∧
    fields.get? table.schema.primaryKey = some value
  written : ∃ front old rest row, table.FirstMatch id front old rest ∧
    before.Writes resource.table table (front ++ row :: rest) after ∧
    row.get? table.schema.primaryKey = some value ∧ old.get? table.schema.primaryKey ≠ some value

theorem Rekeys.not_keepsKeys {before after : Store} {resource : Resource} {table : Table}
    {id : String} {body : List UInt8} {value : Json}
    (rekeys : before.Rekeys resource table id body value after) : ¬before.KeepsKeys after := by
  obtain ⟨front, old, rest, row, first, writes, placed, other⟩ := rekeys.written
  rw [writes.keepsKeys_replaced first, placed]
  exact fun same => other same.symm

end Store

namespace Service

theorem update_keys (service : Service) (before after : Store) (slug id : String)
    (body : List UInt8) (response : Response)
    (updated : service.update before slug id body = .ok (response, after)) :
    before.KeepsKeys after ∨
      ∃ resource table value, service.registry.get slug = .ok resource ∧
        before.Rekeys resource table id body value after := by
  obtain ⟨resource, fields, table, front, old, rest, row, registered, read, first, writes, remakes, _⟩ :=
    update_effect service before after slug id body response updated
  have key := remakes table.schema.primaryKey
  by_cases same : row.get? table.schema.primaryKey = old.get? table.schema.primaryKey
  next => exact .inl ((writes.keepsKeys_replaced first).mpr same)
  next =>
    split at key
    next free =>
      cases given : fields.get? table.schema.primaryKey with
      | none =>
        rw [given] at key
        exact absurd key same
      | some value =>
        rw [given] at key
        have changed : old.get? table.schema.primaryKey ≠ some value :=
          fun earlier => same (key.trans earlier.symm)
        exact .inr ⟨resource, table, value, registered, free.2.symm, free.1, ⟨fields, read, given⟩,
          front, old, rest, row, first, writes, key, changed⟩
    next => exact absurd key same

theorem respond_update (service : Service) (store after : Store) (request : Request)
    (response : Response) (method : request.method = .put ∨ request.method = .patch)
    (answered : service.respond store request = (response, after)) :
    (¬response.Succeeds ∧ after.tables = store.tables) ∨
      ∃ slug id, service.routeOf? request = some (.update slug id) ∧
        service.update store slug id request.body = .ok (response, after) := by
  rcases respond_cases service store after request response answered with
    refused | ⟨route, routed, handled⟩
  next => exact .inl refused
  next =>
    have methods := mem_methods_of_route? _ _ _ _ route routed
    cases route with
    | update slug id => exact .inr ⟨slug, id, routed, handled⟩
    | _ => rcases method with method | method <;> simp [Route.methods, method] at methods

/-- An update whose resource has another key than the first resource of the table, with a body that
writes over the key of the table. -/
def Renumbers (service : Service) (request : Request) (before after : Store) : Prop :=
  ∃ slug id resource first table value, service.routeOf? request = some (.update slug id) ∧
    service.registry.get slug = .ok resource ∧
    service.registry.models.find? (·.table = resource.table) = some first ∧
    table.schema = first.schema ∧ before.Rekeys resource table id request.body value after

section

variable (host : Host) (config : Config) (service : Service) (initial : Store)
  (started : start host config = .ok (service, initial))

include started

theorem renumbers_of_changed (events : List Event) (request : Request) (after : Store)
    (response : Response) (method : request.method = .put ∨ request.method = .patch)
    (answered : service.respond (service.run initial events) request = (response, after))
    (changed : ¬(service.run initial events).KeepsKeys after) :
    service.Renumbers request (service.run initial events) after := by
  rcases respond_update service _ after request response method answered with
    ⟨_, same⟩ | ⟨slug, id, routed, updated⟩
  next => exact absurd (Store.keepsKeys_of_tables same) changed
  next =>
    obtain ⟨resource, table, value, registered, rekeys⟩ :=
      (update_keys service _ after slug id request.body response updated).resolve_left changed
    have member := service.registry.mem_models_of_get slug resource registered
    obtain ⟨first, rows, shared, there⟩ :=
      table_of_run host config service initial started events resource member
    obtain ⟨_, _, _, _, _, writes, _⟩ := rekeys.written
    cases writes.found.symm.trans there
    exact ⟨slug, id, resource, first, _, value, routed, registered, shared, rfl, rekeys⟩

-- Both resources come from configurations, which name the same table.
theorem not_agreesOnKeys_of_renumbers (request : Request) (before after : Store)
    (renumbers : service.Renumbers request before after) : ¬config.AgreesOnKeys := by
  intro agrees
  obtain ⟨slug, _, resource, first, table, _, _, registered, shared, defined, rekeys⟩ := renumbers
  have member := service.registry.mem_models_of_get slug resource registered
  obtain ⟨one, listed, made⟩ := config_of_start host config service initial started resource member
  obtain ⟨other, also, defines⟩ :=
    config_of_start host config service initial started first (List.mem_of_find?_eq_some shared)
  have sameTable : first.table = resource.table := by simpa using List.find?_some shared
  obtain rfl := Resource.eq_of_ofConfig one resource made
  obtain rfl := Resource.eq_of_ofConfig other first defines
  have sameKey : one.primaryKey = other.primaryKey := agrees one listed other also sameTable.symm
  apply rekeys.foreign
  rw [defined]
  exact sameKey

end

/-- An update keeps the key of every row unless it renumbers one, which takes resources that share a
table and have different keys. -/
theorem respond_keys (host : Host) (config : Config) (service : Service) (initial : Store)
    (started : start host config = .ok (service, initial)) (events : List Event) (request : Request)
    (method : request.method = .put ∨ request.method = .patch) :
    let before := service.run initial events
    let after := (service.respond before request).2
    (¬before.KeepsKeys after ↔ service.Renumbers request before after) ∧
    (config.AgreesOnKeys → before.KeepsKeys after) := by
  intro before after
  have renumbers (changed : ¬before.KeepsKeys after) : service.Renumbers request before after :=
    renumbers_of_changed host config service initial started events request after _ method rfl changed
  constructor
  next =>
    refine ⟨renumbers, ?_⟩
    rintro ⟨_, _, _, _, _, _, _, _, _, _, rekeys⟩
    exact rekeys.not_keepsKeys
  next =>
    intro agrees
    by_contra changed
    exact not_agreesOnKeys_of_renumbers host config service initial started request before after
      (renumbers changed) agrees

def sharedConfig (key : String) : Config where
  resources :=
    [{ slug := "members", table := some "users" },
      { slug := "visitors", table := some "users", primaryKey := key }]

def sharedService (key : String) : Service where
  host := .standalone
  registry :=
    { resources :=
        [("members", { slug := "members", table := "users" }),
          ("visitors", { slug := "visitors", table := "users", primaryKey := key })] }

def createAnn : Request :=
  usersRequest .post "/api/members" "\x7b\"id\":\"1\",\"name\":\"Ann\"\x7d"

def renumberAnn : Request :=
  usersRequest .put "/api/visitors/1" "\x7b\"id\":\"2\",\"name\":\"Bea\"\x7d"

theorem respond_keys_agreed :
    start .standalone (sharedConfig "id") = .ok (sharedService "id", emptyUsers) ∧
      let before := (sharedService "id").run emptyUsers [.request createAnn]
      before.KeepsKeys ((sharedService "id").respond before renumberAnn).2 := by
  have started : start .standalone (sharedConfig "id") = .ok (sharedService "id", emptyUsers) := rfl
  have agrees : (sharedConfig "id").AgreesOnKeys := by simp [Config.AgreesOnKeys, sharedConfig]
  have keys := respond_keys .standalone (sharedConfig "id") (sharedService "id") emptyUsers started
    [.request createAnn] renumberAnn (.inl rfl)
  exact ⟨started, keys.2 agrees⟩

def userIds (store : Store) : Option (String × List String) :=
  (store.tables.get? "users").map fun table =>
    (table.schema.primaryKey, table.rows.map fun row => (row.value "id").plainText)

theorem userIds_of_keepsKeys (before after : Store) (kept : before.KeepsKeys after)
    (ids : List String) (keyed : userIds before = some ("id", ids)) :
    userIds after = some ("id", ids) := by
  obtain ⟨table, found, made⟩ := Option.map_eq_some_iff.mp keyed
  obtain ⟨key, rfl⟩ := Prod.mk.inj made
  obtain ⟨rows, there, same⟩ := kept "users" table found
  have texts := congrArg (List.map fun value => (value.getD Json.null).plainText) same
  simp only [Schema.keysOf, key, List.map_map] at texts
  simp only [userIds, there, Option.map_some, key]
  exact congrArg (fun ids => some ("id", ids)) texts

theorem not_keepsKeys_shared :
    start .standalone (sharedConfig "code") = .ok (sharedService "code", emptyUsers) ∧
      let before := (sharedService "code").run emptyUsers [.request createAnn]
      ¬before.KeepsKeys ((sharedService "code").respond before renumberAnn).2 := by
  refine ⟨rfl, ?_⟩
  intro before kept
  have earlier : userIds before = some ("id", ["1"]) := by decide +kernel
  have later : userIds ((sharedService "code").respond before renumberAnn).2 =
      some ("id", ["2"]) := by decide +kernel
  have same := userIds_of_keepsKeys _ _ kept ["1"] earlier
  exact absurd (later.symm.trans same) (by decide)

end Service

end RowGate
