import RowGate.Proofs.Service.Keys
import RowGate.Proofs.Store.Repeating

set_option autoImplicit false

namespace RowGate

-- Rows that belong to rows of their own table do so by the key.
def Config.BelongsByKey (config : Config) : Prop :=
  ∀ resource ∈ config.resources, ∀ relation ∈ resource.relations, relation.many = false →
    relation.table = resource.tableName → relation.foreignKey = resource.primaryKey

namespace Service

-- The request is answered alike when it is sent again, and then no table changes.
def Repeats (service : Service) (store : Store) (request : Request) : Prop :=
  let first := service.respond store request
  let second := service.respond first.2 request
  second.1 = first.1 ∧ ∀ name, second.2.tables.get? name = first.2.tables.get? name

theorem update_eq (service : Service) (store after : Store) (slug id : String) (body : List UInt8)
    (resource : Resource) (fields row : Row) (registered : service.registry.get slug = .ok resource)
    (read : service.bodyRow body = .ok fields) (changed : resource.changes fields ≠ [])
    (updated : store.update resource.table id (resource.changes fields) = .ok (some row, after)) :
    service.update store slug id body = .ok (withData 200 (.object row), after) := by
  have kept := (nonempty_eq_ok_iff _ _).mpr ⟨changed, rfl⟩
  rw [Resource.changes] at kept updated
  simp only [update, registered, read, bind, Except.bind, kept, updated]

-- The size of a body does not depend on the store.
theorem respond_of_handle (service : Service) (store other after : Store) (request : Request)
    (route : Route) (response : Response) (routed : service.routeOf? request = some route)
    (succeeded : (service.respond store request).1.Succeeds)
    (handled : service.handle other request route = .ok (response, after)) :
    service.respond other request = (response, after) := by
  have found : route? service.basePath service.openApiEnabled request.method request.path =
      some route := routed
  rw [respond, found] at succeeded ⊢
  dsimp only at succeeded ⊢
  split
  next large =>
    rw [if_pos large] at succeeded
    simp [Response.Succeeds, Response.tooLarge] at succeeded
  next => rw [handled, Store.attempt]

/-- An update that was answered: the row it found, what it wrote over it, and where. -/
structure Replaces (service : Service) (request : Request) (before after : Store) (response : Response)
    (slug id : String) (resource : Resource) (table : Table) (front rest : List Row)
    (old values : Row) : Prop where
  routed : service.routeOf? request = some (.update slug id)
  registered : service.registry.get slug = .ok resource
  taken : ∃ fields, service.bodyRow request.body = .ok fields ∧ resource.changes fields = values
  changed : values ≠ []
  first : table.FirstMatch id front old rest
  accepted : before.Accepts table.schema (front ++ rest) (Store.overwrite old values)
  writes : before.Writes resource.table table (front ++ Store.overwrite old values :: rest) after
  answer : response = withData 200 (.object (Store.overwrite old values))
  delivers : response.Delivers 200 (.object (Store.overwrite old values)) none

theorem replaces_of_respond (service : Service) (before after : Store) (request : Request)
    (response : Response) (method : request.method = .put ∨ request.method = .patch)
    (answered : service.respond before request = (response, after)) (succeeded : response.Succeeds) :
    ∃ slug id resource table front rest old values,
      service.Replaces request before after response slug id resource table front rest old values := by
  obtain ⟨slug, id, routed, updated⟩ :=
    (respond_update service before after request response method answered).resolve_left
      fun refused => refused.1 succeeded
  obtain ⟨resource, fields, row, registered, read, changed, written, answer⟩ :=
    update_cases service before after slug id request.body response updated
  rcases Store.update_cases before after _ id _ _ written with
    ⟨missed, _⟩ | ⟨table, front, old, rest, row, placed, first, rfl, accepted, writes⟩
  next => cases missed
  next =>
    cases placed
    exact ⟨slug, id, resource, table, front, rest, old, _, routed, registered, ⟨fields, read, rfl⟩,
      changed, first, accepted, writes, answer, answer ▸ delivers_withData 200 _ rfl (by decide)⟩

namespace Replaces

variable {service : Service} {request : Request} {before after : Store} {response : Response}
  {slug id : String} {resource : Resource} {table : Table} {front rest : List Row} {old values : Row}

theorem distinct (replaces : service.Replaces request before after response slug id resource table
    front rest old values) : values.keys.Nodup := by
  obtain ⟨fields, read, rfl⟩ := replaces.taken
  have sorted := Json.sorted_of_readBytes? request.body fields (service.readBytes?_of_bodyRow _ fields read)
  exact (resource.sorted_changes fields sorted).nodup

theorem succeeded (replaces : service.Replaces request before after response slug id resource table
    front rest old values) : response.Succeeds := by
  simp [Response.Succeeds, replaces.delivers.answered]

theorem repeats_iff (replaces : service.Replaces request before after response slug id resource table
    front rest old values) (answered : service.respond before request = (response, after)) :
    service.Repeats before request ↔
      after.Settled resource.table table id (Store.overwrite old values) := by
  obtain ⟨fields, read, made⟩ := replaces.taken
  simp only [Repeats, answered]
  constructor
  next =>
    rintro ⟨same, kept⟩
    have again : service.respond after request =
        (response, (service.respond after request).2) := Prod.ext same rfl
    have handled := handle_of_respond service after _ request response _ replaces.routed again
      replaces.succeeded
    obtain ⟨other, others, row, registered, taken, _, updated, _⟩ :=
      update_cases service after _ slug id request.body response handled
    cases replaces.registered.symm.trans registered
    cases read.symm.trans taken
    rw [← Resource.changes, made] at updated
    exact Store.settled_of_again replaces.distinct replaces.first replaces.writes row _ updated kept
  next =>
    intro settled
    obtain ⟨last, updated, kept⟩ := Store.update_again replaces.distinct replaces.first
      replaces.accepted replaces.writes settled
    have handled : service.handle after request (.update slug id) = .ok (response, last) := by
      rw [replaces.answer]
      refine update_eq service after last slug id request.body resource fields _ replaces.registered
        read ?_ ?_
      next => rw [made]; exact replaces.changed
      next => rw [made]; exact updated
    have first : (service.respond before request).1.Succeeds := by
      rw [answered]
      exact replaces.succeeded
    have second := respond_of_handle service before after last request _ response replaces.routed first
      handled
    rw [second]
    exact ⟨rfl, kept⟩

-- The key of the table keeps its value, so the row is found, and it may itself be what it belongs to.
theorem settled (replaces : service.Replaces request before after response slug id resource table
    front rest old values) (kept : before.KeepsKeys after)
    (byKey : ∀ relation ∈ table.schema.relations, relation.many = false →
      relation.table = resource.table → relation.foreignKey = table.schema.primaryKey) :
    after.Settled resource.table table id (Store.overwrite old values) := by
  have key := (replaces.writes.keepsKeys_replaced replaces.first).mp kept
  constructor
  next =>
    have matched := replaces.first.matched
    rwa [Table.keyMatches, ← key] at matched
  next =>
    intro relation declared single self present
    have found := replaces.writes.found
    rw [← self] at found
    obtain ⟨other, member, same⟩ :=
      replaces.accepted.belongs relation declared single table found present
    have written := replaces.writes.written
    rw [← self] at written
    rw [replaces.first.rows_eq, List.mem_append, List.mem_cons] at member
    refine ⟨_, written, ?_⟩
    rcases member with early | rfl | late
    next => exact ⟨other, List.mem_append_left _ early, same⟩
    next =>
      refine ⟨_, List.mem_append_right _ List.mem_cons_self, ?_⟩
      rw [byKey relation declared single self] at same ⊢
      rwa [Row.value, key]
    next => exact ⟨other, List.mem_append_right _ (List.mem_cons_of_mem _ late), same⟩

end Replaces

section

variable (host : Host) (config : Config) (service : Service) (initial : Store)
  (started : start host config = .ok (service, initial))

include started

theorem keepsKeys_of_agreesOnKeys (events : List Event) (request : Request) (after : Store)
    (response : Response) (method : request.method = .put ∨ request.method = .patch)
    (answered : service.respond (service.run initial events) request = (response, after))
    (agrees : config.AgreesOnKeys) : (service.run initial events).KeepsKeys after := by
  by_contra changed
  have renumbers := renumbers_of_changed host config service initial started events request after response
    method answered changed
  exact not_agreesOnKeys_of_renumbers host config service initial started request _ after renumbers agrees

-- The table has the schema of the first resource that shares it.
theorem foreignKey_of_belongsByKey (events : List Event) (slug : String) (resource : Resource)
    (registered : service.registry.get slug = .ok resource) (table : Table)
    (found : (service.run initial events).tables.get? resource.table = some table)
    (byKey : config.BelongsByKey) (relation : Relation) (declared : relation ∈ table.schema.relations)
    (single : relation.many = false) (self : relation.table = resource.table) :
    relation.foreignKey = table.schema.primaryKey := by
  have member := service.registry.mem_models_of_get slug resource registered
  obtain ⟨first, rows, shared, there⟩ :=
    table_of_run host config service initial started events resource member
  cases found.symm.trans there
  obtain ⟨source, listed, made⟩ :=
    config_of_start host config service initial started first (List.mem_of_find?_eq_some shared)
  have same : first.table = resource.table := by simpa using List.find?_some shared
  obtain rfl := Resource.eq_of_ofConfig source first made
  exact byKey source listed relation declared single (self.trans same.symm)

end

/-- An update that was answered goes through again, with the same answer and no change to a table,
exactly when the row it wrote is settled. -/
theorem respond_repeated (host : Host) (config : Config) (service : Service) (initial after : Store)
    (started : start host config = .ok (service, initial)) (events : List Event) (request : Request)
    (response : Response) (method : request.method = .put ∨ request.method = .patch)
    (answered : service.respond (service.run initial events) request = (response, after))
    (status : response.status = 200) :
    let before := service.run initial events
    (∃ slug id resource table front rest old values,
      service.Replaces request before after response slug id resource table front rest old values ∧
        (service.Repeats before request ↔
          after.Settled resource.table table id (Store.overwrite old values))) ∧
    (config.AgreesOnKeys → config.BelongsByKey → service.Repeats before request) := by
  intro before
  have succeeded : response.Succeeds := by simp [Response.Succeeds, status]
  obtain ⟨slug, id, resource, table, front, rest, old, values, replaces⟩ :=
    replaces_of_respond service before after request response method answered succeeded
  have repeats := replaces.repeats_iff answered
  refine ⟨⟨slug, id, resource, table, front, rest, old, values, replaces, repeats⟩, ?_⟩
  intro agrees byKey
  have kept := keepsKeys_of_agreesOnKeys host config service initial started events request after response
    method answered agrees
  have foreign := foreignKey_of_belongsByKey host config service initial started events slug resource
    replaces.registered table replaces.writes.found byKey
  exact repeats.mpr (replaces.settled kept foreign)

def chief (key : String) : Relation where
  name := "chief"
  table := "staff"
  localKey := "boss"
  foreignKey := key

def staffConfig (key : String) : Config where
  resources := [{ slug := "staff", relations := [chief key] }]

def staffService (key : String) : Service where
  host := .standalone
  registry :=
    { resources := [("staff", { slug := "staff", table := "staff", relations := [chief key] })] }

def emptyStaff (key : String) : Store where
  newKey := Store.keyText
  tables := [("staff", { schema := { name := "staff", relations := [chief key] } })]

def hire : Request :=
  usersRequest .post "/api/staff" "\x7b\"id\":\"1\",\"code\":\"a\"\x7d"

def promote (boss : String) : Request :=
  usersRequest .put "/api/staff/1" ("\x7b\"boss\":\"" ++ boss ++ "\",\"code\":\"b\"\x7d")

theorem respond_repeated_staff :
    start .standalone (staffConfig "id") = .ok (staffService "id", emptyStaff "id") ∧
      let before := (staffService "id").run (emptyStaff "id") [.request hire]
      ((staffService "id").respond before (promote "1")).1.status = 200 ∧
        (staffService "id").Repeats before (promote "1") := by
  have started : start .standalone (staffConfig "id") = .ok (staffService "id", emptyStaff "id") := rfl
  have agrees : (staffConfig "id").AgreesOnKeys := by simp [Config.AgreesOnKeys, staffConfig]
  have byKey : (staffConfig "id").BelongsByKey := by simp [Config.BelongsByKey, staffConfig, chief]
  have status : ((staffService "id").respond
      ((staffService "id").run (emptyStaff "id") [.request hire]) (promote "1")).1.status = 200 := by
    decide +kernel
  have repeated := respond_repeated .standalone (staffConfig "id") (staffService "id") (emptyStaff "id") _ started
    [.request hire] (promote "1") _ (.inl rfl) Prod.mk.eta.symm status
  exact ⟨started, status, repeated.2 agrees byKey⟩

theorem not_repeats_chief :
    start .standalone (staffConfig "code") = .ok (staffService "code", emptyStaff "code") ∧
      let before := (staffService "code").run (emptyStaff "code") [.request hire]
      let first := (staffService "code").respond before (promote "a")
      let second := (staffService "code").respond first.2 (promote "a")
      first.1.status = 200 ∧ second.1.status = 409 ∧
        ¬(staffService "code").Repeats before (promote "a") := by
  refine ⟨rfl, ?_⟩
  intro before first second
  have answered : first.1.status = 200 := by decide +kernel
  have conflicted : second.1.status = 409 := by decide +kernel
  refine ⟨answered, conflicted, ?_⟩
  rintro ⟨same, -⟩
  have status : second.1.status = first.1.status := congrArg Response.status same
  rw [conflicted, answered] at status
  cases status

end Service

end RowGate
