import RowGate.Proofs.Envelope.Responses
import RowGate.Proofs.Service.Bodies
import RowGate.Proofs.Service.Handlers
import RowGate.Proofs.Store.Writes
import RowGate.Service.Standalone

set_option autoImplicit false

namespace RowGate

def Response.Succeeds (response : Response) : Prop :=
  200 ≤ response.status ∧ response.status < 300

theorem Response.not_succeeds_ofError (error : Error) (debug : Bool) :
    ¬(Response.ofError error debug).Succeeds := by
  have status : (Response.ofError error debug).status = error.status := rfl
  rw [Response.Succeeds, status, Error.status]
  cases error.errorClass <;> decide

theorem Store.tables_attempt_of_error {α : Type} (store after : Store)
    (change : Except Error (α × Store)) (fault : Error)
    (failed : store.attempt change = (.error fault, after)) : after.tables = store.tables := by
  cases change with
  | error error =>
    simp only [Store.attempt, Prod.mk.injEq] at failed
    rw [← failed.2]
  | ok result => simp [Store.attempt] at failed

theorem Store.eq_ok_of_attempt {α : Type} (store after : Store)
    (change : Except Error (α × Store)) (value : α)
    (done : store.attempt change = (.ok value, after)) : change = .ok (value, after) := by
  cases change with
  | error error => simp [Store.attempt] at done
  | ok result =>
    simp only [Store.attempt, Prod.mk.injEq, Except.ok.injEq] at done
    rw [← done.1, ← done.2]

namespace Service

def routeOf? (service : Service) (request : Request) : Option Route :=
  route? service.basePath service.openApiEnabled request.method request.path

section

variable (service : Service) (request : Request) (before after : Store) (response : Response)

/-- A row made of the body stands behind the rows that were there, and the answer brings it. -/
def Created : Prop :=
  ∃ slug resource, ∃ fields : Row, ∃ table row, service.routeOf? request = some (.create slug) ∧
    service.registry.get slug = .ok resource ∧
    Json.readBytes? request.body = some (.object fields) ∧
    before.Writes resource.table table (table.rows ++ [row]) after ∧
    resource.Makes table.schema fields row (before.newKey before.issued) ∧
    response.Delivers 201 (.object row) none

/-- The first row that matches the id is remade in its place, and the answer brings it. -/
def Updated : Prop :=
  ∃ slug id resource, ∃ fields : Row, ∃ table front old rest row,
    service.routeOf? request = some (.update slug id) ∧
    service.registry.get slug = .ok resource ∧
    Json.readBytes? request.body = some (.object fields) ∧
    table.FirstMatch id front old rest ∧
    before.Writes resource.table table (front ++ row :: rest) after ∧
    resource.Remakes fields old row ∧
    response.Delivers 200 (.object row) none

def Deleted : Prop :=
  ∃ slug id resource table front old rest,
    service.routeOf? request = some (.delete slug id) ∧
    service.registry.get slug = .ok resource ∧
    table.FirstMatch id front old rest ∧
    before.Writes resource.table table (front ++ rest) after ∧
    response = .noContent

inductive Effect : Prop
  | refused (failed : ¬response.Succeeds) (same : after.tables = before.tables)
  | read (method : request.method = .get) (same : after.tables = before.tables)
  | created (method : request.method = .post) (created : Created service request before after response)
  | updated (method : request.method = .put ∨ request.method = .patch)
      (updated : Updated service request before after response)
  | deleted (method : request.method = .delete)
      (deleted : Deleted service request before after response)

end

theorem delivers_withData (status : Nat) (row : Row) (success : Status.isSuccess status = true)
    (filled : status ≠ 204) : (withData status (.object row)).Delivers status (.object row) none :=
  delivers_ofEnvelope status (.object row) none success filled rfl

theorem create_effect (service : Service) (store after : Store) (slug : String) (body : List UInt8)
    (response : Response) (created : service.create store slug body = .ok (response, after)) :
    ∃ resource, ∃ fields : Row, ∃ table row, service.registry.get slug = .ok resource ∧
      Json.readBytes? body = some (.object fields) ∧
      store.Writes resource.table table (table.rows ++ [row]) after ∧
      resource.Makes table.schema fields row (store.newKey store.issued) ∧
      response.Delivers 201 (.object row) none := by
  obtain ⟨resource, fields, row, registered, read, _, inserted, rfl⟩ :=
    create_cases service store after slug body response created
  obtain ⟨table, rfl, _, writes⟩ := Store.insert_cases store after _ _ row inserted
  exact ⟨resource, fields, table, _, registered, service.readBytes?_of_bodyRow body fields read, writes,
    resource.makes_withKey fields store table, delivers_withData 201 _ rfl (by decide)⟩

theorem update_effect (service : Service) (store after : Store) (slug id : String)
    (body : List UInt8) (response : Response)
    (updated : service.update store slug id body = .ok (response, after)) :
    ∃ resource, ∃ fields : Row, ∃ table front old rest row, service.registry.get slug = .ok resource ∧
      Json.readBytes? body = some (.object fields) ∧
      table.FirstMatch id front old rest ∧
      store.Writes resource.table table (front ++ row :: rest) after ∧
      resource.Remakes fields old row ∧ response.Delivers 200 (.object row) none := by
  obtain ⟨resource, fields, row, registered, read, _, written, rfl⟩ :=
    update_cases service store after slug id body response updated
  have object := service.readBytes?_of_bodyRow body fields read
  have sorted := Json.sorted_of_readBytes? body fields object
  rcases Store.update_cases store after resource.table id _ _ written with
    ⟨missed, _⟩ | ⟨table, front, old, rest, _, placed, first, rfl, _, writes⟩
  next => cases missed
  next =>
    cases placed
    exact ⟨resource, fields, table, front, old, rest, _, registered, object, first, writes,
      resource.remakes_overwrite fields old sorted, delivers_withData 200 _ rfl (by decide)⟩

theorem handle_effect (service : Service) (store after : Store) (request : Request) (route : Route)
    (response : Response) (routed : service.routeOf? request = some route)
    (handled : service.handle store request route = .ok (response, after)) :
    service.Effect request store after response := by
  have methods := mem_methods_of_route? _ _ _ _ route routed
  cases route with
  | health =>
    simp only [handle, Except.ok.injEq, Prod.mk.injEq] at handled
    exact .read (by simpa [Route.methods] using methods) (by rw [handled.2])
  | document =>
    simp only [handle, Except.ok.injEq, Prod.mk.injEq] at handled
    exact .read (by simpa [Route.methods] using methods) (by rw [handled.2])
  | list slug =>
    have same := eq_of_list service store after slug request.query response handled
    exact .read (by simpa [Route.methods] using methods) (by rw [same])
  | fetch slug id =>
    obtain ⟨_, _, _, _, _, same⟩ := fetch_cases service store after slug id response handled
    exact .read (by simpa [Route.methods] using methods) (by rw [same])
  | create slug =>
    obtain ⟨resource, fields, table, row, registered, read, writes, makes, delivers⟩ :=
      create_effect service store after slug request.body response handled
    exact .created (by simpa [Route.methods] using methods)
      ⟨slug, resource, fields, table, row, routed, registered, read, writes, makes, delivers⟩
  | update slug id =>
    obtain ⟨resource, fields, table, front, old, rest, row, effect⟩ :=
      update_effect service store after slug id request.body response handled
    exact .updated (by simpa [Route.methods] using methods)
      ⟨slug, id, resource, fields, table, front, old, rest, row, routed, effect⟩
  | delete slug id =>
    obtain ⟨resource, registered, deleted, answered⟩ :=
      delete_cases service store after slug id response handled
    rcases Store.delete_cases store after resource.table id true deleted with
      ⟨missed, _⟩ | ⟨table, front, old, rest, _, first, writes⟩
    next => cases missed
    next =>
      exact .deleted (by simpa [Route.methods] using methods)
        ⟨slug, id, resource, table, front, old, rest, routed, registered, first, writes, answered⟩

theorem respond_cases (service : Service) (store after : Store) (request : Request)
    (response : Response) (answered : service.respond store request = (response, after)) :
    (¬response.Succeeds ∧ after.tables = store.tables) ∨
      ∃ route, service.routeOf? request = some route ∧
        service.handle store request route = .ok (response, after) := by
  rw [respond] at answered
  split at answered
  next =>
    cases answered
    exact .inl ⟨by simp [Response.Succeeds, Response.notFound], rfl⟩
  next route found =>
    split at answered
    next =>
      cases answered
      exact .inl ⟨by simp [Response.Succeeds, Response.tooLarge], rfl⟩
    next =>
      split at answered
      next result changed done =>
        cases answered
        exact .inr ⟨route, found, store.eq_ok_of_attempt after _ response done⟩
      next fault changed failed =>
        cases answered
        exact .inl ⟨Response.not_succeeds_ofError fault service.debug,
          store.tables_attempt_of_error after _ fault failed⟩

theorem handle_of_respond (service : Service) (store after : Store) (request : Request)
    (response : Response) (route : Route) (routed : service.routeOf? request = some route)
    (answered : service.respond store request = (response, after)) (succeeded : response.Succeeds) :
    service.handle store request route = .ok (response, after) := by
  rcases respond_cases service store after request response answered with
    ⟨failed, _⟩ | ⟨found, same, handled⟩
  next => exact absurd succeeded failed
  next =>
    cases routed.symm.trans same
    exact handled

theorem respond_effect (service : Service) (store : Store) (request : Request) :
    service.Effect request store (service.respond store request).2
      (service.respond store request).1 := by
  rcases respond_cases service store _ request _ rfl with ⟨failed, same⟩ | ⟨route, routed, handled⟩
  next => exact .refused failed same
  next => exact handle_effect service store _ request route _ routed handled

section

variable {service : Service} {request : Request} {before after : Store} {response : Response}

theorem Created.status (created : service.Created request before after response) :
    response.status = 201 := by
  obtain ⟨_, _, _, _, _, _, _, _, _, _, delivers⟩ := created
  exact delivers.answered

theorem Updated.status (updated : service.Updated request before after response) :
    response.status = 200 := by
  obtain ⟨_, _, _, _, _, _, _, _, _, _, _, _, _, _, _, delivers⟩ := updated
  exact delivers.answered

theorem Deleted.status (deleted : service.Deleted request before after response) :
    response.status = 204 := by
  obtain ⟨_, _, _, _, _, _, _, _, _, _, _, rfl⟩ := deleted
  rfl

end

theorem respond_tables_or_writes (service : Service) (store : Store) (request : Request) :
    (service.respond store request).2.tables = store.tables ∨
      ∃ name table rows, store.Writes name table rows (service.respond store request).2 := by
  cases respond_effect service store request with
  | refused failed same => exact .inl same
  | read method same => exact .inl same
  | created method created =>
    obtain ⟨_, _, _, _, _, _, _, _, writes, _⟩ := created
    exact .inr ⟨_, _, _, writes⟩
  | updated method updated =>
    obtain ⟨_, _, _, _, _, _, _, _, _, _, _, _, _, writes, _⟩ := updated
    exact .inr ⟨_, _, _, writes⟩
  | deleted method deleted =>
    obtain ⟨_, _, _, _, _, _, _, _, _, _, writes, _⟩ := deleted
    exact .inr ⟨_, _, _, writes⟩

/-- A table changes only by a write that is answered with success, and then by that row alone. -/
theorem respond_writes (service : Service) (store after : Store) (request : Request)
    (response : Response) (answered : service.respond store request = (response, after)) :
    (¬response.Succeeds ∨ request.method = .get → after.tables = store.tables) ∧
    (request.method = .post → response.status = 201 →
      service.Created request store after response) ∧
    (request.method = .put ∨ request.method = .patch → response.status = 200 →
      service.Updated request store after response) ∧
    (request.method = .delete → response.status = 204 →
      service.Deleted request store after response) := by
  have effect : service.Effect request store after response := by
    simpa only [answered] using respond_effect service store request
  cases effect with
  | refused failed same =>
    rw [Response.Succeeds] at failed
    exact ⟨fun _ => same, by omega, by omega, by omega⟩
  | read method same => exact ⟨fun _ => same, by simp [method], by simp [method], by simp [method]⟩
  | created method created =>
    refine ⟨?_, fun _ _ => created, by simp [method], by simp [method]⟩
    simp [Response.Succeeds, created.status, method]
  | updated method updated =>
    rcases method with method | method <;>
      refine ⟨?_, by simp [method], fun _ _ => updated, by simp [method]⟩ <;>
      simp [Response.Succeeds, updated.status, method]
  | deleted method deleted =>
    refine ⟨?_, by simp [method], by simp [method], fun _ _ => deleted⟩
    simp [Response.Succeeds, deleted.status, method]

def usersService : Service where
  host := .standalone
  registry := { resources := [("users", { slug := "users" })] }

def usersStore : Store where
  newKey := Store.keyText
  tables :=
    [("users",
      { schema := { name := "users" }
        rows := [[("id", .string "1"), ("name", .string "Ann")]] })]

def emptyUsers : Store where
  newKey := Store.keyText
  tables := [("users", { schema := { name := "users" } })]

def usersRequest (method : Method) (path body : String) : Request where
  method := method
  path := path.toList
  query := ""
  body := Text.Utf8.encode body.toList

theorem respond_writes_users :
    let create := usersRequest .post "/api/users" "\x7b\"id\":\"2\"\x7d"
    let conflict := usersRequest .post "/api/users" "\x7b\"id\":\"1\"\x7d"
    let update := usersRequest .put "/api/users/1" "\x7b\"name\":\"Bea\"\x7d"
    let delete := usersRequest .delete "/api/users/1" ""
    let after := fun request => (usersService.respond usersStore request).2
    let response := fun request => (usersService.respond usersStore request).1
    usersService.Created create usersStore (after create) (response create) ∧
      (response create).body =
        "\x7b\"data\":\x7b\"id\":\"2\"\x7d,\"count\":null,\"error\":null\x7d".toList ∧
      (after conflict).tables = usersStore.tables ∧
      usersService.Updated update usersStore (after update) (response update) ∧
      (response update).body =
        "\x7b\"data\":\x7b\"id\":\"1\",\"name\":\"Bea\"\x7d,\"count\":null,\"error\":null\x7d".toList ∧
      usersService.Deleted delete usersStore (after delete) (response delete) := by
  intro create conflict update delete after response
  have writes (request : Request) :=
    respond_writes usersService usersStore (after request) request (response request) rfl
  have refused : ¬(response conflict).Succeeds := by
    have status : (response conflict).status = 409 := by decide +kernel
    simp [Response.Succeeds, status]
  exact ⟨(writes create).2.1 rfl (by decide +kernel), by decide +kernel,
    (writes conflict).1 (.inl refused), (writes update).2.2.1 (.inl rfl) (by decide +kernel),
    by decide +kernel, (writes delete).2.2.2 rfl (by decide +kernel)⟩

end Service

end RowGate
