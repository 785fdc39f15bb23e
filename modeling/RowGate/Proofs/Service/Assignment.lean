import RowGate.Proofs.Service.Effects

set_option autoImplicit false

namespace RowGate

namespace Resource

/-- A row that is made of a body: its fillable columns, and a key that may be generated. -/
structure Stores (resource : Resource) (schema : Schema) (fields row : Row) (generated : String) :
    Prop where
  confined : ∀ key ∈ row.keys, key ∈ resource.fillable ∨ key = schema.primaryKey
  assigned : ∀ key ∈ resource.fillable,
    key ≠ schema.primaryKey ∨ (fields.value key).isNull = false → row.get? key = fields.get? key
  keyed : schema.primaryKey ∉ resource.fillable ∨ (fields.value schema.primaryKey).isNull = true →
    row.get? schema.primaryKey = some (.string generated)

/-- A row after an update: the fillable columns of the body, and the rest as it was. -/
structure Overwrites (resource : Resource) (fields old row : Row) : Prop where
  kept : ∀ column, column ∉ resource.fillable ∨ column = resource.primaryKey →
    row.get? column = old.get? column
  assigned : ∀ column ∈ resource.fillable, column ≠ resource.primaryKey →
    ∀ value, fields.get? column = some value → row.get? column = some value
  others : ∀ column, fields.get? column = none → row.get? column = old.get? column

variable {resource : Resource} {fields row : Row} (restricted : resource.fillable ≠ [])

include restricted

theorem assigns_iff (column : String) : resource.Assigns column ↔ column ∈ resource.fillable := by
  simp [Assigns, restricted]

theorem Makes.stores {schema : Schema} {generated : String}
    (makes : resource.Makes schema fields row generated) :
    resource.Stores schema fields row generated := by
  have assigns := assigns_iff restricted
  constructor
  next =>
    intro key member
    by_contra outside
    obtain ⟨foreign, other⟩ := not_or.mp outside
    have absent : row.get? key = none := by
      rw [makes key, if_neg (fun both => other both.1),
        if_neg (fun assigned => foreign ((assigns key).mp assigned))]
    exact (Keyed.get?_eq_none_iff _ key).mp absent member
  next =>
    intro key fillable given
    have assigned := (assigns key).mpr fillable
    rw [makes key, if_neg, if_pos assigned]
    rintro ⟨rfl, unset⟩
    rcases given with other | given
    next => exact other rfl
    next => exact unset ⟨assigned, given⟩
  next =>
    intro unset
    rw [makes, if_pos]
    refine ⟨rfl, fun given => ?_⟩
    rcases unset with foreign | null
    next => exact foreign ((assigns _).mp given.1)
    next => cases null.symm.trans given.2

theorem Remakes.overwrites {old : Row} (remakes : resource.Remakes fields old row) :
    resource.Overwrites fields old row := by
  have assigns := assigns_iff restricted
  constructor
  next =>
    intro column outside
    rw [remakes column, if_neg]
    rintro ⟨assigned, other⟩
    rcases outside with foreign | key
    next => exact foreign ((assigns column).mp assigned)
    next => exact other key
  next =>
    intro column fillable other value given
    rw [remakes column, if_pos ⟨(assigns column).mpr fillable, other⟩, given, Option.some_or]
  next =>
    intro column missing
    rw [remakes column, missing, Option.none_or]
    split <;> rfl

end Resource

namespace Service

section

variable (service : Service) (before after : Store) (slug : String) (body : List UInt8)
  (response : Response) (resource : Resource) (fields : Row)

theorem create_assignment (created : service.create before slug body = .ok (response, after))
    (registered : service.registry.get slug = .ok resource) (restricted : resource.fillable ≠ [])
    (read : Json.readBytes? body = some (.object fields)) :
    ∃ table row, before.Writes resource.table table (table.rows ++ [row]) after ∧
      response.Delivers 201 (.object row) none ∧
      resource.Stores table.schema fields row (before.newKey before.issued) := by
  obtain ⟨found, given, table, row, same, taken, writes, makes, delivers⟩ :=
    create_effect service before after slug body response created
  cases registered.symm.trans same
  cases read.symm.trans taken
  exact ⟨table, row, writes, delivers, makes.stores restricted⟩

theorem update_assignment (id : String)
    (updated : service.update before slug id body = .ok (response, after))
    (registered : service.registry.get slug = .ok resource) (restricted : resource.fillable ≠ [])
    (read : Json.readBytes? body = some (.object fields)) :
    ∃ table front old rest row, table.FirstMatch id front old rest ∧
      before.Writes resource.table table (front ++ row :: rest) after ∧
      response.Delivers 200 (.object row) none ∧ resource.Overwrites fields old row := by
  obtain ⟨found, given, table, front, old, rest, row, same, taken, first, writes, remakes, delivers⟩ :=
    update_effect service before after slug id body response updated
  cases registered.symm.trans same
  cases read.symm.trans taken
  exact ⟨table, front, old, rest, row, first, writes, delivers, remakes.overwrites restricted⟩

end

/-- A request that succeeds takes from its body what the allow-list of the resource lets through. -/
theorem respond_assignment (service : Service) (before after : Store) (request : Request)
    (response : Response) (slug : String) (resource : Resource) (fields : Row)
    (answered : service.respond before request = (response, after)) (succeeded : response.Succeeds)
    (registered : service.registry.get slug = .ok resource) (restricted : resource.fillable ≠ [])
    (read : Json.readBytes? request.body = some (.object fields)) :
    (service.routeOf? request = some (.create slug) →
      ∃ table row, before.Writes resource.table table (table.rows ++ [row]) after ∧
        response.Delivers 201 (.object row) none ∧
        resource.Stores table.schema fields row (before.newKey before.issued)) ∧
    ∀ id, service.routeOf? request = some (.update slug id) →
      ∃ table front old rest row, table.FirstMatch id front old rest ∧
        before.Writes resource.table table (front ++ row :: rest) after ∧
        response.Delivers 200 (.object row) none ∧ resource.Overwrites fields old row := by
  constructor
  next =>
    intro routed
    have created : service.create before slug request.body = .ok (response, after) :=
      handle_of_respond service before after request response (.create slug) routed answered succeeded
    exact create_assignment service before after slug request.body response resource fields created
      registered restricted read
  next =>
    intro id routed
    have updated : service.update before slug id request.body = .ok (response, after) :=
      handle_of_respond service before after request response (.update slug id) routed answered succeeded
    exact update_assignment service before after slug request.body response resource fields id updated
      registered restricted read

-- A body may write the id and the name of a user.
def namesService : Service where
  host := .standalone
  registry := { resources := [("users", { slug := "users", fillable := ["id", "name"] })] }

theorem respond_assignment_names :
    let resource : Resource := { slug := "users", fillable := ["id", "name"] }
    let body := "\x7b\"name\":\"Bea\",\"role\":\"admin\"\x7d"
    let create := usersRequest .post "/api/users" body
    let update := usersRequest .put "/api/users/1" body
    let after := fun request => (namesService.respond usersStore request).2
    let response := fun request => (namesService.respond usersStore request).1
    ∃ fields : Row, fields.keys = ["name", "role"] ∧
      (∃ table row, usersStore.Writes "users" table (table.rows ++ [row]) (after create) ∧
        (response create).Delivers 201 (.object row) none ∧
        resource.Stores table.schema fields row (Store.keyText 0)) ∧
      ∃ table front old rest row, table.FirstMatch "1" front old rest ∧
        usersStore.Writes "users" table (front ++ row :: rest) (after update) ∧
        (response update).Delivers 200 (.object row) none ∧ resource.Overwrites fields old row := by
  intro resource body create update after response
  have registered : namesService.registry.get "users" = .ok resource := rfl
  have object : ((Json.readBytes? (Text.Utf8.encode body.toList)).bind Json.asFields?).map Keyed.keys =
      some ["name", "role"] := by decide +kernel
  obtain ⟨fields, found, keys⟩ := Option.map_eq_some_iff.mp object
  obtain ⟨value, read, made⟩ := Option.bind_eq_some_iff.mp found
  obtain rfl : value = .object fields := by cases value <;> cases made; rfl
  have taken (request : Request) (succeeded : (response request).Succeeds) :=
    respond_assignment namesService usersStore (after request) request (response request) "users"
      resource fields rfl succeeded registered (by decide)
  have created : (response create).status = 201 := by decide +kernel
  have updated : (response update).status = 200 := by decide +kernel
  exact ⟨fields, keys, (taken create (by simp [Response.Succeeds, created]) read).1 rfl,
    (taken update (by simp [Response.Succeeds, updated]) read).2 "1" rfl⟩

end Service

end RowGate
