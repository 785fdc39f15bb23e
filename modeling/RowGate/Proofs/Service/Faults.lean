import RowGate.Proofs.Query.Faults
import RowGate.Proofs.Service.Paging
import RowGate.Proofs.Service.Starting
import RowGate.Proofs.Store.Faults

set_option autoImplicit false

namespace RowGate

def Config.RelatesWithin (config : Config) : Prop :=
  ∀ one ∈ config.resources, ∀ relation ∈ one.relations,
    ∃ other ∈ config.resources, other.tableName = relation.table

def Response.Refuses (response : Response) : Prop :=
  400 ≤ response.status ∧ response.status < 500

theorem Response.succeeds_of_status (response : Response) (n : Nat) (status : response.status = n)
    (range : 200 ≤ n ∧ n < 300) : response.Succeeds := by
  subst status
  exact range

theorem Response.refuses_of_status (response : Response) (n : Nat) (status : response.status = n)
    (range : 400 ≤ n ∧ n < 500) : response.Refuses := by
  subst status
  exact range

theorem Registry.not_isInternal_get (registry : Registry) (slug : String) :
    ¬IsInternal (registry.get slug) := by
  have checked : ¬IsInternal (checkIdentifier slug) := by
    unfold checkIdentifier
    split
    next => exact not_isInternal_ok ()
    next => simp [Error.errorClass]
  refine not_isInternal_bind _ _ checked fun _ _ => ?_
  split
  next => exact not_isInternal_ok _
  next => simp [Error.errorClass]

namespace Service

theorem not_isInternal_bodyRow (service : Service) (body : List UInt8) :
    ¬IsInternal (service.bodyRow body) := by
  unfold bodyRow
  split
  next => simp [Error.errorClass]
  next => split <;> simp [Error.errorClass]

theorem not_isInternal_nonempty (values : Row) : ¬IsInternal (nonempty values) := by
  unfold nonempty
  split <;> simp [Error.errorClass]

section

variable (service : Service) (store : Store)
  (furnished : ∀ resource ∈ service.registry.models, store.tables.get? resource.table ≠ none)

include furnished

theorem exists_table (slug : String) (resource : Resource)
    (registered : service.registry.get slug = .ok resource) :
    ∃ table, store.tables.get? resource.table = some table := by
  have member := service.registry.mem_models_of_get slug resource registered
  exact Option.ne_none_iff_exists'.mp (furnished resource member)

theorem not_isInternal_fetch (slug id : String) : ¬IsInternal (service.fetch store slug id) := by
  refine not_isInternal_bind _ _ (service.registry.not_isInternal_get slug) fun resource registered => ?_
  obtain ⟨table, found⟩ := exists_table service store furnished slug resource registered
  refine not_isInternal_bind _ _ (store.not_isInternal_find resource.table id table found) fun row? _ => ?_
  cases row? with
  | none => simp [Error.errorClass]
  | some row => exact not_isInternal_ok _

theorem not_isInternal_create (slug : String) (body : List UInt8) :
    ¬IsInternal (service.create store slug body) := by
  refine not_isInternal_bind _ _ (service.registry.not_isInternal_get slug) fun resource registered => ?_
  obtain ⟨table, found⟩ := exists_table service store furnished slug resource registered
  refine not_isInternal_bind _ _ (not_isInternal_bodyRow service body) fun fields _ => ?_
  refine not_isInternal_bind _ _ (not_isInternal_nonempty _) fun values _ => ?_
  exact not_isInternal_bind _ _ (store.not_isInternal_insert resource.table values table found)
    fun _ _ => not_isInternal_ok _

theorem not_isInternal_update (slug id : String) (body : List UInt8) :
    ¬IsInternal (service.update store slug id body) := by
  refine not_isInternal_bind _ _ (service.registry.not_isInternal_get slug) fun resource registered => ?_
  obtain ⟨table, found⟩ := exists_table service store furnished slug resource registered
  refine not_isInternal_bind _ _ (not_isInternal_bodyRow service body) fun fields _ => ?_
  refine not_isInternal_bind _ _ (not_isInternal_nonempty _) fun values _ => ?_
  refine not_isInternal_bind _ _ (store.not_isInternal_update resource.table id values table found)
    fun updated _ => ?_
  obtain ⟨row?, after⟩ := updated
  cases row? with
  | none => simp [Error.errorClass]
  | some row => exact not_isInternal_ok _

theorem not_isInternal_delete (slug id : String) : ¬IsInternal (service.delete store slug id) := by
  refine not_isInternal_bind _ _ (service.registry.not_isInternal_get slug) fun resource registered => ?_
  obtain ⟨table, found⟩ := exists_table service store furnished slug resource registered
  refine not_isInternal_bind _ _ (store.not_isInternal_delete resource.table id table found)
    fun deleted _ => ?_
  obtain ⟨done, after⟩ := deleted
  cases done with
  | false => simp [Error.errorClass]
  | true => exact not_isInternal_ok _

-- Where the rows are selected, they can be counted, so only the selection may fail.
omit furnished in
theorem isInternal_rows_iff (resource : Resource) (query : Query) :
    IsInternal (do
      let rows ← store.select service.host.engine resource.table query
      let count ← if query.count then
          some <$> store.count service.host.engine resource.table query
        else .ok none
      let envelope := Envelope.ok (.array (rows.map .object)) 200
      .ok (Response.ofEnvelope (envelope.withCount count), store)) ↔
      IsInternal (store.select service.host.engine resource.table query) := by
  rw [isInternal_bind_iff, or_iff_left]
  rintro ⟨rows, selected, broken⟩
  obtain ⟨n, counted⟩ := (store.paged service.host.engine resource.table query).counted rows selected
  rw [counted] at broken
  split at broken <;> exact not_isInternal_ok _ broken

theorem isInternal_list_iff (slug text : String) :
    IsInternal (service.list store slug text) ↔
      ∃ resource table query, service.registry.get slug = .ok resource ∧
        store.tables.get? resource.table = some table ∧
        Query.ofText service.options text = .ok query ∧
        (∃ rows, store.select service.host.engine resource.table query.bare = .ok rows) ∧
        store.StrandsOn table.schema query.load := by
  have got := service.registry.not_isInternal_get slug
  have read := Query.not_isInternal_ofText service.options text
  rw [list, isInternal_bind_iff, or_iff_right got]
  constructor
  next =>
    rintro ⟨resource, registered, broken⟩
    obtain ⟨table, found⟩ := exists_table service store furnished slug resource registered
    rw [isInternal_bind_iff, or_iff_right read] at broken
    obtain ⟨query, parsed, broken⟩ := broken
    rw [isInternal_rows_iff,
      store.isInternal_select_iff service.host.engine resource.table _ table found] at broken
    exact ⟨resource, table, query, registered, found, parsed, broken⟩
  next =>
    rintro ⟨resource, table, query, registered, found, parsed, stranded⟩
    refine ⟨resource, registered, ?_⟩
    rw [isInternal_bind_iff, or_iff_right read]
    refine ⟨query, parsed, ?_⟩
    rw [isInternal_rows_iff, store.isInternal_select_iff service.host.engine resource.table _ table found]
    exact stranded

theorem isInternal_handle_iff (request : Request) (route : Route) :
    IsInternal (service.handle store request route) ↔
      ∃ slug, route = .list slug ∧ IsInternal (service.list store slug request.query) := by
  cases route with
  | health | document => simp [handle]
  | list slug => simp [handle]
  | fetch slug id => simp [handle, not_isInternal_fetch service store furnished]
  | create slug => simp [handle, not_isInternal_create service store furnished]
  | update slug id => simp [handle, not_isInternal_update service store furnished]
  | delete slug id => simp [handle, not_isInternal_delete service store furnished]

end

theorem succeeds_of_handle (service : Service) (store after : Store) (request : Request)
    (route : Route) (response : Response)
    (handled : service.handle store request route = .ok (response, after)) : response.Succeeds := by
  cases route with
  | health | document =>
    cases handled
    exact Response.succeeds_of_status _ 200 rfl (by decide)
  | list slug =>
    obtain ⟨_, _, _, _, _, _, _, _, rfl⟩ :=
      list_cases service store after slug request.query response handled
    exact Response.succeeds_of_status _ 200 rfl (by decide)
  | fetch slug id =>
    obtain ⟨_, _, _, _, rfl, _⟩ := fetch_cases service store after slug id response handled
    exact Response.succeeds_of_status _ 200 rfl (by decide)
  | create slug =>
    obtain ⟨_, _, _, _, _, _, _, rfl⟩ :=
      create_cases service store after slug request.body response handled
    exact Response.succeeds_of_status _ 201 rfl (by decide)
  | update slug id =>
    obtain ⟨_, _, _, _, _, _, _, rfl⟩ :=
      update_cases service store after slug id request.body response handled
    exact Response.succeeds_of_status _ 200 rfl (by decide)
  | delete slug id =>
    obtain ⟨_, _, _, rfl⟩ := delete_cases service store after slug id response handled
    exact Response.succeeds_of_status _ 204 rfl (by decide)

theorem respond_classes (service : Service) (store after : Store) (request : Request)
    (response : Response) (answered : service.respond store request = (response, after)) :
    response.Succeeds ∨ response.Refuses ∨ response.status = 500 := by
  rw [respond] at answered
  split at answered
  next =>
    cases answered
    exact .inr (.inl (Response.refuses_of_status _ 404 rfl (by decide)))
  next route _ =>
    split at answered
    next =>
      cases answered
      exact .inr (.inl (Response.refuses_of_status _ 413 rfl (by decide)))
    next =>
      split at answered
      next result changed done =>
        cases answered
        have handled := store.eq_ok_of_attempt after _ response done
        exact .inl (succeeds_of_handle service store after request route response handled)
      next fault changed failed =>
        cases answered
        rcases fault.status_cases with ⟨internal, _⟩ | ⟨refused, _⟩
        next => exact .inr (.inr internal)
        next => exact .inr (.inl refused)

theorem respond_internal_iff (service : Service) (store : Store) (request : Request)
    (furnished : ∀ resource ∈ service.registry.models, store.tables.get? resource.table ≠ none) :
    (service.respond store request).1.status = 500 ↔
      ∃ slug, service.routeOf? request = some (.list slug) ∧
        IsInternal (service.list store slug request.query) := by
  have handler (route : Route) := isInternal_handle_iff service store furnished request route
  rw [respond, ← routeOf?]
  split
  next missed => simp [missed, Response.notFound]
  next route routed =>
    simp only [routed, Option.some.injEq, ← handler]
    split
    next large =>
      have harmless : ¬IsInternal (service.handle store request route) := by
        rw [handler]
        rintro ⟨slug, rfl, _⟩
        simp [Route.readsBody] at large
      simp [Response.tooLarge, harmless]
    next =>
      cases handled : service.handle store request route with
      | ok result =>
        have succeeded := succeeds_of_handle service store result.2 request route _ handled
        have least : result.1.status ≠ 500 := by
          intro internal
          simp [Response.Succeeds, internal] at succeeded
        simpa [Store.attempt] using least
      | error fault =>
        have status : (Response.ofError fault service.debug).status = fault.status := rfl
        rcases fault.status_cases with ⟨internal, same⟩ | ⟨refused, other⟩
        next => simp [Store.attempt, status, internal, same]
        next =>
          have least : fault.status ≠ 500 := by omega
          simp [Store.attempt, status, least, other]

end Service

def Registry.Keeps (registry : Registry) (table : String) : Prop :=
  ∃ resource ∈ registry.models, resource.table = table

/--
The request is for a list that loads a relation to a table of no resource: the first resource of the
listed table declares the relation, the rest of the query goes through, and the relations in front lead
to tables of resources.
-/
def Service.Strands (service : Service) (store : Store) (request : Request) : Prop :=
  ∃ slug resource first query rows early name late stray,
    service.routeOf? request = some (.list slug) ∧
      service.registry.get slug = .ok resource ∧
      service.registry.models.find? (·.table = resource.table) = some first ∧
      Query.ofText service.options request.query = .ok query ∧
      store.select service.host.engine resource.table query.bare = .ok rows ∧
      query.load = early ++ name :: late ∧
      (∀ other ∈ early, ∃ relation, first.schema.relation? other = some relation ∧
        service.registry.Keeps relation.table) ∧
      first.schema.relation? name = some stray ∧ ¬service.registry.Keeps stray.table

namespace Service

theorem strandsOn_of_run_iff (host : Host) (config : Config) (service : Service) (initial : Store)
    (started : start host config = .ok (service, initial)) (requests : List Request) (schema : Schema)
    (relations : List String) :
    (service.run initial (requests.map .request)).StrandsOn schema relations ↔
      ∃ early name late stray, relations = early ++ name :: late ∧
        (∀ other ∈ early, ∃ relation, schema.relation? other = some relation ∧
          service.registry.Keeps relation.table) ∧
        schema.relation? name = some stray ∧ ¬service.registry.Keeps stray.table := by
  have missing (table : String) :
      (service.run initial (requests.map .request)).tables.get? table = none ↔
        ¬service.registry.Keeps table := by
    rw [missing_of_run host config service initial started]
    simp [Registry.Keeps]
  have present (table : String) :
      (∃ found, (service.run initial (requests.map .request)).tables.get? table = some found) ↔
        service.registry.Keeps table := by
    rw [← Option.ne_none_iff_exists', ne_eq, missing, not_not]
  simp only [Store.StrandsOn, Store.Loads, Store.Strands, missing, exists_and_left, present]

theorem internal_of_run_iff (host : Host) (config : Config) (service : Service) (initial : Store)
    (started : start host config = .ok (service, initial)) (requests : List Request)
    (request : Request) :
    (service.respond (service.run initial (requests.map .request)) request).1.status = 500 ↔
      service.Strands (service.run initial (requests.map .request)) request := by
  have placed := table_of_run host config service initial started (requests.map .request)
  have furnished : ∀ resource ∈ service.registry.models,
      (service.run initial (requests.map .request)).tables.get? resource.table ≠ none := by
    intro resource member missing
    obtain ⟨first, rows, _, found⟩ := placed resource member
    cases missing.symm.trans found
  rw [respond_internal_iff service _ request furnished]
  simp only [isInternal_list_iff service _ furnished]
  constructor
  next =>
    rintro ⟨slug, routed, resource, table, query, registered, found, parsed, ⟨rows, selected⟩, strands⟩
    have member := service.registry.mem_models_of_get slug resource registered
    obtain ⟨first, kept, earliest, there⟩ := placed resource member
    cases found.symm.trans there
    obtain ⟨early, name, late, stray, cut, loaded, declared, astray⟩ :=
      (strandsOn_of_run_iff host config service initial started requests first.schema _).mp strands
    exact ⟨slug, resource, first, query, rows, early, name, late, stray, routed, registered,
      earliest, parsed, selected, cut, loaded, declared, astray⟩
  next =>
    rintro ⟨slug, resource, first, query, rows, early, name, late, stray, routed, registered,
      earliest, parsed, selected, cut, loaded, declared, astray⟩
    have member := service.registry.mem_models_of_get slug resource registered
    obtain ⟨earliest', kept, same, there⟩ := placed resource member
    cases earliest.symm.trans same
    have strands :=
      (strandsOn_of_run_iff host config service initial started requests first.schema query.load).mpr
        ⟨early, name, late, stray, cut, loaded, declared, astray⟩
    exact ⟨slug, routed, resource, _, query, registered, there, parsed, ⟨rows, selected⟩, strands⟩

theorem keeps_of_config (host : Host) (config : Config) (service : Service) (initial : Store)
    (started : start host config = .ok (service, initial)) (source : ResourceConfig)
    (member : source ∈ config.resources) : service.registry.Keeps source.tableName := by
  obtain ⟨registry, made, started⟩ := (bind_eq_ok_iff _ _ _).mp started
  cases started
  exact ⟨_, Registry.described_mem_models config.resources registry made source member, rfl⟩

theorem not_strands_of_relatesWithin (host : Host) (config : Config) (service : Service) (initial store : Store)
    (started : start host config = .ok (service, initial)) (request : Request)
    (within : config.RelatesWithin) : ¬service.Strands store request := by
  rintro ⟨slug, resource, first, query, rows, early, name, late, stray, routed, registered,
    earliest, parsed, selected, cut, loaded, declared, astray⟩
  obtain ⟨source, configured, made⟩ :=
    config_of_start host config service initial started first (List.mem_of_find?_eq_some earliest)
  obtain rfl := Resource.eq_of_ofConfig source first made
  obtain ⟨other, there, same⟩ :=
    within source configured stray (List.mem_of_find?_eq_some declared)
  exact astray (same ▸ keeps_of_config host config service initial started other there)

/--
A service that started answers a request with success, with a fault of the client, or with an internal
fault, the last for a list that loads a relation to a table of no resource and for nothing else. Where
relations lead to tables of resources, no request is answered with an internal fault.
-/
theorem respond_faults (host : Host) (config : Config) (service : Service) (initial : Store)
    (started : start host config = .ok (service, initial)) (requests : List Request)
    (request : Request) :
    let before := service.run initial (requests.map .request)
    let response := (service.respond before request).1
    (response.status = 500 ↔ service.Strands before request) ∧
      (response.Succeeds ∨ response.Refuses ∨ response.status = 500) ∧
      (config.RelatesWithin → response.status ≠ 500) := by
  intro before response
  have internal := internal_of_run_iff host config service initial started requests request
  refine ⟨internal, respond_classes service before _ request response rfl, ?_⟩
  intro within broken
  exact not_strands_of_relatesWithin host config service initial before started request within
    (internal.mp broken)

def strayConfig : Config where
  resources :=
    [{ slug := "users"
       relations := [{ name := "team", table := "teams", localKey := "team_id", foreignKey := "id" }] }]

def strayResource : Resource where
  slug := "users"
  relations := [{ name := "team", table := "teams", localKey := "team_id", foreignKey := "id" }]

def strayService : Service where
  host := .standalone
  registry := { resources := [("users", strayResource)] }

def strayStore : Store where
  newKey := Store.keyText
  tables := [("users", { schema := strayResource.schema })]

def listWithTeam : Request where
  method := .get
  path := "/api/users".toList
  query := "with=team"

theorem respond_faults_stray :
    start .standalone strayConfig = .ok (strayService, strayStore) ∧
      strayService.Strands strayStore listWithTeam := by
  have started : start .standalone strayConfig = .ok (strayService, strayStore) := rfl
  have faults := respond_faults .standalone strayConfig strayService strayStore started [] listWithTeam
  exact ⟨started, faults.1.mp (by decide +kernel)⟩

theorem internal_listWithTeam :
    start .standalone strayConfig = .ok (strayService, strayStore) ∧
      (strayService.respond strayStore listWithTeam).1.status = 500 :=
  ⟨rfl, by decide +kernel⟩

end Service

end RowGate
