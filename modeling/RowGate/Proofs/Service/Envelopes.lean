import RowGate.Proofs.Service.Paging

set_option autoImplicit false

namespace RowGate

namespace Service

section

variable (service : Service) (store after : Store) (request : Request)

inductive Reports : Route → Envelope → Prop
  | list (slug : String) (resource : Resource) (query : Query) (rows : List Row) (n : Nat)
      (registered : service.registry.get slug = .ok resource)
      (parsed : Query.ofText service.options request.query = .ok query)
      (selected : store.select service.host.engine resource.table (service.limited query) = .ok rows)
      (counted : store.count service.host.engine resource.table (service.limited query) = .ok n) :
      Reports (.list slug)
        { data := some (.array (rows.map .object))
          count := if query.count then some n else none
          status := 200 }
  | fetch (slug id : String) (resource : Resource) (row : Row)
      (registered : service.registry.get slug = .ok resource)
      (found : store.find resource.table id = .ok (some row)) :
      Reports (.fetch slug id) (.ok (.object row) 200)
  | create (slug : String) (resource : Resource) (fields row : Row)
      (registered : service.registry.get slug = .ok resource)
      (read : service.bodyRow request.body = .ok fields)
      (inserted : store.insert resource.table (resource.fill fields) = .ok (row, after)) :
      Reports (.create slug) (.ok (.object row) 201)
  | update (slug id : String) (resource : Resource) (fields row : Row)
      (registered : service.registry.get slug = .ok resource)
      (read : service.bodyRow request.body = .ok fields)
      (updated : store.update resource.table id ((resource.fill fields).erase resource.primaryKey) =
        .ok (some row, after)) :
      Reports (.update slug id) (.ok (.object row) 200)
  | delete (slug id : String) (resource : Resource)
      (registered : service.registry.get slug = .ok resource)
      (deleted : store.delete resource.table id = .ok (true, after)) :
      Reports (.delete slug id) (.empty 204)

theorem reports_of_handle (route : Route) (response : Response)
    (handled : service.handle store request route = .ok (response, after))
    (rows : route ≠ .health ∧ route ≠ .document) :
    ∃ envelope, service.Reports store after request route envelope ∧
      (response = .ofEnvelope envelope ∧ (envelope.status = 200 ∨ envelope.status = 201) ∧
          (∀ data ∈ envelope.data, data.isNull = false) ∨
        response = .noContent ∧ envelope = .empty 204) := by
  have solid {value : Json} (present : value.isNull = false) :
      ∀ data ∈ some value, data.isNull = false := by
    rintro data ⟨⟩
    exact present
  cases route with
  | health => exact absurd rfl rows.1
  | document => exact absurd rfl rows.2
  | list slug =>
    obtain ⟨resource, query, rows, n, registered, parsed, selected, counted, rfl⟩ :=
      list_cases service store after slug request.query response handled
    exact ⟨_, .list slug resource query rows n registered parsed selected counted,
      .inl ⟨rfl, .inl rfl, solid rfl⟩⟩
  | fetch slug id =>
    obtain ⟨resource, row, registered, found, rfl, _⟩ :=
      fetch_cases service store after slug id response handled
    exact ⟨_, .fetch slug id resource row registered found, .inl ⟨rfl, .inl rfl, solid rfl⟩⟩
  | create slug =>
    obtain ⟨resource, fields, row, registered, read, _, inserted, rfl⟩ :=
      create_cases service store after slug request.body response handled
    exact ⟨_, .create slug resource fields row registered read inserted, .inl ⟨rfl, .inr rfl, solid rfl⟩⟩
  | update slug id =>
    obtain ⟨resource, fields, row, registered, read, _, updated, rfl⟩ :=
      update_cases service store after slug id request.body response handled
    exact ⟨_, .update slug id resource fields row registered read updated,
      .inl ⟨rfl, .inl rfl, solid rfl⟩⟩
  | delete slug id =>
    obtain ⟨resource, registered, deleted, rfl⟩ :=
      delete_cases service store after slug id response handled
    exact ⟨_, .delete slug id resource registered deleted, .inr ⟨rfl, rfl⟩⟩

theorem heard_of_handle (route : Route) (response : Response)
    (handled : service.handle store request route = .ok (response, after))
    (rows : route ≠ .health ∧ route ≠ .document) :
    ∃ envelope, service.Reports store after request route envelope ∧
      response.status = envelope.status ∧
      (envelope.Plain → ∀ jsonFault, response.heard jsonFault =
        if envelope.toJson.depth ≤ Json.maxDepth then envelope
        else .failure (Envelope.invalidJson (jsonFault (Text.Utf8.encode response.body)))
          envelope.status) := by
  obtain ⟨envelope, reports, ⟨rfl, status, present⟩ | ⟨rfl, rfl⟩⟩ :=
    reports_of_handle service store after request route response handled rows
  next =>
    have success : Status.isSuccess envelope.status = true := by
      rcases status with ok | created
      next => rw [ok]; rfl
      next => rw [created]; rfl
    refine ⟨envelope, reports, rfl, fun plain jsonFault => ?_⟩
    exact heard_ofEnvelope jsonFault envelope plain success (by omega) present
  next =>
    refine ⟨_, reports, rfl, fun _ jsonFault => ?_⟩
    rw [if_pos (by decide)]
    rfl

end

/--
A client hears the envelope that a handler of rows made, where its rows are read back as they are and
its text nests no more containers than a reader takes. It hears the public words of an error. And
whatever a response is, it keeps the status, and a failing status is an error: that of the body, or else
one of the status line without data.
-/
theorem heard_responses :
    (∀ (service : Service) (store after : Store) (request : Request) (route : Route)
        (response : Response), service.handle store request route = .ok (response, after) →
      route ≠ .health ∧ route ≠ .document →
      ∃ envelope, service.Reports store after request route envelope ∧
        response.status = envelope.status ∧
        (envelope.Plain → ∀ jsonFault, response.heard jsonFault =
          if envelope.toJson.depth ≤ Json.maxDepth then envelope
          else .failure (Envelope.invalidJson (jsonFault (Text.Utf8.encode response.body)))
            envelope.status)) ∧
    (∀ (jsonFault : List UInt8 → String) (error : Error) (debug : Bool),
      (Response.ofError error debug).heard jsonFault =
        .failure (error.publicMessage debug) error.status) ∧
    ∀ (jsonFault : List UInt8 → String) (status : Nat) (reason : Option String) (body : List UInt8),
      let envelope := Envelope.ofResponse jsonFault status reason body
      envelope.status = status ∧
        (Status.isSuccess status = false →
          envelope.error =
              some ((Envelope.statedError? body).getD (Envelope.reasonText status reason)) ∧
            (Envelope.statedError? body = none → envelope.data = none)) := by
  refine ⟨heard_of_handle, heard_ofError, fun jsonFault status reason body => ?_⟩
  exact ⟨Envelope.status_ofResponse jsonFault status reason body,
    Envelope.ofResponse_failing jsonFault status reason body⟩

theorem heard_responses_users :
    let ann : Json := .object [("id", .string "1"), ("name", .string "Ann")]
    let fault := Host.standalone.jsonFault
    (∃ response, usersService.handle usersStore (usersRequest .get "/api/users/1" "")
        (.fetch "users" "1") = .ok (response, usersStore) ∧ response.heard fault = .ok ann 200) ∧
      (Response.ofError (.recordNotFound "2") false).heard fault =
        .failure "Record not found: 2" 404 ∧
      (Envelope.ofResponse fault 502 none []).error = some "Unknown Status (502)" := by
  intro ann fault
  obtain ⟨handlers, errors, others⟩ := heard_responses
  refine ⟨⟨withData 200 ann, rfl, ?_⟩, errors fault (.recordNotFound "2") false, ?_⟩
  next =>
    obtain ⟨envelope, reports, -, heard⟩ := handlers usersService usersStore usersStore
      (usersRequest .get "/api/users/1" "") (.fetch "users" "1") (withData 200 ann) rfl (by decide)
    cases reports with
    | fetch slug id resource row registered found =>
      cases registered
      cases found
      have rereads : ann.Rereads := (Json.rereads_iff ann).mpr ⟨by decide +kernel, rfl⟩
      have plain : (Envelope.ok ann 200).Plain :=
        ⟨by simpa [Envelope.rows, Envelope.ok, ann] using rereads, fun _ counted => by cases counted⟩
      rw [heard plain fault, if_pos (by decide +kernel)]
  next =>
    rw [((others fault 502 none []).2 rfl).1]
    decide +kernel

def nested : Nat → Json
  | 0 => .array []
  | n + 1 => .array [nested n]

theorem depth_nested (n : Nat) : (nested n).depth = n + 1 := by
  induction n with
  | zero => rfl
  | succ n ih => simp [nested, Json.depth, Json.itemsDepth, ih]

theorem reread_nested (n : Nat) : (nested n).reread = some (nested n) := by
  induction n with
  | zero => rfl
  | succ n ih => simp [nested, Json.reread, Json.rereadItems, ih]

def deepRow : Row :=
  [("id", .string "1"), ("tree", nested 125)]

theorem rereads_deepRow : (Json.object deepRow).Rereads := by
  have sorted : Json.ofFields deepRow = .object deepRow :=
    congrArg Json.object (Keyed.ofEntries_eq_of_perm _ _ (by unfold Keyed.Sorted; decide) (.refl _))
  refine (Json.rereads_iff _).mpr ⟨?_, ?_⟩
  next => simp [Json.depth, Json.fieldsDepth, deepRow, depth_nested, Json.maxDepth]
  next =>
    have fields : Json.rereadFields deepRow = some deepRow := by
      simp [Json.rereadFields, Json.reread, deepRow, reread_nested]
    simp [Json.reread, fields, sorted]

def createDeep : Request where
  method := .post
  path := "/api/users".toList
  query := ""
  body := Text.Utf8.encode (Json.object deepRow).write

theorem bodyRow_write (service : Service) (row : Row) (rereads : (Json.object row).Rereads) :
    service.bodyRow (Text.Utf8.encode (Json.object row).write) = .ok row := by
  have read : Json.readBytes? (Text.Utf8.encode (Json.object row).write) = some (.object row) := rereads
  rw [bodyRow, Envelope.notBlank_write, read]
  rfl

theorem handle_createDeep :
    ∃ after, usersService.handle emptyUsers createDeep (.create "users") =
      .ok (withData 201 (.object deepRow), after) := by
  have read : usersService.bodyRow createDeep.body = .ok deepRow :=
    usersService.bodyRow_write deepRow rereads_deepRow
  refine ⟨{
    newKey := Store.keyText
    tables := [("users", { schema := { name := "users" }, rows := [deepRow] })] }, ?_⟩
  simp only [handle, create, read]
  rfl

theorem heard_createDeep :
    (Json.object deepRow).Rereads ∧
      (∃ after, usersService.handle emptyUsers createDeep (.create "users") =
        .ok (withData 201 (.object deepRow), after)) ∧
      ∀ jsonFault, let response := withData 201 (.object deepRow)
        response.heard jsonFault =
          .failure (Envelope.invalidJson (jsonFault (Text.Utf8.encode response.body))) 201 := by
  refine ⟨rereads_deepRow, handle_createDeep, fun jsonFault => ?_⟩
  have plain : (Envelope.ok (.object deepRow) 201).Plain :=
    ⟨by simpa [Envelope.rows, Envelope.ok] using rereads_deepRow, fun _ counted => by cases counted⟩
  have deep : ¬(Envelope.ok (.object deepRow) 201).toJson.depth ≤ Json.maxDepth := by
    simp [Envelope.toJson, Envelope.ok, Json.ofOption, Json.depth, Json.fieldsDepth, deepRow,
      depth_nested, Json.maxDepth]
  have heard := heard_ofEnvelope jsonFault (.ok (.object deepRow) 201) plain rfl (by decide)
    fun data held => by cases held; rfl
  rw [if_neg deep] at heard
  exact heard

end Service

end RowGate
