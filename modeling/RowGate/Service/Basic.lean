import RowGate.Envelope.Reading
import RowGate.OpenApi.Json
import RowGate.Service.Route
import RowGate.Store.Select

set_option autoImplicit false

/-!
# The service

`Service.respond` answers a request over a store. A handler either fails and leaves the store as it
is, or gives its answer and the store after it.
-/

namespace RowGate

/-- What a service leaves to others: expressions, the words for a body that is no JSON, and new keys. -/
structure Host where
  engine : Regex.Engine
  jsonFault : List UInt8 → String
  newKey : Nat → String

structure Service where
  host : Host
  registry : Registry
  options : GrammarOptions := {}
  basePath : String := "/api"
  maxRows : Nat := 1000
  debug : Bool := false
  openApiEnabled : Bool := true

namespace Service

def ofConfig (host : Host) (config : ServiceConfig) (registry : Registry) : Service where
  host := host
  registry := registry
  options := config.grammar.options
  basePath := config.basePath
  maxRows := config.maxRows
  debug := config.debug
  openApiEnabled := config.openApiEnabled

abbrev Outcome := Except Error (Response × Store)

def withData (status : Nat) (data : Json) : Response :=
  .ofEnvelope (.ok data status)

def bodyRow (service : Service) (body : List UInt8) : Except Error Row :=
  if body.all Envelope.isBlankByte then .error .emptyBody
  else
    match Json.readBytes? body with
    | some (.object fields) => .ok fields
    | some _ => .error (.malformedBody "expected a JSON object")
    | none => .error (.malformedBody (service.host.jsonFault body))

def nonempty (values : Row) : Except Error Row :=
  if values.isEmpty then .error .emptyBody else .ok values

def limited (service : Service) (query : Query) : Query :=
  { query with limit := some (min (query.limit.getD service.maxRows) service.maxRows) }

def list (service : Service) (store : Store) (slug queryText : String) : Outcome := do
  let resource ← service.registry.get slug
  let query := service.limited (← Query.ofText service.options queryText)
  let rows ← store.select service.host.engine resource.table query
  let count ← if query.count then some <$> store.count service.host.engine resource.table query else .ok none
  let envelope := Envelope.ok (.array (rows.map .object)) 200
  .ok (.ofEnvelope (envelope.withCount count), store)

def fetch (service : Service) (store : Store) (slug id : String) : Outcome := do
  let resource ← service.registry.get slug
  match ← store.find resource.table id with
  | some row => .ok (withData 200 (.object row), store)
  | none => .error (.recordNotFound id)

def create (service : Service) (store : Store) (slug : String) (body : List UInt8) : Outcome := do
  let resource ← service.registry.get slug
  let values ← nonempty (resource.fill (← service.bodyRow body))
  let (row, store) ← store.insert resource.table values
  .ok (withData 201 (.object row), store)

def update (service : Service) (store : Store) (slug id : String) (body : List UInt8) :
    Outcome := do
  let resource ← service.registry.get slug
  let values ← nonempty ((resource.fill (← service.bodyRow body)).erase resource.primaryKey)
  match ← store.update resource.table id values with
  | (some row, store) => .ok (withData 200 (.object row), store)
  | (none, _) => .error (.recordNotFound id)

def delete (service : Service) (store : Store) (slug id : String) : Outcome := do
  let resource ← service.registry.get slug
  match ← store.delete resource.table id with
  | (true, store) => .ok (.noContent, store)
  | (false, _) => .error (.recordNotFound id)

def health : Json :=
  .ofFields
    [("status", .string "healthy"), ("service", .string "tablerest"), ("version", .string "0.1.0")]

def handle (service : Service) (store : Store) (request : Request) : Route → Outcome
  | .health => .ok (.json 200 health.write, store)
  | .document =>
    .ok (.json 200 (OpenApi.document service.registry service.basePath).toJson.write, store)
  | .list slug => service.list store slug request.query
  | .create slug => service.create store slug request.body
  | .fetch slug id => service.fetch store slug id
  | .update slug id => service.update store slug id request.body
  | .delete slug id => service.delete store slug id

def bodyLimit : Nat := 256 * 1024

def respond (service : Service) (store : Store) (request : Request) : Response × Store :=
  match route? service.basePath service.openApiEnabled request.method request.path with
  | none => (.notFound, store)
  | some route =>
    if route.readsBody && bodyLimit < request.body.length then (.tooLarge, store)
    else
      match store.attempt (service.handle store request route) with
      | (.ok response, store) => (response, store)
      | (.error error, store) => (.ofError error service.debug, store)

-- One empty table for each resource; the first of two resources with one table defines it.
def emptyStore (newKey : Nat → String) (registry : Registry) : Store :=
  registry.models.foldl (fun store resource => store.define resource.schema) (.empty newKey)

def start (host : Host) (config : Config) : Except Error (Service × Store) := do
  let registry ← Registry.ofConfigs config.resources
  .ok (.ofConfig host config.service registry, emptyStore host.newKey registry)

end Service

end RowGate
