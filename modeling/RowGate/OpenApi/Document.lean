import RowGate.Http
import RowGate.Resource.Registry

set_option autoImplicit false

namespace RowGate.OpenApi

structure Parameter where
  name : String
  location : String := "query"
  required : Bool := false
  description : Option String := none
  dataType : String := "string"

structure Operation where
  method : Method
  summary : String
  tag : String
  parameters : List Parameter
  responses : List (Nat × String)

structure Document where
  paths : Keyed (List Operation) := []
  schemas : Keyed Json := []

def listParameters (schema : Schema) : List Parameter :=
  let operators := ", ".intercalate (Operator.all.map (·.token))
  let join := some "table:left_key=right_key"
  let group := some "(column.op.value,...)"
  [{ name := Key.select.text, description := some "Comma-separated columns" },
    { name := Key.load.text, description := some "Comma-separated relations to eager-load" },
    { name := Key.order.text, description := some "column.asc or column.desc, comma-separated" },
    { name := Key.limit.text, dataType := "integer" },
    { name := Key.offset.text, dataType := "integer" },
    { name := Key.count.text, dataType := "boolean",
      description := some "Include the total match count" },
    { name := (Key.group .and).text, description := group },
    { name := (Key.group .or).text, description := group },
    { name := (Key.join .inner).text, description := join },
    { name := (Key.join .left).text, description := join },
    { name := (Key.join .right).text, description := join }] ++
  schema.columns.map fun column =>
    { name := column.name ++ ".\x7boperator\x7d"
      description := some ("Filter on " ++ column.name ++ " (" ++ operators ++ ")") }

def idParameter : Parameter := { name := "id", location := "path", required := true }

def jsonType (dataType : String) : String :=
  if ["integer", "bigint", "smallint", "int4", "int8", "int2"].contains dataType then "integer"
  else if ["real", "double precision", "float4", "float8", "numeric", "decimal"].contains dataType then
    "number"
  else if ["boolean", "bool"].contains dataType then "boolean"
  else if ["json", "jsonb"].contains dataType then "object"
  else "string"

def holdsTimestamp : List Char → Bool
  | [] => false
  | c :: rest => "timestamp".toList.isPrefixOf (c :: rest) || holdsTimestamp rest

def format? (dataType : String) : Option String :=
  if dataType = "uuid" then some "uuid"
  else if holdsTimestamp dataType.toList then some "date-time"
  else if dataType = "date" then some "date"
  else none

def columnSchema (column : Column) : Json :=
  .ofFields
    ([("type", .string (jsonType column.dataType))] ++
      column.description.toList.map (fun text => ("description", .string text)) ++
      (format? column.dataType).toList.map (fun text => ("format", .string text)) ++
      if column.nullable then [("nullable", .bool true)] else [])

def schemaReference (name : String) : Json :=
  .ofFields [("$ref", .string ("#/components/schemas/" ++ name))]

def relationSchema (relation : Relation) : Json :=
  if relation.many then
    .ofFields [("type", .string "array"), ("items", schemaReference relation.table)]
  else schemaReference relation.table

def tableSchema (schema : Schema) : Json :=
  let needed := schema.columns.filter fun column =>
    !column.nullable && column.name ≠ schema.primaryKey
  .ofFields
    [("type", .string "object"),
      ("properties", .ofFields
        (schema.columns.map (fun column => (column.name, columnSchema column)) ++
          schema.relations.map fun relation => (relation.name, relationSchema relation))),
      ("required", .strings (needed.map (·.name)))]

def listOperations (resource : Resource) : List Operation :=
  [{ method := .get
     summary := "List " ++ resource.slug
     tag := resource.slug
     parameters := listParameters resource.schema
     responses := [(200, "OK"), (400, "Bad Request")] },
   { method := .post
     summary := "Create a " ++ resource.slug ++ " record"
     tag := resource.slug
     parameters := []
     responses := [(201, "Created"), (400, "Bad Request"), (409, "Conflict")] }]

def recordOperations (resource : Resource) : List Operation :=
  [{ method := .get
     summary := "Show a " ++ resource.slug ++ " record"
     tag := resource.slug
     parameters := [idParameter]
     responses := [(200, "OK"), (404, "Not Found")] },
   { method := .put
     summary := "Replace fields of a " ++ resource.slug ++ " record"
     tag := resource.slug
     parameters := [idParameter]
     responses := [(200, "OK"), (404, "Not Found"), (409, "Conflict")] },
   { method := .patch
     summary := "Update a " ++ resource.slug ++ " record"
     tag := resource.slug
     parameters := [idParameter]
     responses := [(200, "OK"), (404, "Not Found"), (409, "Conflict")] },
   { method := .delete
     summary := "Delete a " ++ resource.slug ++ " record"
     tag := resource.slug
     parameters := [idParameter]
     responses := [(204, "No Content"), (404, "Not Found")] }]

def trimSlashes (path : List Char) : List Char :=
  (path.reverse.dropWhile (· = '/')).reverse

def listPath (base : String) (slug : String) : String :=
  base ++ "/" ++ slug

def recordPath (base : String) (slug : String) : String :=
  listPath base slug ++ "/\x7bid\x7d"

def Document.add (base : String) (document : Document) (resource : Resource) : Document where
  paths :=
    (document.paths.insert (listPath base resource.slug) (listOperations resource)).insert
      (recordPath base resource.slug) (recordOperations resource)
  schemas := document.schemas.insert resource.slug (tableSchema resource.schema)

def document (registry : Registry) (basePath : String) : Document :=
  registry.models.foldl (Document.add (.ofList (trimSlashes basePath.toList))) {}

end RowGate.OpenApi
