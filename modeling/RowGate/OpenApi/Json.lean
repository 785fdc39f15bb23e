import RowGate.OpenApi.Document

set_option autoImplicit false

namespace RowGate.OpenApi

def Parameter.toJson (parameter : Parameter) : Json :=
  .object
    ([("name", .string parameter.name), ("in", .string parameter.location),
      ("required", .bool parameter.required)] ++
      parameter.description.toList.map (fun text => ("description", .string text)) ++
      [("schema", .ofFields [("type", .string parameter.dataType)])])

def Operation.toJson (operation : Operation) : Json :=
  .object
    [("summary", .string operation.summary), ("tags", .strings [operation.tag]),
      ("parameters", .array (operation.parameters.map Parameter.toJson)),
      ("responses", .object (operation.responses.map fun (status, text) =>
        (Decimal.text status, .object [("description", .string text)])))]

def methodKey : Method → String
  | .get => "get"
  | .post => "post"
  | .put => "put"
  | .patch => "patch"
  | .delete => "delete"
  | .other name => name

def information : Json :=
  .object
    [("title", .string "tablerest API"), ("version", .string "0.1.0"),
      ("description", .string "REST API generated from registered resources")]

def Document.toJson (document : Document) : Json :=
  .object
    [("openapi", .string "3.0.3"), ("info", information),
      ("paths", .object (document.paths.map fun (path, operations) =>
        (path, .object (operations.map fun operation =>
          (methodKey operation.method, operation.toJson))))),
      ("components", .object [("schemas", .object document.schemas)])]

end RowGate.OpenApi
