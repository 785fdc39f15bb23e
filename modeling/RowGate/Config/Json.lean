import RowGate.Config.Basic

set_option autoImplicit false

namespace RowGate

open Json

def GrammarConfig.ofJson? (value : Json) : Option GrammarConfig := do
  let members ← value.record? ["groups", "joins", "strict"]
  some
    { groups := ← optional members "groups" true asBool?
      joins := ← optional members "joins" true asBool?
      strict := ← optional members "strict" false asBool? }

def ServiceConfig.ofJson? (value : Json) : Option ServiceConfig := do
  let members ← value.record?
    ["host", "port", "prefix", "max_rows", "debug", "openapi_enabled", "cors_origins", "grammar"]
  let default : ServiceConfig := {}
  some
    { host := ← optional members "host" default.host asString?
      port := ← optional members "port" default.port (boundedNat 65535)
      basePath := ← optional members "prefix" default.basePath asString?
      maxRows := ← optional members "max_rows" default.maxRows (boundedNat maxInteger)
      debug := ← optional members "debug" default.debug asBool?
      openApiEnabled := ← optional members "openapi_enabled" default.openApiEnabled asBool?
      corsOrigins := ← optional members "cors_origins" default.corsOrigins stringList
      grammar := ← optional members "grammar" default.grammar GrammarConfig.ofJson? }

def Column.ofConfigJson? (value : Json) : Option Column := do
  let members ← value.record? ["name", "data_type", "nullable", "unique", "description"]
  some
    { name := ← required members "name" asString?
      dataType := ← optional members "data_type" "text" asString?
      nullable := ← optional members "nullable" true asBool?
      unique := ← optional members "unique" false asBool?
      description := ← optional members "description" none (Json.nullable asString?) }

def Relation.ofConfigJson? (value : Json) : Option Relation := do
  let members ← value.record? ["name", "table", "local_key", "foreign_key", "many"]
  some
    { name := ← required members "name" asString?
      table := ← required members "table" asString?
      localKey := ← required members "local_key" asString?
      foreignKey := ← required members "foreign_key" asString?
      many := ← optional members "many" false asBool? }

def ResourceConfig.ofJson? (value : Json) : Option ResourceConfig := do
  let members ← value.record? ["slug", "table", "primary_key", "fillable", "columns", "relations"]
  some
    { slug := ← required members "slug" asString?
      table := ← optional members "table" none (Json.nullable asString?)
      primaryKey := ← optional members "primary_key" "id" asString?
      fillable := ← optional members "fillable" [] stringList
      columns := ← optional members "columns" [] (listOf Column.ofConfigJson?)
      relations := ← optional members "relations" [] (listOf Relation.ofConfigJson?) }

def ClientConfig.ofJson? (value : Json) : Option ClientConfig := do
  let members ← value.record? ["base_url", "prefix", "timeout_secs"]
  let default : ClientConfig := {}
  some
    { baseUrl := ← optional members "base_url" default.baseUrl asString?
      basePath := ← optional members "prefix" default.basePath asString?
      timeoutSeconds := ← optional members "timeout_secs" default.timeoutSeconds
        (boundedNat maxInteger) }

def Config.ofJson? (value : Json) : Option Config := do
  let members ← value.record? ["rest", "resources", "client"]
  some
    { service := ← optional members "rest" {} ServiceConfig.ofJson?
      resources := ← optional members "resources" [] (listOf ResourceConfig.ofJson?)
      client := ← optional members "client" {} ClientConfig.ofJson? }

def GrammarConfig.toJson (config : GrammarConfig) : Json :=
  ofFields
    [("groups", .bool config.groups), ("joins", .bool config.joins), ("strict", .bool config.strict)]

def ServiceConfig.toJson (config : ServiceConfig) : Json :=
  ofFields
    [("host", .string config.host), ("port", nat config.port), ("prefix", .string config.basePath),
      ("max_rows", nat config.maxRows), ("debug", .bool config.debug),
      ("openapi_enabled", .bool config.openApiEnabled),
      ("cors_origins", strings config.corsOrigins), ("grammar", config.grammar.toJson)]

def Column.toConfigJson (column : Column) : Json :=
  ofFields
    [("name", .string column.name), ("data_type", .string column.dataType),
      ("nullable", .bool column.nullable), ("unique", .bool column.unique),
      ("description", ofOption .string column.description)]

def ResourceConfig.toJson (config : ResourceConfig) : Json :=
  ofFields
    [("slug", .string config.slug), ("table", ofOption .string config.table),
      ("primary_key", .string config.primaryKey), ("fillable", strings config.fillable),
      ("columns", .array (config.columns.map Column.toConfigJson)),
      ("relations", .array (config.relations.map Relation.toJson))]

def ClientConfig.toJson (config : ClientConfig) : Json :=
  ofFields
    [("base_url", .string config.baseUrl), ("prefix", .string config.basePath),
      ("timeout_secs", nat config.timeoutSeconds)]

def Config.toJson (config : Config) : Json :=
  ofFields
    [("rest", config.service.toJson), ("resources", .array (config.resources.map (·.toJson))),
      ("client", config.client.toJson)]

end RowGate
