import RowGate.Json.Record

set_option autoImplicit false

namespace RowGate

structure Column where
  name : String
  dataType : String := "text"
  nullable : Bool := true
  unique : Bool := false
  description : Option String := none
  deriving DecidableEq

/-- Rows of `table` whose `foreignKey` has the value of the `localKey` here: all of them, or one. -/
structure Relation where
  name : String
  table : String
  localKey : String
  foreignKey : String
  many : Bool := false
  deriving DecidableEq

structure Schema where
  name : String
  primaryKey : String := "id"
  columns : List Column := []
  relations : List Relation := []
  deriving DecidableEq

namespace Schema

def column? (schema : Schema) (name : String) : Option Column :=
  schema.columns.find? (·.name = name)

def relation? (schema : Schema) (name : String) : Option Relation :=
  schema.relations.find? (·.name = name)

end Schema

open Json

def Column.toJson (column : Column) : Json :=
  ofFields
    [("name", .string column.name), ("data_type", .string column.dataType),
      ("is_nullable", .bool column.nullable), ("is_unique", .bool column.unique),
      ("description", ofOption .string column.description)]

def Relation.toJson (relation : Relation) : Json :=
  ofFields
    [("name", .string relation.name), ("table", .string relation.table),
      ("local_key", .string relation.localKey), ("foreign_key", .string relation.foreignKey),
      ("many", .bool relation.many)]

def Schema.toJson (schema : Schema) : Json :=
  ofFields
    [("name", .string schema.name), ("primary_key", .string schema.primaryKey),
      ("columns", .array (schema.columns.map Column.toJson)),
      ("relations", .array (schema.relations.map Relation.toJson))]

def Column.ofJson? (value : Json) : Option Column := do
  let members ← value.fullRecord? ["name", "data_type", "is_nullable", "is_unique", "description"]
  some
    { name := ← required members "name" asString?
      dataType := ← required members "data_type" asString?
      nullable := ← required members "is_nullable" asBool?
      unique := ← required members "is_unique" asBool?
      description := ← optional members "description" none (Json.nullable asString?) }

def Relation.ofJson? (value : Json) : Option Relation := do
  let members ← value.fullRecord? ["name", "table", "local_key", "foreign_key", "many"]
  some
    { name := ← required members "name" asString?
      table := ← required members "table" asString?
      localKey := ← required members "local_key" asString?
      foreignKey := ← required members "foreign_key" asString?
      many := ← required members "many" asBool? }

def Schema.ofJson? (value : Json) : Option Schema := do
  let members ← value.fullRecord? ["name", "primary_key", "columns", "relations"]
  some
    { name := ← required members "name" asString?
      primaryKey := ← required members "primary_key" asString?
      columns := ← required members "columns" (listOf Column.ofJson?)
      relations := ← required members "relations" (listOf Relation.ofJson?) }

end RowGate
