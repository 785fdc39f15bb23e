import RowGate.Config.Basic

set_option autoImplicit false

namespace RowGate

structure Resource where
  slug : String
  table : String := slug
  primaryKey : String := "id"
  fillable : List String := []
  columns : List Column := []
  relations : List Relation := []
  deriving DecidableEq

def ResourceConfig.tableName (config : ResourceConfig) : String :=
  config.table.getD config.slug

def ResourceConfig.names (config : ResourceConfig) : List String :=
  [config.slug, config.tableName, config.primaryKey] ++ config.fillable ++
    config.columns.map (·.name) ++
    config.relations.flatMap fun relation =>
      [relation.name, relation.table, relation.localKey, relation.foreignKey]

namespace Resource

def ofConfig (config : ResourceConfig) : Except Error Resource :=
  match config.names.find? fun name => !isIdentifier name with
  | some name =>
    .error (.configuration
      ("resource '" ++ config.slug ++ "': invalid identifier '" ++ name ++ "'"))
  | none =>
    .ok
      { slug := config.slug
        table := config.tableName
        primaryKey := config.primaryKey
        fillable := config.fillable
        columns := config.columns
        relations := config.relations }

def schema (resource : Resource) : Schema where
  name := resource.table
  primaryKey := resource.primaryKey
  columns := resource.columns
  relations := resource.relations

def fill (resource : Resource) (body : Row) : Row :=
  if resource.fillable.isEmpty then body
  else body.filter fun field => resource.fillable.contains field.1

def withUniqueColumn (resource : Resource) (name dataType : String) : Resource :=
  let column : Column := { name, dataType, nullable := false, unique := true }
  { resource with columns := resource.columns ++ [column] }

def withColumn (resource : Resource) (name dataType : String) (nullable : Bool) : Resource :=
  let column : Column := { name, dataType, nullable }
  { resource with columns := resource.columns ++ [column] }

end Resource

end RowGate
