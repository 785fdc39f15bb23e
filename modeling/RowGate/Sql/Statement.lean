import RowGate.Plan
import RowGate.Sql.Piece

set_option autoImplicit false

namespace RowGate.Sql

structure Bindings where
  parameters : List String := []
  conditions : List (Connective × List Piece) := []

namespace Bindings

-- A value becomes the last parameter, and its placeholder has the number of the parameters.
def bind (parameters : List String) (value : String) : Piece × List String :=
  (.placeholder (parameters.length + 1), parameters ++ [value])

def bindList (parameters : List String) : List String → List (List Piece) × List String
  | [] => ([], parameters)
  | value :: rest =>
    let (placeholder, bound) := bind parameters value
    let (others, all) := bindList bound rest
    ([placeholder] :: others, all)

-- An empty list of values holds nothing, so membership is false and its negation true.
def writePredicate (parameters : List String) (column : String) :
    Predicate → List Piece × List String
  | .compare operator value =>
    let (placeholder, bound) := bind parameters value
    ([.name column, .fixed " ", .fixed operator.sql, .fixed " ", placeholder], bound)
  | .isNull => ([.name column, .fixed " IS NULL"], parameters)
  | .isNotNull => ([.name column, .fixed " IS NOT NULL"], parameters)
  | .isIn [] => ([.fixed "1 = 0"], parameters)
  | .notIn [] => ([.fixed "1 = 1"], parameters)
  | .isIn values =>
    let (placeholders, bound) := bindList parameters values
    ([.name column, .fixed " IN ("] ++ Piece.separated ", " placeholders ++ [.fixed ")"], bound)
  | .notIn values =>
    let (placeholders, bound) := bindList parameters values
    ([.name column, .fixed " NOT IN ("] ++ Piece.separated ", " placeholders ++ [.fixed ")"], bound)

def add (bindings : Bindings) (condition : Condition) : Bindings :=
  let (pieces, parameters) := writePredicate bindings.parameters condition.column condition.predicate
  { parameters, conditions := bindings.conditions ++ [(condition.connective, pieces)] }

end Bindings

structure Statement where
  table : String
  selection : Selection := {}

namespace Statement

def take (statement : Statement) (step : Step) : Statement :=
  { statement with selection := statement.selection.take step }

def ofPlan (table : String) (steps : List Step) : Statement :=
  { table, selection := .ofPlan steps }

def columnPieces (selection : Selection) : List Piece :=
  if selection.selectsAll then [.fixed "*"]
  else Piece.separated ", " (selection.columns.map fun column => [.name column])

def joinPieces (table : String) (join : Join) : List Piece :=
  [.fixed " ", .fixed join.kind.sql, .fixed " ", .name join.table, .fixed " ON ", .name table,
    .fixed ".", .name join.leftKey, .fixed " = ", .name join.table, .fixed ".", .name join.rightKey]

def connectorText (isFirst : Bool) : Connective → String
  | .and => if isFirst then " WHERE " else " AND "
  | .or => if isFirst then " WHERE " else " OR "

-- The conditions in their order, each behind its connector.
def connected : Bool → List (Connective × List Piece) → List Piece
  | _, [] => []
  | isFirst, (connective, pieces) :: rest =>
    .fixed (connectorText isFirst connective) :: (pieces ++ connected false rest)

def bindings (statement : Statement) : Bindings :=
  statement.selection.conditions.foldl Bindings.add {}

def parameters (statement : Statement) : List String :=
  statement.bindings.parameters

def wherePieces (statement : Statement) : List Piece :=
  connected true statement.bindings.conditions

def sourcePieces (statement : Statement) : List Piece :=
  .name statement.table :: (statement.selection.joins.flatMap (joinPieces statement.table) ++
    wherePieces statement)

def orderPieces : List Order → List Piece
  | [] => []
  | orders =>
    .fixed " ORDER BY " :: Piece.separated ", " (orders.map fun order =>
      [.name order.column, .fixed " ", .fixed order.direction.sql])

def pagePieces (selection : Selection) : List Piece :=
  selection.limit.toList.flatMap (fun rows => [.fixed " LIMIT ", .number rows]) ++
    selection.offset.toList.flatMap fun rows => [.fixed " OFFSET ", .number rows]

def pieces (statement : Statement) : List Piece :=
  .fixed "SELECT " :: columnPieces statement.selection ++ .fixed " FROM " :: sourcePieces statement ++
    orderPieces statement.selection.order ++ pagePieces statement.selection

def countPieces (statement : Statement) : List Piece :=
  .fixed "SELECT COUNT(*) FROM " :: sourcePieces statement

def text (statement : Statement) : String :=
  Piece.text statement.pieces

def countText (statement : Statement) : String :=
  Piece.text statement.countPieces

end Statement

end RowGate.Sql
