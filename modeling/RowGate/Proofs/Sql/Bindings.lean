import RowGate.Sql.Statement

set_option autoImplicit false

namespace RowGate.Sql

namespace Statement

def placeholders (bound count : Nat) : List Piece :=
  Piece.separated ", " ((List.range count).map fun index => [.placeholder (bound + index + 1)])

def predicatePieces (bound : Nat) (column : String) : Predicate → List Piece
  | .compare operator _ =>
    [.name column, .fixed " ", .fixed operator.sql, .fixed " ", .placeholder (bound + 1)]
  | .isNull => [.name column, .fixed " IS NULL"]
  | .isNotNull => [.name column, .fixed " IS NOT NULL"]
  | .isIn [] => [.fixed "1 = 0"]
  | .notIn [] => [.fixed "1 = 1"]
  | .isIn values =>
    [.name column, .fixed " IN ("] ++ placeholders bound values.length ++ [.fixed ")"]
  | .notIn values =>
    [.name column, .fixed " NOT IN ("] ++ placeholders bound values.length ++ [.fixed ")"]

def conditionPieces (isFirst : Bool) (bound : Nat) : List Condition → List Piece
  | [] => []
  | condition :: rest =>
    .fixed (connectorText isFirst condition.connective) ::
      (predicatePieces bound condition.column condition.predicate ++
        conditionPieces false (bound + condition.predicate.parameters.length) rest)

def written (bound : Nat) : List Condition → List (Connective × List Piece)
  | [] => []
  | condition :: rest =>
    (condition.connective, predicatePieces bound condition.column condition.predicate) ::
      written (bound + condition.predicate.parameters.length) rest

end Statement

namespace Bindings

open Statement

theorem bindList_eq (parameters values : List String) :
    bindList parameters values =
      ((List.range values.length).map fun index => [.placeholder (parameters.length + index + 1)],
        parameters ++ values) := by
  induction values generalizing parameters with
  | nil => simp [bindList]
  | cons value rest ih =>
    simp only [bindList, bind, ih, List.length_cons, List.range_succ_eq_map, List.map_cons, List.map_map]
    simp [Function.comp_def, Nat.add_comm, Nat.add_left_comm]

theorem writePredicate_eq (parameters : List String) (column : String) (predicate : Predicate) :
    writePredicate parameters column predicate =
      (predicatePieces parameters.length column predicate, parameters ++ predicate.parameters) := by
  cases predicate with
  | compare operator value => rfl
  | isNull | isNotNull => simp [writePredicate, predicatePieces, Predicate.parameters]
  | isIn values | notIn values =>
    cases values with
    | nil => simp [writePredicate, predicatePieces, Predicate.parameters]
    | cons value rest =>
      simp only [writePredicate, bindList_eq]
      rfl

theorem parameters_foldl_add (bindings : Bindings) (conditions : List Condition) :
    (conditions.foldl add bindings).parameters =
      bindings.parameters ++ conditions.flatMap (·.predicate.parameters) := by
  induction conditions generalizing bindings with
  | nil => simp
  | cons condition rest ih => simp [ih, add, writePredicate_eq]

theorem conditions_foldl_add (bindings : Bindings) (conditions : List Condition) :
    (conditions.foldl add bindings).conditions =
      bindings.conditions ++ written bindings.parameters.length conditions := by
  induction conditions generalizing bindings with
  | nil => simp [written]
  | cons condition rest ih =>
    rw [List.foldl_cons, ih, written]
    simp [add, writePredicate_eq]

end Bindings

namespace Statement

theorem connected_written (isFirst : Bool) (bound : Nat) (conditions : List Condition) :
    connected isFirst (written bound conditions) = conditionPieces isFirst bound conditions := by
  induction conditions generalizing isFirst bound with
  | nil => rfl
  | cons condition rest ih => rw [written, connected, ih, conditionPieces]

variable (statement : Statement)

theorem parameters_eq :
    statement.parameters = statement.selection.conditions.flatMap (·.predicate.parameters) := by
  rw [parameters, bindings, Bindings.parameters_foldl_add, List.nil_append]

theorem wherePieces_eq :
    statement.wherePieces = conditionPieces true 0 statement.selection.conditions := by
  rw [wherePieces, bindings, Bindings.conditions_foldl_add, List.nil_append]
  exact connected_written true 0 statement.selection.conditions

theorem sourcePieces_eq :
    sourcePieces statement =
      .name statement.table :: (statement.selection.joins.flatMap (joinPieces statement.table) ++
        conditionPieces true 0 statement.selection.conditions) := by
  rw [sourcePieces, wherePieces_eq]

end Statement

end RowGate.Sql
