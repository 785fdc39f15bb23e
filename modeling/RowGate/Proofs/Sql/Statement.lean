import RowGate.Proofs.Sql.Bindings
import RowGate.Proofs.Sql.Lexer

set_option autoImplicit false

namespace RowGate.Sql

namespace Statement

open Piece

theorem areApart_placeholders (bound count : Nat) : areApart (placeholders bound count) = true := by
  apply areApart_separated ", " (by decide) (by decide)
  intro group member
  obtain ⟨index, -, rfl⟩ := List.mem_map.1 member
  rfl

theorem areApart_predicatePieces (bound : Nat) (column : String) (predicate : Predicate) :
    areApart (predicatePieces bound column predicate) = true := by
  have list (opening : String) (count : Nat) (bare : isBare (.fixed opening) = true)
      (closing : closes (.fixed opening) = true) :
      areApart (.name column :: .fixed opening :: (placeholders bound count ++ [.fixed ")"])) =
        true := by
    have items := areApart_append (placeholders bound count) [.fixed ")"]
      (areApart_placeholders bound count) (by decide) (by decide)
    exact areApart_name_cons column _ (trail_fixed_cons opening _ bare closing items)
  cases predicate with
  | compare operator value => cases operator <;> rfl
  | isNull | isNotNull => rfl
  | isIn values =>
    cases values with
    | nil => rfl
    | cons value rest => exact list " IN (" (value :: rest).length (by decide) (by decide)
  | notIn values =>
    cases values with
    | nil => rfl
    | cons value rest => exact list " NOT IN (" (value :: rest).length (by decide) (by decide)

theorem trail_conditionPieces (isFirst : Bool) (bound : Nat) (conditions : List Condition) :
    Trail (conditionPieces isFirst bound conditions) := by
  induction conditions generalizing isFirst bound with
  | nil => exact Trail.nil
  | cons condition rest ih =>
    have further := ih false (bound + condition.predicate.parameters.length)
    apply trail_fixed_cons
    · cases isFirst <;> cases condition.connective <;> decide
    · cases isFirst <;> cases condition.connective <;> decide
    · exact areApart_append _ _ (areApart_predicatePieces bound condition.column _)
        further.apart further.closing

theorem trail_joinPieces (table : String) (joins : List Join) :
    Trail (joins.flatMap (joinPieces table)) := by
  induction joins with
  | nil => exact Trail.nil
  | cons join rest ih =>
    obtain ⟨kind, joined, leftKey, rightKey⟩ := join
    apply Trail.append _ _ _ ih
    refine ⟨?_, by simp [joinPieces, closes, Decimal.isDigit]⟩
    cases kind <;> simp [joinPieces, areApart, isBare, isOpen, closes, JoinKind.sql, Decimal.isDigit]

theorem areApart_sourcePieces (statement : Statement) :
    areApart (sourcePieces statement) = true := by
  rw [sourcePieces_eq]
  exact areApart_name_cons statement.table _
    (Trail.append _ _ (trail_joinPieces _ _) (trail_conditionPieces _ _ _))

theorem trail_orderPieces (orders : List Order) : Trail (orderPieces orders) := by
  cases orders with
  | nil => exact Trail.nil
  | cons order rest =>
    apply trail_fixed_cons " ORDER BY " _ (by decide) (by decide)
    apply areApart_separated ", " (by decide) (by decide)
    intro group member
    obtain ⟨⟨column, direction⟩, -, rfl⟩ := List.mem_map.1 member
    cases direction <;> simp [areApart, isBare, isOpen, closes, Direction.sql, Decimal.isDigit]

theorem trail_pagePieces (selection : Selection) : Trail (pagePieces selection) := by
  unfold pagePieces
  cases selection.limit <;> cases selection.offset <;> exact ⟨rfl, rfl⟩

theorem areApart_columnPieces (selection : Selection) :
    areApart (columnPieces selection) = true := by
  unfold columnPieces
  split
  · rfl
  · apply areApart_separated ", " (by decide) (by decide)
    intro group member
    obtain ⟨column, -, rfl⟩ := List.mem_map.1 member
    rfl

theorem areApart_pieces (statement : Statement) : areApart (pieces statement) = true := by
  have source := trail_fixed_cons " FROM " _ (by decide) (by decide) (areApart_sourcePieces statement)
  have order := trail_orderPieces statement.selection.order
  have page := trail_pagePieces statement.selection
  have columns := areApart_fixed_cons "SELECT " _ (by decide)
    (areApart_columnPieces statement.selection)
  unfold pieces
  have front := areApart_append _ _ columns source.apart source.closing
  have ordered := areApart_append _ _ front order.apart order.closing
  exact areApart_append _ _ ordered page.apart page.closing

theorem areApart_countPieces (statement : Statement) : areApart (countPieces statement) = true :=
  areApart_fixed_cons _ _ (by decide) (areApart_sourcePieces statement)

end Statement

namespace Token

def index? : Token → Option Nat
  | .placeholder index => some index
  | .quoted _ | .symbol _ => none

end Token

def placeholderIndices (text : String) : List Nat :=
  (tokens text.toList).filterMap Token.index?

namespace Piece

def index? : Piece → Option Nat
  | .placeholder index => some index
  | .fixed _ | .name _ | .number _ => none

theorem filterMap_index?_symbols (text : List Char) :
    (text.map Token.symbol).filterMap Token.index? = [] := by
  simp [List.filterMap_map, Function.comp_def, Token.index?]

theorem filterMap_index?_tokens (piece : Piece) :
    piece.tokens.filterMap Token.index? = piece.index?.toList := by
  cases piece with
  | fixed text => exact filterMap_index?_symbols _
  | number value => exact filterMap_index?_symbols _
  | name text =>
    simp only [tokens]
    split <;> rfl
  | placeholder index => rfl

theorem placeholderIndices_text (pieces : List Piece) (apart : areApart pieces = true) :
    placeholderIndices (text pieces) = pieces.filterMap index? := by
  rw [placeholderIndices, text, String.toList_ofList, tokens_flatMap_write pieces apart]
  induction pieces with
  | nil => rfl
  | cons piece rest ih =>
    simp only [areApart, Bool.and_eq_true] at apart
    rw [List.flatMap_cons, List.filterMap_append, filterMap_index?_tokens, ih apart.2]
    cases found : piece.index? <;> simp [found]

theorem filterMap_index?_separated (separator : String) (groups : List (List Piece)) :
    (separated separator groups).filterMap index? = groups.flatMap (·.filterMap index?) := by
  induction groups with
  | nil => rfl
  | cons first rest ih =>
    cases rest with
    | nil => simp [separated]
    | cons next more =>
      rw [separated, List.filterMap_append, List.filterMap_cons_none rfl, ih]
      rfl

end Piece

namespace Statement

open Piece

theorem filterMap_index?_placeholders (bound count : Nat) :
    (placeholders bound count).filterMap index? = List.range' (bound + 1) count := by
  rw [placeholders, filterMap_index?_separated, List.flatMap_map, List.range'_eq_map_range]
  change (List.range count).flatMap (fun index => [bound + index + 1]) = _
  rw [← List.map_eq_flatMap]
  apply List.map_congr_left
  intro index _
  omega

theorem filterMap_index?_predicatePieces (bound : Nat) (column : String) (predicate : Predicate) :
    (predicatePieces bound column predicate).filterMap index? =
      List.range' (bound + 1) predicate.parameters.length := by
  cases predicate with
  | compare operator value => rfl
  | isNull | isNotNull => rfl
  | isIn values | notIn values =>
    cases values with
    | nil => rfl
    | cons value rest =>
      simp only [predicatePieces, List.filterMap_append, filterMap_index?_placeholders]
      change [] ++ List.range' (bound + 1) (value :: rest).length ++ [] = _
      rw [List.nil_append, List.append_nil]
      rfl

theorem filterMap_index?_conditionPieces (isFirst : Bool) (bound : Nat)
    (conditions : List Condition) :
    (conditionPieces isFirst bound conditions).filterMap index? =
      List.range' (bound + 1) (conditions.flatMap (·.predicate.parameters)).length := by
  induction conditions generalizing isFirst bound with
  | nil => rfl
  | cons condition rest ih =>
    rw [conditionPieces, List.filterMap_cons_none rfl, List.filterMap_append,
      filterMap_index?_predicatePieces, ih, List.flatMap_cons, List.length_append,
      Nat.add_right_comm, List.range'_append_1]

-- Only conditions hold placeholders.
theorem filterMap_index?_sourcePieces (statement : Statement) :
    (sourcePieces statement).filterMap index? = List.range' 1 statement.parameters.length := by
  have joins : (statement.selection.joins.flatMap (joinPieces statement.table)).filterMap index? =
      [] := by
    rw [List.filterMap_flatMap]
    simp [joinPieces, index?]
  rw [sourcePieces_eq, List.filterMap_cons_none rfl, List.filterMap_append, joins,
    filterMap_index?_conditionPieces, parameters_eq]
  rfl

theorem filterMap_index?_pieces (statement : Statement) :
    (pieces statement).filterMap index? = List.range' 1 statement.parameters.length := by
  have columns : (columnPieces statement.selection).filterMap index? = [] := by
    unfold columnPieces
    split
    · rfl
    · rw [filterMap_index?_separated]
      simp [List.flatMap_map, index?]
  have order : (orderPieces statement.selection.order).filterMap index? = [] := by
    cases statement.selection.order with
    | nil => rfl
    | cons first rest =>
      rw [orderPieces, List.filterMap_cons_none rfl, filterMap_index?_separated]
      · simp [List.flatMap_map, index?]
      · simp
  have page : (pagePieces statement.selection).filterMap index? = [] := by
    unfold pagePieces
    cases statement.selection.limit <;> cases statement.selection.offset <;> rfl
  simp only [pieces, List.filterMap_append, columns, order, page,
    filterMap_index?_sourcePieces, List.filterMap_cons]
  simp [index?]

theorem filterMap_index?_countPieces (statement : Statement) :
    (countPieces statement).filterMap index? = List.range' 1 statement.parameters.length := by
  rw [countPieces, List.filterMap_cons_none rfl, filterMap_index?_sourcePieces]

end Statement

end RowGate.Sql
