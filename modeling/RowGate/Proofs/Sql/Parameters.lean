import RowGate.Proofs.Plan
import RowGate.Proofs.Sql.Statement

set_option autoImplicit false

namespace RowGate

-- What a predicate is apart from its values.
inductive Predicate.Shape where
  | compare (operator : Operator)
  | isNull
  | isNotNull
  | isIn (count : Nat)
  | notIn (count : Nat)
  deriving DecidableEq

def Predicate.shape : Predicate → Shape
  | .compare operator _ => .compare operator
  | .isNull => .isNull
  | .isNotNull => .isNotNull
  | .isIn values => .isIn values.length
  | .notIn values => .notIn values.length

theorem Predicate.length_parameters (first second : Predicate) (same : first.shape = second.shape) :
    first.parameters.length = second.parameters.length := by
  cases first <;> cases second <;> simp_all [shape, parameters]

def Clause.outline (clause : Clause) : String × Operator × Option Predicate.Shape :=
  (clause.column, clause.operator, (Predicate.ofClause? clause).map Predicate.shape)

def Condition.outline (condition : Condition) : Connective × String × Predicate.Shape :=
  (condition.connective, condition.column, condition.predicate.shape)

-- Two queries that differ in the values of their clauses only, and in these by no shape.
structure Query.SameButValues (first second : Query) : Prop where
  select : first.select = second.select
  load : first.load = second.load
  filters : first.filters.map Clause.outline = second.filters.map Clause.outline
  andGroup : first.andGroup.map Clause.outline = second.andGroup.map Clause.outline
  orGroup : first.orGroup.map Clause.outline = second.orGroup.map Clause.outline
  joins : first.joins = second.joins
  order : first.order = second.order
  limit : first.limit = second.limit
  offset : first.offset = second.offset
  count : first.count = second.count

namespace Query

theorem outline_conditionsWith (connective : Connective) (clauses : List Clause) :
    (conditionsWith connective clauses).map Condition.outline =
      (clauses.map Clause.outline).filterMap fun (column, _, shape) =>
        shape.map fun shape => (connective, column, shape) := by
  rw [conditionsWith, List.map_filterMap, List.filterMap_map]
  congr 1
  funext clause
  simp [Option.map_map, Function.comp_def, Clause.outline, Condition.outline]

theorem outline_openWithAnd (first second : List Condition)
    (same : first.map Condition.outline = second.map Condition.outline) :
    (openWithAnd first).map Condition.outline = (openWithAnd second).map Condition.outline := by
  cases first with
  | nil =>
    cases second with
    | nil => rfl
    | cons _ _ => simp at same
  | cons condition rest =>
    cases second with
    | nil => simp at same
    | cons other more =>
      simp only [List.map_cons, List.cons.injEq, Condition.outline, Prod.mk.injEq] at same
      simp [openWithAnd, Condition.outline, same]

theorem outline_conditions (first second : Query) (same : first.SameButValues second) :
    first.conditions.map Condition.outline = second.conditions.map Condition.outline := by
  have conjuncts : (conditionsWith .and (first.filters ++ first.andGroup)).map Condition.outline =
      (conditionsWith .and (second.filters ++ second.andGroup)).map Condition.outline := by
    rw [outline_conditionsWith, outline_conditionsWith, List.map_append, List.map_append,
      same.filters, same.andGroup]
  have disjuncts : (conditionsWith .or first.orGroup).map Condition.outline =
      (conditionsWith .or second.orGroup).map Condition.outline := by
    rw [outline_conditionsWith, outline_conditionsWith, same.orGroup]
  rw [conditions_eq, conditions_eq, List.map_append, List.map_append, conjuncts,
    outline_openWithAnd _ _ disjuncts]

def values (query : Query) : List String :=
  (query.clauses.filterMap Predicate.ofClause?).flatMap Predicate.parameters

end Query

namespace Sql.Statement

theorem predicatePieces_congr (bound : Nat) (column : String) (first second : Predicate)
    (same : first.shape = second.shape) :
    predicatePieces bound column first = predicatePieces bound column second := by
  have membership (left right : List String) (count : left.length = right.length) :
      predicatePieces bound column (.isIn left) = predicatePieces bound column (.isIn right) ∧
        predicatePieces bound column (.notIn left) = predicatePieces bound column (.notIn right) := by
    cases left with
    | nil =>
      rw [List.length_eq_zero_iff.1 count.symm]
      exact ⟨rfl, rfl⟩
    | cons value rest =>
      cases right with
      | nil => simp at count
      | cons other more => simp only [predicatePieces, count, and_self]
  cases first with
  | compare operator value =>
    cases second with
    | compare _ _ =>
      cases same
      rfl
    | _ => cases same
  | isNull =>
    cases second with
    | isNull => rfl
    | _ => cases same
  | isNotNull =>
    cases second with
    | isNotNull => rfl
    | _ => cases same
  | isIn values =>
    cases second with
    | isIn others => exact (membership values others (Predicate.Shape.isIn.inj same)).1
    | _ => cases same
  | notIn values =>
    cases second with
    | notIn others => exact (membership values others (Predicate.Shape.notIn.inj same)).2
    | _ => cases same

theorem conditionPieces_congr (isFirst : Bool) (bound : Nat) (first second : List Condition)
    (same : first.map Condition.outline = second.map Condition.outline) :
    conditionPieces isFirst bound first = conditionPieces isFirst bound second := by
  induction first generalizing isFirst bound second with
  | nil =>
    cases second with
    | nil => rfl
    | cons _ _ => simp at same
  | cons condition rest ih =>
    cases second with
    | nil => simp at same
    | cons other more =>
      simp only [List.map_cons, List.cons.injEq, Condition.outline, Prod.mk.injEq] at same
      obtain ⟨⟨connective, column, shape⟩, further⟩ := same
      rw [conditionPieces, conditionPieces, connective, column, predicatePieces_congr _ _ _ _ shape,
        Predicate.length_parameters _ _ shape, ih _ _ more further]

-- The values are the parameters, and the placeholders count them from one.
structure Parameterized (statement : Statement) (values : List String) : Prop where
  parameters : statement.parameters = values
  conditions : placeholderIndices
      (Piece.text statement.wherePieces) =
    List.range' 1 values.length
  text : placeholderIndices statement.text = List.range' 1 values.length
  countText : placeholderIndices statement.countText = List.range' 1 values.length

theorem parameterized_of_conditions (statement : Statement) (query : Query)
    (same : statement.selection.conditions = query.conditions) :
    statement.Parameterized query.values := by
  have parameters : statement.parameters = query.values := by
    rw [parameters_eq, same, Query.values, ← Query.predicates_conditions, List.flatMap_map]
  refine ⟨parameters, ?_, ?_, ?_⟩
  · rw [wherePieces_eq, Piece.placeholderIndices_text _ (trail_conditionPieces true 0 _).apart,
      filterMap_index?_conditionPieces, ← parameters_eq, parameters]
  · rw [Statement.text, Piece.placeholderIndices_text _ (areApart_pieces statement),
      filterMap_index?_pieces, parameters]
  · rw [Statement.countText, Piece.placeholderIndices_text _ (areApart_countPieces statement),
      filterMap_index?_countPieces, parameters]

theorem text_congr (table : String) (selection : Selection) (conditions : List Condition)
    (same : selection.conditions.map Condition.outline = conditions.map Condition.outline) :
    text ⟨table, selection⟩ = text ⟨table, { selection with conditions }⟩ ∧
      countText ⟨table, selection⟩ = countText ⟨table, { selection with conditions }⟩ := by
  have source : sourcePieces ⟨table, selection⟩ = sourcePieces ⟨table, { selection with conditions }⟩ := by
    rw [sourcePieces_eq, sourcePieces_eq, conditionPieces_congr true 0 _ conditions same]
  constructor
  · rw [text, text, pieces, pieces, source]
    rfl
  · rw [countText, countText, countPieces, countPieces, source]

theorem ofPlan_parameterized (table : String) (query : Query) :
    ((ofPlan table query.plan).Parameterized query.values ∧
      (ofPlan table query.countPlan).Parameterized query.values) ∧
    ∀ other, query.SameButValues other →
      ((ofPlan table query.plan).text = (ofPlan table other.plan).text ∧
        (ofPlan table query.plan).countText = (ofPlan table other.plan).countText) ∧
      (ofPlan table query.countPlan).text = (ofPlan table other.countPlan).text ∧
        (ofPlan table query.countPlan).countText = (ofPlan table other.countPlan).countText := by
  refine ⟨⟨?_, ?_⟩, ?_⟩
  · apply parameterized_of_conditions
    rw [ofPlan, Selection.ofPlan_plan]
  · apply parameterized_of_conditions
    rw [ofPlan, Selection.ofPlan_countPlan]
  · intro other same
    have outlines := Query.outline_conditions query other same
    have listed : Selection.ofPlan other.plan =
        { Selection.ofPlan query.plan with conditions := other.conditions } := by
      rw [Selection.ofPlan_plan, Selection.ofPlan_plan, same.joins, same.select, same.load,
        same.order, same.limit, same.offset]
    have counted : Selection.ofPlan other.countPlan =
        { Selection.ofPlan query.countPlan with conditions := other.conditions } := by
      rw [Selection.ofPlan_countPlan, Selection.ofPlan_countPlan, same.joins]
    unfold ofPlan
    rw [listed, counted]
    constructor
    · apply text_congr
      rw [Selection.ofPlan_plan]
      exact outlines
    · apply text_congr
      rw [Selection.ofPlan_countPlan]
      exact outlines

def dollarQuery (first second : String) : Query where
  filters := [⟨"a\"$9", .eq, some first⟩, ⟨"b", .is, some "never"⟩]
  andGroup := [⟨"c", .isIn, some ("(" ++ second ++ ",$3)")⟩]
  orGroup := [⟨"d", .notIn, some ""⟩, ⟨"e", .like, some second⟩]

theorem ofPlan_dollarQuery :
    (dollarQuery "1" "x").SameButValues (dollarQuery "$7\" OR 1 = 1" "y") ∧
      (ofPlan "t\"$5" (dollarQuery "1" "x").plan).Parameterized ["1", "x", "$3", "x"] ∧
      (ofPlan "t\"$5" (dollarQuery "1" "x").plan).text =
        (ofPlan "t\"$5" (dollarQuery "$7\" OR 1 = 1" "y").plan).text :=
  have same : (dollarQuery "1" "x").SameButValues (dollarQuery "$7\" OR 1 = 1" "y") :=
    ⟨rfl, rfl, by decide, by decide, by decide, rfl, rfl, rfl, rfl, rfl⟩
  have values : (dollarQuery "1" "x").values = ["1", "x", "$3", "x"] := by decide
  have whole := ofPlan_parameterized "t\"$5" (dollarQuery "1" "x")
  ⟨same, values ▸ whole.1.1, (whole.2 _ same).1.1⟩

end Sql.Statement

end RowGate
