import Mathlib.Data.List.Induction
import RowGate.Plan

set_option autoImplicit false

namespace RowGate.Step

def join? : Step → Option Join
  | .join joined => some joined
  | _ => none

def filter? : Step → Option Condition
  | .filter condition => some condition
  | _ => none

def select? : Step → Option (List String)
  | .select columns => some columns
  | _ => none

def load? : Step → Option (List String)
  | .load relations => some relations
  | _ => none

def order? : Step → Option Order
  | .order sorted => some sorted
  | _ => none

def limit? : Step → Option Nat
  | .limit rows => some rows
  | _ => none

def offset? : Step → Option Nat
  | .offset rows => some rows
  | _ => none

def names : Step → List String
  | .join joined => [joined.table, joined.leftKey, joined.rightKey]
  | .filter condition => [condition.column]
  | .order sorted => [sorted.column]
  | .select _ | .load _ | .limit _ | .offset _ => []

theorem mem_filterMap_join? (steps : List Step) (joined : Join) :
    joined ∈ steps.filterMap join? ↔ .join joined ∈ steps := by
  have found (step : Step) : step.join? = some joined ↔ step = .join joined := by
    cases step <;> simp [join?]
  simp [List.mem_filterMap, found]

theorem mem_filterMap_filter? (steps : List Step) (condition : Condition) :
    condition ∈ steps.filterMap filter? ↔ .filter condition ∈ steps := by
  have found (step : Step) : step.filter? = some condition ↔ step = .filter condition := by
    cases step <;> simp [filter?]
  simp [List.mem_filterMap, found]

theorem mem_filterMap_order? (steps : List Step) (sorted : Order) :
    sorted ∈ steps.filterMap order? ↔ .order sorted ∈ steps := by
  have found (step : Step) : step.order? = some sorted ↔ step = .order sorted := by
    cases step <;> simp [order?]
  simp [List.mem_filterMap, found]

end RowGate.Step

namespace RowGate.Selection

theorem ofPlan_eq (steps : List Step) :
    ofPlan steps =
      { joins := steps.filterMap Step.join?
        conditions := steps.filterMap Step.filter?
        columns := (steps.filterMap Step.select?).getLast?.getD []
        relations := (steps.filterMap Step.load?).flatten
        order := steps.filterMap Step.order?
        limit := (steps.filterMap Step.limit?).getLast?
        offset := (steps.filterMap Step.offset?).getLast? } := by
  induction steps using List.reverseRecOn with
  | nil => rfl
  | append_singleton steps step ih =>
    have last : ofPlan (steps ++ [step]) = (ofPlan steps).take step := by
      rw [ofPlan, List.foldl_append]
      rfl
    rw [last, ih]
    cases step <;> simp [take, List.filterMap_append, Step.join?, Step.filter?, Step.select?, Step.load?,
      Step.order?, Step.limit?, Step.offset?]

variable (selection : Selection)

theorem foldl_take_joins (joins : List Join) :
    (joins.map Step.join).foldl take selection =
      { selection with joins := selection.joins ++ joins } := by
  induction joins generalizing selection with
  | nil => simp
  | cons join rest ih => simp [take, ih]

theorem foldl_take_conditions (conditions : List Condition) :
    (conditions.map Step.filter).foldl take selection =
      { selection with conditions := selection.conditions ++ conditions } := by
  induction conditions generalizing selection with
  | nil => simp
  | cons condition rest ih => simp [take, ih]

theorem foldl_take_order (orders : List Order) :
    (orders.map Step.order).foldl take selection =
      { selection with order := selection.order ++ orders } := by
  induction orders generalizing selection with
  | nil => simp
  | cons order rest ih => simp [take, ih]

theorem foldl_take_load (relations : List String) :
    (if relations.isEmpty then [] else [Step.load relations]).foldl take selection =
      { selection with relations := selection.relations ++ relations } := by
  cases relations <;> simp [take]

theorem foldl_take_limit (limit : Option Nat) :
    (limit.toList.map Step.limit).foldl take selection =
      { selection with limit := limit.or selection.limit } := by
  cases limit <;> simp [take]

theorem foldl_take_offset (offset : Option Nat) :
    (offset.toList.map Step.offset).foldl take selection =
      { selection with offset := offset.or selection.offset } := by
  cases offset <;> simp [take]

theorem ofPlan_countPlan (query : Query) :
    ofPlan query.countPlan = { joins := query.joins, conditions := query.conditions } := by
  rw [ofPlan, Query.countPlan, List.foldl_append, foldl_take_joins, foldl_take_conditions]
  rfl

theorem ofPlan_plan (query : Query) :
    ofPlan query.plan =
      { joins := query.joins
        conditions := query.conditions
        columns := query.select
        relations := query.load
        order := query.order
        limit := query.limit
        offset := query.offset } := by
  have counted : query.countPlan.foldl take {} =
      { joins := query.joins, conditions := query.conditions } := ofPlan_countPlan query
  rw [ofPlan, Query.plan]
  simp only [List.foldl_append, counted, foldl_take_load, foldl_take_order, foldl_take_limit,
    foldl_take_offset]
  simp [take]

end RowGate.Selection

namespace RowGate.Query

def conditionsWith (connective : Connective) (clauses : List Clause) : List Condition :=
  clauses.filterMap fun clause =>
    (Predicate.ofClause? clause).map fun predicate => ⟨connective, clause.column, predicate⟩

-- The first condition attaches by `and` whatever its connective says.
def openWithAnd : List Condition → List Condition
  | [] => []
  | first :: rest => { first with connective := .and } :: rest

theorem addClause_eq (connective : Connective) (conditions : List Condition) (clause : Clause) :
    addClause connective conditions clause = conditions ++ conditionsWith connective [clause] := by
  rw [addClause, conditionsWith, List.filterMap_cons]
  cases Predicate.ofClause? clause <;> simp

theorem conditionsWith_cons (connective : Connective) (clause : Clause) (rest : List Clause) :
    conditionsWith connective (clause :: rest) =
      conditionsWith connective [clause] ++ conditionsWith connective rest := by
  rw [conditionsWith, conditionsWith, conditionsWith, ← List.filterMap_append]
  rfl

theorem foldl_addClause (connective : Connective) (conditions : List Condition)
    (clauses : List Clause) :
    clauses.foldl (addClause connective) conditions =
      conditions ++ conditionsWith connective clauses := by
  induction clauses generalizing conditions with
  | nil => simp [conditionsWith]
  | cons clause rest ih =>
    rw [List.foldl_cons, addClause_eq, ih, conditionsWith_cons connective clause rest,
      List.append_assoc]

-- Once an alternative has made a condition, the next ones add to it by `or`.
theorem foldl_addAlternative_or (conditions : List Condition) (clauses : List Clause) :
    clauses.foldl addAlternative (.or, conditions) =
      (.or, conditions ++ conditionsWith .or clauses) := by
  induction clauses generalizing conditions with
  | nil => simp [conditionsWith]
  | cons clause rest ih =>
    have step : addAlternative (.or, conditions) clause =
        (.or, conditions ++ conditionsWith .or [clause]) := by
      simp [addAlternative, addClause_eq]
    rw [List.foldl_cons, step, ih, conditionsWith_cons .or clause rest, List.append_assoc]

theorem foldl_addAlternative (conditions : List Condition) (clauses : List Clause) :
    (clauses.foldl addAlternative (.and, conditions)).2 =
      conditions ++ openWithAnd (conditionsWith .or clauses) := by
  induction clauses with
  | nil => simp [conditionsWith, openWithAnd]
  | cons clause rest ih =>
    cases made : Predicate.ofClause? clause with
    | none =>
      have step : addAlternative (.and, conditions) clause = (.and, conditions) := by
        simp [addAlternative, addClause, made]
      rw [List.foldl_cons, step, ih, conditionsWith, conditionsWith, List.filterMap_cons, made]
      rfl
    | some predicate =>
      have step : addAlternative (.and, conditions) clause =
          (.or, conditions ++ [⟨.and, clause.column, predicate⟩]) := by
        simp [addAlternative, addClause, made]
      rw [List.foldl_cons, step, foldl_addAlternative_or, conditionsWith, conditionsWith,
        List.filterMap_cons, made]
      simp [openWithAnd]

theorem conditions_eq (query : Query) :
    query.conditions = conditionsWith .and (query.filters ++ query.andGroup) ++
      openWithAnd (conditionsWith .or query.orGroup) := by
  rw [conditions, foldl_addAlternative, foldl_addClause, List.nil_append]

theorem predicates_conditionsWith (connective : Connective) (clauses : List Clause) :
    (conditionsWith connective clauses).map (·.predicate) =
      clauses.filterMap Predicate.ofClause? := by
  rw [conditionsWith, List.map_filterMap]
  congr 1
  funext clause
  simp [Option.map_map, Function.comp_def]

theorem predicates_openWithAnd (conditions : List Condition) :
    (openWithAnd conditions).map (·.predicate) = conditions.map (·.predicate) := by
  cases conditions <;> rfl

theorem predicates_conditions (query : Query) :
    query.conditions.map (·.predicate) = query.clauses.filterMap Predicate.ofClause? := by
  rw [conditions_eq, List.map_append, predicates_openWithAnd, predicates_conditionsWith,
    predicates_conditionsWith, ← List.filterMap_append]
  rfl

end RowGate.Query
