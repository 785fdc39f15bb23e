import RowGate.Proofs.Plan
import RowGate.Store.Filter

set_option autoImplicit false

namespace RowGate

section

variable (engine : Regex.Engine)

def Condition.holds (row : Row) (condition : Condition) : Bool :=
  condition.predicate.holds engine (row.value condition.column)

namespace Selection

variable (row : Row)

theorem foldl_combine_and (before : Bool) (conditions : List Condition)
    (conjuncts : ∀ condition ∈ conditions, condition.connective = .and) :
    conditions.foldl (combine engine row) before = (before && conditions.all (·.holds engine row)) := by
  induction conditions generalizing before with
  | nil => simp
  | cons condition rest ih =>
    obtain ⟨first, others⟩ := List.forall_mem_cons.1 conjuncts
    rw [List.foldl_cons, ih _ others, combine, first, List.all_cons, ← Bool.and_assoc]
    rfl

theorem foldl_combine_or (before : Bool) (conditions : List Condition)
    (disjuncts : ∀ condition ∈ conditions, condition.connective = .or) :
    conditions.foldl (combine engine row) before = (before || conditions.any (·.holds engine row)) := by
  induction conditions generalizing before with
  | nil => simp
  | cons condition rest ih =>
    obtain ⟨first, others⟩ := List.forall_mem_cons.1 disjuncts
    rw [List.foldl_cons, ih _ others, combine, first, List.any_cons, ← Bool.or_assoc]
    rfl

theorem accepts_append (first : Condition) (ands ors : List Condition)
    (conjuncts : ∀ condition ∈ ands, condition.connective = .and)
    (disjuncts : ∀ condition ∈ ors, condition.connective = .or) :
    accepts engine (first :: ands ++ ors) row =
      ((first :: ands).all (·.holds engine row) || ors.any (·.holds engine row)) := by
  rw [List.cons_append, accepts, List.foldl_append, foldl_combine_or _ _ _ _ disjuncts,
    foldl_combine_and _ _ _ _ conjuncts]
  rfl

/-- Every conjunct and the first alternative hold, or one of the other alternatives does. -/
def chain (conjuncts alternatives : List Bool) : Bool :=
  match alternatives with
  | [] => conjuncts.all id
  | first :: rest => (conjuncts.all id && first) || rest.any id

-- A list that opens with `and` may be folded from true, so it needs no first condition.
theorem accepts_conjuncts (ands ors : List Condition)
    (conjuncts : ∀ condition ∈ ands, condition.connective = .and) :
    accepts engine (ands ++ Query.openWithAnd ors) row =
      (Query.openWithAnd ors).foldl (combine engine row) (ands.all (·.holds engine row)) := by
  cases ands with
  | nil => cases ors <;> simp [accepts, Query.openWithAnd, combine]
  | cons first rest =>
    obtain ⟨-, others⟩ := List.forall_mem_cons.1 conjuncts
    rw [List.cons_append, accepts, List.foldl_append, foldl_combine_and _ _ _ _ others]
    rfl

theorem accepts_openWithAnd (ands ors : List Condition)
    (conjuncts : ∀ condition ∈ ands, condition.connective = .and)
    (disjuncts : ∀ condition ∈ ors, condition.connective = .or) :
    accepts engine (ands ++ Query.openWithAnd ors) row =
      chain (ands.map (·.holds engine row)) (ors.map (·.holds engine row)) := by
  rw [accepts_conjuncts engine row ands ors conjuncts]
  cases ors with
  | nil => simp [Query.openWithAnd, chain]
  | cons opening rest =>
    obtain ⟨-, others⟩ := List.forall_mem_cons.1 disjuncts
    rw [Query.openWithAnd, List.foldl_cons, foldl_combine_or _ _ _ _ others]
    simp [chain, combine, Condition.holds]

end Selection

def Clause.truth? (row : Row) (clause : Clause) : Option Bool :=
  (Predicate.ofClause? clause).map fun predicate => predicate.holds engine (row.value clause.column)

def Clause.hasPredicate (clause : Clause) : Bool :=
  (Predicate.ofClause? clause).isSome

namespace Query

theorem connective_of_mem_conditionsWith (connective : Connective) (clauses : List Clause)
    (condition : Condition) (member : condition ∈ conditionsWith connective clauses) :
    condition.connective = connective := by
  obtain ⟨clause, -, made⟩ := List.mem_filterMap.1 member
  obtain ⟨predicate, -, rfl⟩ := Option.map_eq_some_iff.1 made
  rfl

-- The first of the conditions that are joined by `or` opens with `and`, so it belongs to the others.
theorem conditions_cases (query : Query) :
    query.conditions = [] ∨ ∃ first ands ors, query.conditions = first :: ands ++ ors ∧
      (∀ condition ∈ ands, condition.connective = .and) ∧
      ∀ condition ∈ ors, condition.connective = .or := by
  have conjuncts := connective_of_mem_conditionsWith .and (query.filters ++ query.andGroup)
  have disjuncts := connective_of_mem_conditionsWith .or query.orGroup
  rw [conditions_eq]
  cases front : conditionsWith .and (query.filters ++ query.andGroup) with
  | nil =>
    cases back : conditionsWith .or query.orGroup with
    | nil => exact .inl rfl
    | cons opening rest =>
      rw [back] at disjuncts
      exact .inr ⟨{ opening with connective := .and }, [], rest, rfl, by simp,
        (List.forall_mem_cons.1 disjuncts).2⟩
  | cons first ands =>
    rw [front] at conjuncts
    have others := (List.forall_mem_cons.1 conjuncts).2
    cases back : conditionsWith .or query.orGroup with
    | nil => exact .inr ⟨first, ands, [], rfl, others, by simp⟩
    | cons opening rest =>
      rw [back] at disjuncts
      refine .inr ⟨first, ands ++ [{ opening with connective := .and }], rest, ?_, ?_,
        (List.forall_mem_cons.1 disjuncts).2⟩
      · simp [openWithAnd]
      · rw [List.forall_mem_append]
        exact ⟨others, by simp⟩

-- No condition that is joined by `and` stands behind one that is joined by `or`.
def Ordered (conditions : List Condition) : Prop :=
  conditions.Pairwise fun earlier later => ¬(earlier.connective = .or ∧ later.connective = .and)

theorem ordered_openWithAnd (ors : List Condition)
    (disjuncts : ∀ condition ∈ ors, condition.connective = .or) : Ordered (openWithAnd ors) := by
  cases ors with
  | nil => exact .nil
  | cons opening rest =>
    obtain ⟨-, others⟩ := List.forall_mem_cons.1 disjuncts
    refine List.pairwise_cons.2 ⟨by simp, List.pairwise_iff_getElem.2 ?_⟩
    intro earlier later _ bound _
    simp [others _ (List.getElem_mem bound)]

theorem ordered_conditions (query : Query) : Ordered query.conditions := by
  have conjuncts := connective_of_mem_conditionsWith .and (query.filters ++ query.andGroup)
  have disjuncts := connective_of_mem_conditionsWith .or query.orGroup
  rw [conditions_eq]
  refine List.pairwise_append.2 ⟨List.pairwise_iff_getElem.2 ?_, ordered_openWithAnd _ disjuncts, ?_⟩
  next =>
    intro earlier later bound _ _
    simp [conjuncts _ (List.getElem_mem bound)]
  next =>
    intro earlier member later _
    simp [conjuncts earlier member]

theorem map_holds_conditionsWith (row : Row) (connective : Connective) (clauses : List Clause) :
    (conditionsWith connective clauses).map (·.holds engine row) =
      clauses.filterMap (Clause.truth? engine row) := by
  rw [conditionsWith, List.map_filterMap]
  congr 1
  funext clause
  simp [Clause.truth?, Option.map_map, Function.comp_def, Condition.holds]

theorem conditionsWith_filter (connective : Connective) (clauses : List Clause) :
    conditionsWith connective (clauses.filter (·.hasPredicate)) = conditionsWith connective clauses := by
  rw [conditionsWith, conditionsWith, List.filterMap_filter]
  congr 1
  funext clause
  cases made : Predicate.ofClause? clause <;> simp [Clause.hasPredicate, made]

def meaningful (query : Query) : Query :=
  { query with
    filters := query.filters.filter (·.hasPredicate)
    andGroup := query.andGroup.filter (·.hasPredicate)
    orGroup := query.orGroup.filter (·.hasPredicate) }

theorem conditions_meaningful (query : Query) : query.meaningful.conditions = query.conditions := by
  rw [conditions_eq, conditions_eq, meaningful, ← List.filter_append, conditionsWith_filter,
    conditionsWith_filter]

/-- A plan and its count record the same conditions, no `and` behind an `or`; they let a row through by
the chain of the clauses' truths, and clauses without predicate may be left out. -/
theorem plan_conditions (query : Query) (row : Row) :
    (Selection.ofPlan query.plan).conditions = (Selection.ofPlan query.countPlan).conditions ∧
    Ordered (Selection.ofPlan query.plan).conditions ∧
    Selection.accepts engine (Selection.ofPlan query.plan).conditions row =
      Selection.chain ((query.filters ++ query.andGroup).filterMap (Clause.truth? engine row))
        (query.orGroup.filterMap (Clause.truth? engine row)) ∧
    (Selection.ofPlan query.meaningful.plan).conditions = (Selection.ofPlan query.plan).conditions := by
  simp only [Selection.ofPlan_plan, Selection.ofPlan_countPlan]
  refine ⟨trivial, query.ordered_conditions, ?_, query.conditions_meaningful⟩
  rw [conditions_eq, Selection.accepts_openWithAnd engine row _ _ (connective_of_mem_conditionsWith _ _)
    (connective_of_mem_conditionsWith _ _), map_holds_conditionsWith, map_holds_conditionsWith]

end Query

end

end RowGate
