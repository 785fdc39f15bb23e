import RowGate.Proofs.Sql.Reading
import RowGate.Proofs.Store.Comparing
import RowGate.Proofs.Store.Conditions

set_option autoImplicit false

namespace RowGate

-- A condition that excludes no value from a field that is null or missing.
def Condition.ExcludesNothing (row : Row) (condition : Condition) : Prop :=
  condition.predicate = .notIn [] ∧ (row.value condition.column).isNull = true

namespace Sql

theorem Statement.compares_of_mem_conditions (query : Query) (condition : Condition)
    (member : condition ∈ query.conditions) : Compares condition.predicate := by
  have kept : condition.predicate ∈ query.conditions.map (·.predicate) := List.mem_map_of_mem member
  rw [Query.predicates_conditions] at kept
  obtain ⟨⟨column, operator, value⟩, -, made⟩ := List.mem_filterMap.1 kept
  cases value with
  | none => cases made
  | some value =>
    rw [Predicate.ofClause?.eq_def] at made
    cases operator with
    | is =>
      simp only at made
      split at made
      next => rw [← Option.some.inj made]; trivial
      next =>
        split at made
        next => rw [← Option.some.inj made]; trivial
        next => cases made
    | isIn | notIn => rw [← Option.some.inj made]; trivial
    | _ => rw [← Option.some.inj made]; simp [Compares, comparisons]

namespace Test

variable (engine : Regex.Engine)

theorem membership_present (row : Row) (column : String) (values : List String)
    (present : (row.value column).isNull = false) :
    membership engine row column values = .ofBool (values.any (row.value column).equalsText) := by
  induction values with
  | nil => rfl
  | cons value rest ih =>
    have first : comparison engine row column .eq value = .ofBool ((row.value column).equalsText value) := by
      simp [comparison, present, Predicate.test, Operator.isPattern, FieldTest.accepts, FieldTest.comparison]
    have whole : membership engine row column (value :: rest) =
        (comparison engine row column .eq value).or (membership engine row column rest) := rfl
    rw [whole, first, ih, List.any_cons]
    cases (row.value column).equalsText value <;> cases rest.any (row.value column).equalsText <;> rfl

theorem membership_null (row : Row) (column : String) (value : String) (rest : List String)
    (missing : (row.value column).isNull = true) :
    membership engine row column (value :: rest) = .unknown := by
  have unknown (value : String) : comparison engine row column .eq value = .unknown := by
    simp [comparison, missing]
  have whole (value : String) (rest : List String) : membership engine row column (value :: rest) =
      Truth.unknown.or (membership engine row column rest) := by
    rw [← unknown value]
    rfl
  induction rest generalizing value with
  | nil => exact whole value []
  | cons next more ih =>
    rw [whole, ih next]
    rfl

theorem truth_ofCondition (row : Row) (condition : Condition) :
    (Test.ofCondition condition).truth engine row = .holds ↔
      condition.holds engine row = true ∨ condition.ExcludesNothing row := by
  obtain ⟨connective, column, predicate⟩ := condition
  simp only [ofCondition, Condition.holds, Condition.ExcludesNothing]
  cases missing : (row.value column).isNull with
  | true =>
    rw [Predicate.holds_of_isNull engine predicate _ missing]
    cases predicate with
    | compare operator value => simp [ofPredicate, truth, comparison, missing]
    | isNull | isNotNull => simp [ofPredicate, truth, missing]
    | isIn values =>
      cases values with
      | nil => simp [ofPredicate, truth]
      | cons value rest => simp [ofPredicate, truth, membership_null _ _ _ _ _ missing]
    | notIn values =>
      cases values with
      | nil => simp [ofPredicate, truth]
      | cons value rest => simp [ofPredicate, truth, membership_null _ _ _ _ _ missing, Truth.not]
  | false =>
    rw [Predicate.holds_of_present engine predicate _ missing]
    cases predicate with
    | compare operator value => simp [ofPredicate, truth, comparison, missing]
    | isNull | isNotNull => simp [ofPredicate, truth, missing, Predicate.test, FieldTest.accepts]
    | isIn values =>
      cases values with
      | nil => simp [ofPredicate, truth, Predicate.test, FieldTest.accepts]
      | cons value rest =>
        simp [ofPredicate, truth, membership_present _ _ _ _ missing, Predicate.test, FieldTest.accepts]
    | notIn values =>
      cases values with
      | nil => simp [ofPredicate, truth, Predicate.test, FieldTest.accepts]
      | cons value rest =>
        simp [ofPredicate, truth, membership_present _ _ _ _ missing, Predicate.test, FieldTest.accepts]

end Test

namespace Statement

variable (engine : Regex.Engine)

theorem truth?_eq (text : String) (parameters : List String) (row : Row) (first : List Condition)
    (others : List Condition)
    (read : alternatives? parameters text =
      some (first.map .ofCondition :: others.map fun condition => [.ofCondition condition])) :
    ∃ truth, truth? engine text parameters row = some truth ∧
      (truth = .holds ↔
        (∀ condition ∈ first, condition.holds engine row = true ∨ condition.ExcludesNothing row) ∨
          ∃ condition ∈ others, condition.holds engine row = true ∨ condition.ExcludesNothing row) := by
  rw [truth?, read]
  refine ⟨_, rfl, ?_⟩
  simp only [List.map_cons, Truth.any_eq_holds, List.mem_cons, exists_eq_or_imp, Truth.all_eq_holds]
  simp [Truth.all_eq_holds, Test.truth_ofCondition]

theorem truth?_countText (table : String) (query : Query) (row : Row) :
    ∃ truth, truth? engine (ofPlan table query.countPlan).countText
        (ofPlan table query.countPlan).parameters row = some truth ∧
      (Selection.accepts engine (Selection.ofPlan query.countPlan).conditions row = true → truth = .holds) ∧
      ((∀ condition ∈ (Selection.ofPlan query.countPlan).conditions, ¬condition.ExcludesNothing row) →
        truth = .holds → Selection.accepts engine (Selection.ofPlan query.countPlan).conditions row = true) := by
  have planned : (Selection.ofPlan query.countPlan).conditions = query.conditions := by
    rw [Selection.ofPlan_countPlan]
  have compares := compares_of_mem_conditions query
  obtain empty | ⟨first, ands, ors, shape, conjuncts, disjuncts⟩ := query.conditions_cases
  · have none : (ofPlan table query.countPlan).selection.conditions = [] := planned.trans empty
    rw [planned, empty, truth?, alternatives?_of_empty _ _ none]
    exact ⟨.holds, rfl, fun _ => rfl, fun _ _ => rfl⟩
  · rw [shape] at compares planned
    have read := alternatives?_countText (ofPlan table query.countPlan) first ands ors compares conjuncts
      disjuncts planned
    obtain ⟨truth, computed, holds⟩ := truth?_eq engine _ _ row (first :: ands) ors read
    refine ⟨truth, computed, ?_⟩
    rw [planned, Selection.accepts_append engine row first ands ors conjuncts disjuncts, holds, Bool.or_eq_true,
      List.all_eq_true, List.any_eq_true]
    constructor
    · intro accepted
      refine accepted.imp (fun whole condition member => .inl (whole condition member)) ?_
      exact fun ⟨condition, member, passes⟩ => ⟨condition, member, .inl passes⟩
    · intro apart held
      obtain ⟨front, back⟩ := List.forall_mem_append.1 apart
      refine held.imp (fun whole condition member => ?_) ?_
      · exact (whole condition member).resolve_right (front condition member)
      · intro ⟨condition, member, passes⟩
        exact ⟨condition, member, passes.resolve_right (back condition member)⟩

-- The row lacks the column, and no value is excluded.
def emptyList : Query where
  filters := [⟨"status", .notIn, some ""⟩]

theorem accepts_emptyList :
    truth? Regex.unlimited (ofPlan "users" emptyList.countPlan).countText
        (ofPlan "users" emptyList.countPlan).parameters [] = some .holds ∧
      Selection.accepts Regex.unlimited (Selection.ofPlan emptyList.countPlan).conditions [] = false := by
  constructor
  · rfl
  · rfl

end Statement

end Sql

end RowGate
