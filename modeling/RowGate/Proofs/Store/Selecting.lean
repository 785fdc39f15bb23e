import RowGate.Proofs.Outcome
import RowGate.Store.Select

set_option autoImplicit false

namespace RowGate.Store

variable (engine : Regex.Engine)

theorem select_cases (store : Store) (name : String) (query : Query) (rows : List Row)
    (selected : store.select engine name query = .ok rows) :
    ∃ table working, store.lookup name = .ok table ∧
      store.matching engine table (.ofPlan query.plan) = .ok working ∧
      store.arrange table.schema (.ofPlan query.plan) working = .ok rows := by
  obtain ⟨table, found, selected⟩ := (bind_eq_ok_iff _ _ _).mp selected
  obtain ⟨working, matched, arranged⟩ := (bind_eq_ok_iff _ _ _).mp selected
  exact ⟨table, working, found, matched, arranged⟩

theorem joinStep_cases (store : Store) (before after : Working) (join : Join)
    (stepped : store.joinStep before join = .ok after) :
    ∃ joined, store.tables.get? join.table = some joined ∧
      checkKnown before.known join.leftKey = .ok () ∧
      checkKnown joined.schema.declared join.rightKey = .ok () ∧
      after.rows = joinRows join.kind ⟨join.leftKey, join.rightKey⟩ before.rows joined.schema.columns
        joined.rows := by
  unfold joinStep at stepped
  split at stepped
  next => cases stepped
  next joined found =>
    obtain ⟨left, stepped⟩ := (check_bind_eq_ok_iff _ _ _).mp stepped
    obtain ⟨right, stepped⟩ := (check_bind_eq_ok_iff _ _ _).mp stepped
    cases stepped
    exact ⟨joined, found, left, right, rfl⟩

theorem matching_cases (store : Store) (table : Table) (selection : Selection) (working : Working)
    (matched : store.matching engine table selection = .ok working) :
    ∃ joined, selection.joins.foldlM store.joinStep ⟨table.schema.declared, table.rows⟩ = .ok joined ∧
      selection.conditions.forM (checkCondition engine joined.known) = .ok () ∧
      working = { joined with rows := joined.rows.filter (Selection.accepts engine selection.conditions) } := by
  obtain ⟨joined, stepped, matched⟩ := (bind_eq_ok_iff _ _ _).mp matched
  obtain ⟨checked, matched⟩ := (check_bind_eq_ok_iff _ _ _).mp matched
  cases matched
  exact ⟨joined, stepped, checked, rfl⟩

theorem arrange_cases (store : Store) (schema : Schema) (selection : Selection) (working : Working)
    (rows : List Row) (arranged : store.arrange schema selection working = .ok rows) :
    ∃ loaded, (selection.order.forM fun order => checkKnown working.known order.column) = .ok () ∧
      selection.relations.foldlM (store.loadRelation schema)
        (page selection (sortRows selection.order working.rows)) = .ok loaded ∧
      (selection.selectsAll = true ∧ rows = loaded ∨
        selection.selectsAll = false ∧ selection.columns.forM (checkKnown working.known) = .ok () ∧
          rows = loaded.map (project selection)) := by
  obtain ⟨ordered, arranged⟩ := (check_bind_eq_ok_iff _ _ _).mp arranged
  obtain ⟨loaded, loads, arranged⟩ := (bind_eq_ok_iff _ _ _).mp arranged
  refine ⟨loaded, ordered, loads, ?_⟩
  split at arranged
  next all =>
    cases arranged
    exact .inl ⟨all, rfl⟩
  next some =>
    obtain ⟨known, arranged⟩ := (check_bind_eq_ok_iff _ _ _).mp arranged
    cases arranged
    exact .inr ⟨by simpa using some, known, rfl⟩

end RowGate.Store
