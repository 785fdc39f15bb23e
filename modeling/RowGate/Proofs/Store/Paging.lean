import RowGate.Proofs.Plan
import RowGate.Proofs.Store.Selecting

set_option autoImplicit false

namespace RowGate

def Query.unpaged (query : Query) : Query :=
  { query with limit := none, offset := none }

def Selection.unpaged (selection : Selection) : Selection :=
  { selection with limit := none, offset := none }

namespace Store

theorem page_eq (selection : Selection) (rows : List Row) :
    page selection rows =
      (rows.drop (selection.offset.getD 0)).take (selection.limit.getD rows.length) := by
  unfold page
  cases selection.limit with
  | none => simp [List.take_of_length_le]
  | some limit => rfl

theorem page_unpaged (selection : Selection) (rows : List Row) :
    page selection.unpaged rows = rows := by
  simp [page, Selection.unpaged]

theorem page_map (selection : Selection) (change : Row → Row) (rows : List Row) :
    page selection (rows.map change) = (page selection rows).map change := by
  simp [page_eq, List.map_drop, List.map_take]

theorem flatMap_pages {α : Type} (rows : List α) (size pages : Nat)
    (enough : rows.length ≤ pages * size) :
    (List.range pages).flatMap (fun number => (rows.drop (number * size)).take size) = rows := by
  have front : (List.range pages).flatMap (fun number => (rows.drop (number * size)).take size) =
      rows.take (pages * size) := by
    clear enough
    induction pages with
    | zero => simp
    | succ pages ih =>
      rw [List.range_succ, List.flatMap_append, ih, Nat.succ_mul, List.take_add]
      simp
  rw [front, List.take_of_length_le enough]

theorem loadRelation_page (store : Store) (schema : Schema) (selection : Selection)
    (rows : List Row) (name : String) :
    store.loadRelation schema (page selection rows) name =
      (store.loadRelation schema rows name).map (page selection) := by
  unfold loadRelation
  cases schema.relation? name with
  | none => rfl
  | some relation =>
    cases found : store.lookup relation.table with
    | error fault => simp [found, bind, Except.bind, Except.map]
    | ok other => simp [found, bind, Except.bind, Except.map, page_map]

theorem foldlM_loadRelation_page (store : Store) (schema : Schema) (selection : Selection)
    (relations : List String) (rows : List Row) :
    relations.foldlM (store.loadRelation schema) (page selection rows) =
      (relations.foldlM (store.loadRelation schema) rows).map (page selection) := by
  induction relations generalizing rows with
  | nil => rfl
  | cons name rest ih =>
    rw [List.foldlM_cons, List.foldlM_cons, loadRelation_page]
    cases store.loadRelation schema rows name with
    | error fault => rfl
    | ok loaded => exact ih loaded

theorem arrange_eq_map_page (store : Store) (schema : Schema) (selection : Selection)
    (working : Working) :
    store.arrange schema selection working =
      (store.arrange schema selection.unpaged working).map (page selection) := by
  have cut := foldlM_loadRelation_page store schema selection selection.relations
    (sortRows selection.order working.rows)
  have order : selection.unpaged.order = selection.order := rfl
  have relations : selection.unpaged.relations = selection.relations := rfl
  have columns : selection.unpaged.columns = selection.columns := rfl
  have all : selection.unpaged.selectsAll = selection.selectsAll := rfl
  have kept : project selection.unpaged = project selection := rfl
  simp only [arrange, page_unpaged, cut, order, relations, columns, all, kept]
  cases selection.order.forM fun order => checkKnown working.known order.column with
  | error fault => rfl
  | ok checked =>
    cases selection.relations.foldlM (store.loadRelation schema)
        (sortRows selection.order working.rows) with
    | error fault => rfl
    | ok loaded =>
      simp only [bind, Except.bind, Except.map]
      split
      next => rfl
      next =>
        cases selection.columns.forM (checkKnown working.known) with
        | error fault => rfl
        | ok known => exact congrArg Except.ok (page_map selection _ loaded).symm

theorem length_loadRelation (store : Store) (schema : Schema) (rows loaded : List Row)
    (name : String) (done : store.loadRelation schema rows name = .ok loaded) :
    loaded.length = rows.length := by
  unfold loadRelation at done
  cases found : schema.relation? name with
  | none => simp [found] at done
  | some relation =>
    simp only [found] at done
    obtain ⟨other, -, done⟩ := (bind_eq_ok_iff _ _ _).mp done
    cases done
    rw [List.length_map]

theorem length_foldlM_loadRelation (store : Store) (schema : Schema) (relations : List String)
    (rows loaded : List Row)
    (done : relations.foldlM (store.loadRelation schema) rows = .ok loaded) :
    loaded.length = rows.length := by
  induction relations generalizing rows with
  | nil => cases done; rfl
  | cons name rest ih =>
    rw [List.foldlM_cons] at done
    obtain ⟨first, step, done⟩ := (bind_eq_ok_iff _ _ _).mp done
    rw [ih first done, length_loadRelation store schema rows first name step]

theorem length_arrange_unpaged (store : Store) (schema : Schema) (selection : Selection)
    (working : Working) (rows : List Row)
    (done : store.arrange schema selection.unpaged working = .ok rows) :
    rows.length = working.rows.length := by
  obtain ⟨loaded, -, loads, result⟩ := arrange_cases store schema _ working rows done
  have length := length_foldlM_loadRelation store schema _ _ loaded loads
  rw [page_unpaged, sortRows, List.length_mergeSort] at length
  rcases result with ⟨-, rfl⟩ | ⟨-, -, rfl⟩
  next => exact length
  next => rw [List.length_map, length]

variable (engine : Regex.Engine)

theorem count_eq (store : Store) (name : String) (query : Query) :
    store.count engine name query =
      (store.lookup name >>= fun table => store.matching engine table (.ofPlan query.plan)).map
        (·.rows.length) := by
  have same (table : Table) : store.matching engine table (.ofPlan query.countPlan) =
      store.matching engine table (.ofPlan query.plan) := by
    rw [Selection.ofPlan_countPlan, Selection.ofPlan_plan]
    rfl
  unfold count
  cases store.lookup name with
  | error fault => rfl
  | ok table =>
    simp only [bind, Except.bind, same]
    cases store.matching engine table (.ofPlan query.plan) <;> rfl

/-- How the results and the count of a query hang together: the count is the length of the whole
result, whatever shape is asked for, and a result is cut from the whole one. -/
structure Paged (store : Store) (name : String) (query : Query) : Prop where
  counted : ∀ rows, store.select engine name query = .ok rows → ∃ n, store.count engine name query = .ok n
  total : ∀ n all, store.count engine name query = .ok n →
    store.select engine name query.unpaged = .ok all →
    all.length = n
  shapeless : ∀ (select load : List String) (order : List Order) (limit offset : Option Nat),
    store.count engine name { query with select, load, order, limit, offset } = store.count engine name query
  cut : store.select engine name query = (store.select engine name query.unpaged).map fun all =>
    (all.drop (query.offset.getD 0)).take (query.limit.getD all.length)

theorem select_eq_map_cut (store : Store) (name : String) (query : Query) :
    store.select engine name query = (store.select engine name query.unpaged).map fun all =>
      (all.drop (query.offset.getD 0)).take (query.limit.getD all.length) := by
  have whole : Selection.ofPlan query.unpaged.plan = (Selection.ofPlan query.plan).unpaged := by
    rw [Selection.ofPlan_plan, Selection.ofPlan_plan]
    rfl
  have cut : page (.ofPlan query.plan) = fun all =>
      (all.drop (query.offset.getD 0)).take (query.limit.getD all.length) := by
    funext all
    rw [page_eq, Selection.ofPlan_plan]
  unfold select
  cases store.lookup name with
  | error fault => rfl
  | ok table =>
    simp only [bind, Except.bind, whole, ← cut]
    have same : store.matching engine table (Selection.ofPlan query.plan).unpaged =
        store.matching engine table (.ofPlan query.plan) := rfl
    rw [same]
    cases store.matching engine table (.ofPlan query.plan) with
    | error fault => rfl
    | ok working => exact arrange_eq_map_page store table.schema _ working

theorem count_of_select (store : Store) (name : String) (query : Query) (all : List Row)
    (selected : store.select engine name query.unpaged = .ok all) :
    store.count engine name query = .ok all.length := by
  obtain ⟨table, working, found, matched, arranged⟩ := select_cases engine store name _ all selected
  have whole : Selection.ofPlan query.unpaged.plan = (Selection.ofPlan query.plan).unpaged := by
    rw [Selection.ofPlan_plan, Selection.ofPlan_plan]
    rfl
  rw [whole] at matched arranged
  have same : store.matching engine table (.ofPlan query.plan) = .ok working := matched
  rw [length_arrange_unpaged store table.schema _ working all arranged, count_eq, found]
  simp only [bind, Except.bind, same, Except.map]

theorem paged (store : Store) (name : String) (query : Query) : store.Paged engine name query := by
  refine ⟨?_, ?_, fun _ _ _ _ _ => rfl, select_eq_map_cut engine store name query⟩
  next =>
    intro rows selected
    rw [select_eq_map_cut] at selected
    cases whole : store.select engine name query.unpaged with
    | error fault =>
      rw [whole] at selected
      cases selected
    | ok all => exact ⟨all.length, count_of_select engine store name query all whole⟩
  next =>
    intro n all counted whole
    rw [count_of_select engine store name query all whole] at counted
    exact Except.ok.inj counted

end Store

end RowGate
