import RowGate.Proofs.Plan
import RowGate.Proofs.Store.Writes
import RowGate.Store.Select

set_option autoImplicit false

namespace RowGate

def Query.bare (query : Query) : Query :=
  { query with select := [], load := [], limit := none, offset := none }

theorem not_isInternal_checkKnown (known : Option (List String)) (column : String) :
    ¬IsInternal (checkKnown known column) := by
  unfold checkKnown
  split
  next =>
    split
    next => exact not_isInternal_ok ()
    next => simp [Error.errorClass]
  next => exact not_isInternal_ok ()

theorem FieldTest.not_isInternal_check (test : FieldTest) : ¬IsInternal test.check := by
  unfold check
  split
  next => simp [Error.errorClass]
  next => exact not_isInternal_ok ()

namespace Store

variable (engine : Regex.Engine)

theorem not_isInternal_joinStep (store : Store) (working : Working) (join : Join) :
    ¬IsInternal (store.joinStep working join) := by
  unfold joinStep
  split
  next => simp [Error.errorClass]
  next =>
    refine not_isInternal_bind _ _ (not_isInternal_checkKnown _ _) fun _ _ => ?_
    exact not_isInternal_bind _ _ (not_isInternal_checkKnown _ _) fun _ _ => not_isInternal_ok _

theorem not_isInternal_checkCondition (known : Option (List String)) (condition : Condition) :
    ¬IsInternal (checkCondition engine known condition) :=
  not_isInternal_bind _ _ (not_isInternal_checkKnown _ _) fun _ _ =>
    (condition.predicate.test engine).not_isInternal_check

theorem not_isInternal_matching (store : Store) (table : Table) (selection : Selection) :
    ¬IsInternal (store.matching engine table selection) := by
  refine not_isInternal_bind _ _
    (not_isInternal_foldlM _ _ _ store.not_isInternal_joinStep) fun joined _ => ?_
  exact not_isInternal_bind _ _
    (not_isInternal_forM _ _ (not_isInternal_checkCondition engine joined.known)) fun _ _ =>
      not_isInternal_ok _

def Loads (store : Store) (schema : Schema) (name : String) : Prop :=
  ∃ relation table, schema.relation? name = some relation ∧
    store.tables.get? relation.table = some table

def Strands (store : Store) (schema : Schema) (name : String) : Prop :=
  ∃ relation, schema.relation? name = some relation ∧ store.tables.get? relation.table = none

section

variable (store : Store) (schema : Schema) (rows : List Row)

theorem loads_iff (name : String) :
    store.Loads schema name ↔ ∃ loaded, store.loadRelation schema rows name = .ok loaded := by
  unfold Loads loadRelation
  cases schema.relation? name with
  | none => simp
  | some relation =>
    cases found : store.tables.get? relation.table with
    | none => simp [lookup, found, bind, Except.bind]
    | some table => simp [lookup, found, bind, Except.bind]

theorem isInternal_loadRelation_iff (name : String) :
    IsInternal (store.loadRelation schema rows name) ↔ store.Strands schema name := by
  unfold Strands loadRelation
  cases schema.relation? name with
  | none => simp [Error.errorClass]
  | some relation =>
    cases found : store.tables.get? relation.table with
    | none => simp [lookup, found, bind, Except.bind, Error.errorClass]
    | some table => simp [lookup, found, bind, Except.bind]

def StrandsOn (relations : List String) : Prop :=
  ∃ early name late, relations = early ++ name :: late ∧
    (∀ other ∈ early, store.Loads schema other) ∧ store.Strands schema name

theorem strandsOn_cons_iff (name : String) (rest : List String) :
    store.StrandsOn schema (name :: rest) ↔
      store.Strands schema name ∨ store.Loads schema name ∧ store.StrandsOn schema rest := by
  constructor
  next =>
    rintro ⟨early, stranded, late, cut, loaded, missing⟩
    cases early with
    | nil =>
      cases cut
      exact .inl missing
    | cons first early =>
      cases cut
      obtain ⟨first, others⟩ := List.forall_mem_cons.mp loaded
      exact .inr ⟨first, early, stranded, late, rfl, others, missing⟩
  next =>
    rintro (missing | ⟨first, early, stranded, late, rfl, loaded, missing⟩)
    next => exact ⟨[], name, rest, rfl, by simp, missing⟩
    next => exact ⟨name :: early, stranded, late, rfl, List.forall_mem_cons.mpr ⟨first, loaded⟩, missing⟩

theorem isInternal_loadRelations_iff (relations : List String) :
    IsInternal (relations.foldlM (store.loadRelation schema) rows) ↔
      store.StrandsOn schema relations := by
  induction relations generalizing rows with
  | nil => simp [StrandsOn, pure, Except.pure]
  | cons name rest ih =>
    rw [List.foldlM_cons, isInternal_bind_iff, isInternal_loadRelation_iff, strandsOn_cons_iff,
      store.loads_iff schema rows]
    simp only [ih, exists_and_right]

end

theorem isInternal_arrange_iff (store : Store) (schema : Schema) (selection : Selection)
    (working : Working) :
    IsInternal (store.arrange schema selection working) ↔
      (selection.order.forM fun order => checkKnown working.known order.column) = .ok () ∧
        store.StrandsOn schema selection.relations := by
  have ordered : ¬IsInternal (selection.order.forM fun order =>
      checkKnown working.known order.column) :=
    not_isInternal_forM _ _ fun order => not_isInternal_checkKnown working.known order.column
  have kept (loaded : List Row) : ¬IsInternal (if selection.selectsAll then .ok loaded else do
      selection.columns.forM (checkKnown working.known)
      .ok (loaded.map (project selection))) := by
    split
    next => exact not_isInternal_ok loaded
    next =>
      exact not_isInternal_bind _ _ (not_isInternal_forM _ _ (not_isInternal_checkKnown working.known))
        fun _ _ => not_isInternal_ok _
  rw [arrange, isInternal_check_bind_iff _ _ ordered]
  dsimp only
  rw [isInternal_bind_iff, isInternal_loadRelations_iff]
  simp only [kept, and_false, exists_false, or_false]

theorem arrange_bare (store : Store) (schema : Schema) (query : Query) (working : Working) :
    store.arrange schema (.ofPlan query.bare.plan) working =
      (query.order.forM fun order => checkKnown working.known order.column).map fun _ =>
        sortRows query.order working.rows := by
  rw [Selection.ofPlan_plan]
  rfl

theorem select_bare_iff (store : Store) (name : String) (query : Query) (table : Table)
    (found : store.tables.get? name = some table) :
    (∃ rows, store.select engine name query.bare = .ok rows) ↔
      ∃ working, store.matching engine table (.ofPlan query.plan) = .ok working ∧
        (query.order.forM fun order => checkKnown working.known order.column) = .ok () := by
  have looked := (lookup_eq_ok_iff store name table).mpr found
  have same : store.matching engine table (.ofPlan query.bare.plan) =
      store.matching engine table (.ofPlan query.plan) := by
    rw [Selection.ofPlan_plan, Selection.ofPlan_plan]
    rfl
  have selected : store.select engine name query.bare =
      (store.matching engine table (.ofPlan query.plan) >>= fun working =>
        (query.order.forM fun order => checkKnown working.known order.column).map fun _ =>
          sortRows query.order working.rows) := by
    simp only [← store.arrange_bare table.schema query, ← same]
    rw [select, looked]
    rfl
  rw [selected]
  cases store.matching engine table (.ofPlan query.plan) with
  | error fault => simp [bind, Except.bind]
  | ok working =>
    simp only [bind, Except.bind, Except.ok.injEq, exists_eq_left']
    generalize (query.order.forM fun order => checkKnown working.known order.column) = ordered
    cases ordered <;> simp [Except.map]

theorem isInternal_select_iff (store : Store) (name : String) (query : Query) (table : Table)
    (found : store.tables.get? name = some table) :
    IsInternal (store.select engine name query) ↔
      (∃ rows, store.select engine name query.bare = .ok rows) ∧
        store.StrandsOn table.schema query.load := by
  have looked := (lookup_eq_ok_iff store name table).mpr found
  have selected : store.select engine name query = store.matching engine table (.ofPlan query.plan) >>=
      store.arrange table.schema (.ofPlan query.plan) := by
    rw [select, looked]
    rfl
  rw [select_bare_iff engine store name query table found, selected, isInternal_bind_iff]
  simp only [not_isInternal_matching, false_or, isInternal_arrange_iff]
  simp only [Selection.ofPlan_plan, ← and_assoc, exists_and_right]

section

variable (store : Store) (name id : String) (values : Row) (table : Table)
  (found : store.tables.get? name = some table)

theorem not_isInternal_checkRow (row : Row) (replaced : Option Nat) :
    ¬IsInternal (store.checkRow name table row replaced) := by
  refine not_isInternal_bind _ _ (not_isInternal_forM _ _ (not_isInternal_checkKnown _)) fun _ _ => ?_
  refine not_isInternal_bind _ _ (not_isInternal_forM _ _ fun column => ?_) fun _ _ =>
    not_isInternal_forM _ _ fun relation => ?_
  next =>
    unfold Table.checkUnique
    split
    next => exact not_isInternal_ok ()
    next => split <;> simp [Error.errorClass]
  next =>
    unfold checkBelonging
    split
    next => split <;> simp [Error.errorClass]
    next => exact not_isInternal_ok ()

include found

theorem not_isInternal_lookup : ¬IsInternal (store.lookup name) := by
  rw [(lookup_eq_ok_iff store name table).mpr found]
  exact not_isInternal_ok table

theorem not_isInternal_find : ¬IsInternal (store.find name id) :=
  not_isInternal_bind _ _ (store.not_isInternal_lookup name table found) fun _ _ =>
    not_isInternal_ok _

theorem not_isInternal_insert : ¬IsInternal (store.insert name values) := by
  refine not_isInternal_bind _ _ (store.not_isInternal_lookup name table found) fun table _ => ?_
  exact not_isInternal_bind _ _ (store.not_isInternal_checkRow name table _ none) fun _ _ =>
    not_isInternal_ok _

theorem not_isInternal_update : ¬IsInternal (store.update name id values) := by
  refine not_isInternal_bind _ _ (store.not_isInternal_lookup name table found) fun table _ => ?_
  split
  next => exact not_isInternal_ok _
  next =>
    exact not_isInternal_bind _ _ (store.not_isInternal_checkRow name table _ _) fun _ _ =>
      not_isInternal_ok _

theorem not_isInternal_delete : ¬IsInternal (store.delete name id) := by
  refine not_isInternal_bind _ _ (store.not_isInternal_lookup name table found) fun table _ => ?_
  split <;> exact not_isInternal_ok _

end

end Store

end RowGate
