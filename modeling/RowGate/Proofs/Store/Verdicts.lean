import RowGate.Proofs.Store.Paging
import RowGate.Regex.Tabular

set_option autoImplicit false

namespace RowGate.Store

/-- The same tables with the same schemas, whatever their rows are. -/
def SameSchemas (left right : Store) : Prop :=
  ∀ name, (left.tables.get? name).map (·.schema) = (right.tables.get? name).map (·.schema)

variable (engine : Regex.Engine)

section

variable {left right : Store} (same : left.SameSchemas right)

include same

theorem SameSchemas.cases (name : String) :
    left.tables.get? name = none ∧ right.tables.get? name = none ∨
      ∃ one other, left.tables.get? name = some one ∧ right.tables.get? name = some other ∧
        one.schema = other.schema := by
  have schemas := same name
  cases here : left.tables.get? name with
  | none =>
    rw [here, Option.map_none, eq_comm, Option.map_eq_none_iff] at schemas
    exact .inl ⟨rfl, schemas⟩
  | some one =>
    rw [here, Option.map_some, eq_comm] at schemas
    obtain ⟨other, there, schemas⟩ := Option.map_eq_some_iff.mp schemas
    exact .inr ⟨one, other, rfl, there, schemas.symm⟩

theorem lookup_inStep (name : String) :
    InStep (fun one other => one.schema = other.schema) (left.lookup name) (right.lookup name) := by
  unfold lookup
  rcases same.cases name with ⟨here, there⟩ | ⟨one, other, here, there, schemas⟩
  next =>
    rw [here, there]
    exact .failed _
  next =>
    rw [here, there]
    exact .succeeded one other schemas

-- A join is checked against the columns declared so far, and only its rows are made of rows.
theorem joinStep_inStep (one other : Working) (join : Join) (known : one.known = other.known) :
    InStep (fun one other : Working => one.known = other.known) (left.joinStep one join)
      (right.joinStep other join) := by
  unfold joinStep
  rcases same.cases join.table with ⟨here, there⟩ | ⟨joined, counterpart, here, there, schemas⟩
  next =>
    rw [here, there]
    exact .failed _
  next =>
    rw [here, there]
    simp only [known, schemas]
    refine .check_bind _ _ _ (.check_bind _ _ _ (.succeeded _ _ ?_))
    rfl

theorem matching_inStep (one other : Table) (schemas : one.schema = other.schema)
    (selection : Selection) :
    InStep (fun one other : Working => one.known = other.known) (left.matching engine one selection)
      (right.matching engine other selection) := by
  have joins := InStep.foldlM left.joinStep right.joinStep selection.joins (joinStep_inStep same)
    ⟨one.schema.declared, one.rows⟩ ⟨other.schema.declared, other.rows⟩ (by rw [schemas])
  refine joins.bind _ _ fun joined counterpart known => ?_
  rw [known]
  exact .check_bind _ _ _ (.succeeded _ _ rfl)

theorem loadRelation_inStep (schema : Schema) (one other : List Row) (name : String) :
    InStep (fun _ _ => True) (left.loadRelation schema one name)
      (right.loadRelation schema other name) := by
  unfold loadRelation
  split
  next => exact .failed _
  next relation _ =>
    exact (lookup_inStep same relation.table).bind _ _ fun _ _ _ => .succeeded _ _ trivial

theorem arrange_inStep (schema : Schema) (selection : Selection) (one other : Working)
    (known : one.known = other.known) :
    InStep (fun _ _ => True) (left.arrange schema selection one)
      (right.arrange schema selection other) := by
  unfold arrange
  rw [known]
  refine .check_bind _ _ _ ?_
  have loads := InStep.foldlM (left.loadRelation schema) (right.loadRelation schema)
    selection.relations (fun one other name _ => loadRelation_inStep same schema one other name)
    (page selection (sortRows selection.order one.rows))
    (page selection (sortRows selection.order other.rows)) trivial
  refine loads.bind _ _ fun _ _ _ => ?_
  split
  next => exact .succeeded _ _ trivial
  next => exact .check_bind _ _ _ (.succeeded _ _ trivial)

theorem select_inStep (name : String) (query : Query) :
    InStep (fun _ _ => True) (left.select engine name query) (right.select engine name query) := by
  refine (lookup_inStep same name).bind _ _ fun one other schemas => ?_
  refine (matching_inStep engine same one other schemas _).bind _ _ fun working counterpart known => ?_
  rw [schemas]
  exact arrange_inStep same other.schema _ working counterpart known

theorem count_inStep (name : String) (query : Query) :
    InStep (fun _ _ => True) (left.count engine name query) (right.count engine name query) := by
  refine (lookup_inStep same name).bind _ _ fun one other schemas => ?_
  exact (matching_inStep engine same one other schemas _).bind _ _ fun _ _ _ => .succeeded _ _ trivial

end

-- A count goes through the first steps of a selection and no others.
theorem select_of_count_failed (store : Store) (name : String) (query : Query) (fault : Error)
    (failed : store.count engine name query = .error fault) : store.select engine name query = .error fault := by
  rw [count_eq] at failed
  cases found : store.lookup name with
  | error other =>
    rw [found] at failed
    cases failed
    rw [select, found]
    rfl
  | ok table =>
    simp only [found, bind, Except.bind] at failed
    simp only [select, found, bind, Except.bind]
    cases matched : store.matching engine table (.ofPlan query.plan) with
    | error other =>
      rw [matched] at failed
      cases failed
      rfl
    | ok working =>
      rw [matched] at failed
      cases failed

/-- Stores with the same schemas refuse the same queries for the same reasons, and what a count refuses
a selection refuses for that reason. -/
theorem query_faults (store : Store) (name : String) (query : Query) (fault : Error) :
    (∀ other, store.SameSchemas other →
      (store.select engine name query = .error fault ↔ other.select engine name query = .error fault) ∧
      (store.count engine name query = .error fault ↔ other.count engine name query = .error fault)) ∧
    (store.count engine name query = .error fault → store.select engine name query = .error fault) := by
  refine ⟨fun other same => ⟨?_, ?_⟩, select_of_count_failed engine store name query fault⟩
  next => exact (select_inStep engine same name query).error_iff fault
  next => exact (count_inStep engine same name query).error_iff fault

def peopleStore (rows : List Row) : Store where
  newKey := keyText
  tables := [("people", { schema := { name := "people", columns := [{ name := "name" }] }, rows })]

def person : Row := [("id", .string "1"), ("name", .string "Ann")]

-- The table declares no such column, which shows whether or not a row is there to be tested.
def olderThanForty : Query where
  select := ["*"]
  filters := [⟨"age", .gt, some "40"⟩]

theorem query_faults_people :
    (peopleStore []).SameSchemas (peopleStore [person]) ∧
      (peopleStore []).count Regex.unlimited "people" olderThanForty = .error (.columnNotFound "age") ∧
      (peopleStore [person]).count Regex.unlimited "people" olderThanForty = .error (.columnNotFound "age") ∧
      (peopleStore [person]).select Regex.unlimited "people" olderThanForty = .error (.columnNotFound "age") := by
  have same : (peopleStore []).SameSchemas (peopleStore [person]) := by
    intro name
    by_cases known : "people" = name <;> simp [peopleStore, Keyed.get?, known]
  have refused : (peopleStore []).count Regex.unlimited "people" olderThanForty =
    .error (.columnNotFound "age") := rfl
  obtain ⟨alike, shared⟩ := query_faults Regex.unlimited (peopleStore []) "people" olderThanForty
    (.columnNotFound "age")
  obtain ⟨selected, counted⟩ := alike (peopleStore [person]) same
  exact ⟨same, refused, counted.mp refused, selected.mp (shared refused)⟩

end RowGate.Store
