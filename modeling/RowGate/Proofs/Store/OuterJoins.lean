import RowGate.Proofs.Plan
import RowGate.Proofs.Store.History
import RowGate.Proofs.Store.Joining
import RowGate.Proofs.Store.Selecting
import RowGate.Regex.Tabular

set_option autoImplicit false

namespace RowGate

-- The padded row has every column, with null where the row itself has no such field.
def Completes (columns : List String) (row padded : Row) : Prop :=
  ∀ column ∈ columns, padded.get? column = some (row.value column)

theorem get?_padRow_eq_value_iff (row : Row) (padding : List String) (column : String) :
    (padRow row padding).get? column = some (row.value column) ↔
      row.has column = true ∨ column ∈ padding := by
  rw [get?_padRow, Row.value, Keyed.has]
  cases row.get? column <;> simp

theorem completes_padRow_iff (columns padding : List String) (row : Row) :
    Completes columns row (padRow row padding) ↔
      ∀ column ∈ columns, row.has column = true ∨ column ∈ padding := by
  simp only [Completes, get?_padRow_eq_value_iff]

namespace Store

section

variable (engine : Regex.Engine)

theorem matching_single (store : Store) (table other : Table) (query : Query) (join : Join)
    (working : Working) (single : query.joins = [join])
    (found : store.tables.get? join.table = some other)
    (matched : store.matching engine table (.ofPlan query.plan) = .ok working) :
    working.rows =
      (joinRows join.kind ⟨join.leftKey, join.rightKey⟩ table.rows other.schema.columns
        other.rows).filter (Selection.accepts engine query.conditions) := by
  obtain ⟨joined, stepped, -, rfl⟩ := matching_cases engine store table _ working matched
  rw [Selection.ofPlan_plan, single, List.foldlM_cons] at stepped
  obtain ⟨first, stepped, done⟩ := (bind_eq_ok_iff _ _ _).mp stepped
  cases done
  obtain ⟨_, there, -, -, rows⟩ := joinStep_cases store _ joined join stepped
  obtain rfl := Option.some.inj (found.symm.trans there)
  rw [Selection.ofPlan_plan, rows]

/-- A query with one join has the pairs merged and each row without match padded. A left join gives it
the columns that the other table declares and those that some row of that table has; a right join gives
it the latter only. -/
theorem matching_outerJoin (store : Store) (table other : Table) (query : Query) (join : Join)
    (working : Working) (single : query.joins = [join])
    (found : store.tables.get? join.table = some other)
    (matched : store.matching engine table (.ofPlan query.plan) = .ok working) :
    let keys : JoinKeys := ⟨join.leftKey, join.rightKey⟩
    let padding := paddingOf join.kind other.schema.columns table.rows other.rows
    working.rows.Perm
        (((keys.pairs table.rows other.rows).map (fun pair => mergeRows pair.1 pair.2) ++
          (keys.unmatched join.kind table.rows other.rows).map (padRow · padding)).filter
            (Selection.accepts engine query.conditions)) ∧
      (join.kind = .left → ∀ (left : Row) (columns : List String),
        Completes columns left (padRow left padding) ↔ ∀ column ∈ columns, left.has column = true ∨
          column ∈ other.schema.columns.map (·.name) ∨ ∃ right ∈ other.rows, right.has column = true) ∧
      (join.kind = .right → ∀ (right : Row) (columns : List String),
        Completes columns right (padRow right padding) ↔ ∀ column ∈ columns, right.has column = true ∨
          ∃ left ∈ table.rows, left.has column = true) := by
  intro keys padding
  refine ⟨?_, ?_, ?_⟩
  next =>
    rw [matching_single engine store table other query join working single found matched]
    exact (joinRows_perm keys table.rows other.schema.columns other.rows join.kind).filter _
  next =>
    intro kind left columns
    have padded : padding = other.schema.columns.map (·.name) ++ rowKeys other.rows := by
      simp only [padding, kind, paddingOf]
    rw [completes_padRow_iff, padded]
    simp only [List.mem_append, mem_rowKeys_iff]
  next =>
    intro kind right columns
    have padded : padding = rowKeys table.rows := by
      simp only [padding, kind, paddingOf]
    rw [completes_padRow_iff, padded]
    simp only [mem_rowKeys_iff]

end

def authorsSchema : Schema where
  name := "authors"
  columns := [{ name := "id" }, { name := "name" }]

def postsSchema : Schema where
  name := "posts"
  columns := [{ name := "id" }, { name := "author" }, { name := "title" }]

def post (id author : String) : Row :=
  [("author", .string author), ("id", .string id)]

def postsStore : Store :=
  (empty keyText).applyAll
    [.define authorsSchema, .define postsSchema, .insert "posts" (post "p1" "a1")]

def withPosts (kind : JoinKind) : Query where
  select := ["*"]
  joins := [⟨kind, "posts", "id", "author"⟩]

def postsTable : Table where
  schema := postsSchema
  rows := [post "p1" "a1"]

def strangersTable : Table where
  schema := authorsSchema
  rows := [[("id", .string "a2")]]

def strangersStore : Store :=
  postsStore.apply (.insert "authors" [("id", .string "a2")])

theorem matching_outerJoin_strangers :
    strangersStore.lookup "authors" = .ok strangersTable ∧
    (∃ working, strangersStore.matching Regex.unlimited strangersTable
        (.ofPlan (withPosts .left).plan) = .ok working ∧
      Completes ["id", "author", "title"] [("id", .string "a2")]
        (padRow [("id", .string "a2")] ["id", "author", "title", "author", "id"])) ∧
    ∃ working, strangersStore.matching Regex.unlimited strangersTable
        (.ofPlan (withPosts .right).plan) = .ok working ∧
      ¬ Completes ["id", "name"] (post "p1" "a1") (padRow (post "p1" "a1") ["id"]) := by
  refine ⟨rfl, ?_, ?_⟩
  next =>
    obtain ⟨-, left, -⟩ := matching_outerJoin Regex.unlimited strangersStore strangersTable postsTable
      (withPosts .left)
      ⟨.left, "posts", "id", "author"⟩ _ rfl rfl rfl
    exact ⟨_, rfl, (left rfl _ _).mpr (by decide)⟩
  next =>
    obtain ⟨-, -, right⟩ := matching_outerJoin Regex.unlimited strangersStore strangersTable postsTable
      (withPosts .right)
      ⟨.right, "posts", "id", "author"⟩ _ rfl rfl rfl
    exact ⟨_, rfl, (right rfl _ _).not.mpr (by decide)⟩

theorem not_completes_rightJoin :
    postsStore.select Regex.unlimited "authors" (withPosts .right) = .ok [post "p1" "a1"] ∧
      JoinKeys.unmatched ⟨"id", "author"⟩ .right [] [post "p1" "a1"] = [post "p1" "a1"] ∧
      ¬ Completes (authorsSchema.columns.map (·.name)) (post "p1" "a1") (post "p1" "a1") := by
  refine ⟨congrArg Except.ok (List.mergeSort_singleton _), rfl, ?_⟩
  intro completed
  cases completed "name" (by decide)

end Store

end RowGate
