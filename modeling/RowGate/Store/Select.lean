import RowGate.Store.Basic

set_option autoImplicit false

namespace RowGate.Store

-- Rows on their way through a selection, and the columns they may have.
structure Working where
  known : Option (List String)
  rows : List Row

def joinStep (store : Store) (working : Working) (join : Join) : Except Error Working := do
  match store.tables.get? join.table with
  | none => .error (.invalidParameter ("unknown join table '" ++ join.table ++ "'"))
  | some joined =>
    checkKnown working.known join.leftKey
    checkKnown joined.schema.declared join.rightKey
    let rows := joinRows join.kind ⟨join.leftKey, join.rightKey⟩ working.rows joined.schema.columns
      joined.rows
    let known :=
      match working.known, joined.schema.declared with
      | some left, some right => some (left ++ right)
      | _, _ => none
    .ok { known, rows }

def checkCondition (engine : Regex.Engine) (known : Option (List String)) (condition : Condition) :
    Except Error Unit := do
  checkKnown known condition.column
  (condition.predicate.test engine).check

def matching (engine : Regex.Engine) (store : Store) (table : Table) (selection : Selection) :
    Except Error Working := do
  let start : Working := { known := table.schema.declared, rows := table.rows }
  let joined ← selection.joins.foldlM store.joinStep start
  selection.conditions.forM (checkCondition engine joined.known)
  .ok { joined with rows := joined.rows.filter (Selection.accepts engine selection.conditions) }

def compareBy (left right : Row) (order : Order) : Ordering :=
  let ascending := compareValues (left.value order.column) (right.value order.column)
  match order.direction with
  | .asc => ascending
  | .desc => ascending.swap

-- The first column that tells the rows apart decides.
def compareRows (orders : List Order) (left right : Row) : Ordering :=
  match orders with
  | [] => .eq
  | order :: rest => (compareBy left right order).then (compareRows rest left right)

def sortRows (orders : List Order) (rows : List Row) : List Row :=
  rows.mergeSort fun left right => (compareRows orders left right).isLE

def page (selection : Selection) (rows : List Row) : List Row :=
  let rest := rows.drop (selection.offset.getD 0)
  match selection.limit with
  | some limit => rest.take limit
  | none => rest

def related (relation : Relation) (rows : List Row) (key : Json) : Json :=
  let found := rows.filter fun row => sameValue (row.value relation.foreignKey) key
  if relation.many then .array (found.map .object)
  else ((found.head?).map .object).getD .null

def loadRelation (store : Store) (schema : Schema) (rows : List Row) (name : String) :
    Except Error (List Row) := do
  match schema.relation? name with
  | none => .error (.invalidParameter ("unknown relation '" ++ name ++ "'"))
  | some relation =>
    let other ← store.lookup relation.table
    .ok (rows.map fun row => row.insert name (related relation other.rows (row.value relation.localKey)))

def project (selection : Selection) (row : Row) : Row :=
  row.filter fun field =>
    selection.columns.contains field.1 || selection.relations.contains field.1

def arrange (store : Store) (schema : Schema) (selection : Selection) (working : Working) :
    Except Error (List Row) := do
  selection.order.forM fun order => checkKnown working.known order.column
  let rows := page selection (sortRows selection.order working.rows)
  let loaded ← selection.relations.foldlM (store.loadRelation schema) rows
  if selection.selectsAll then .ok loaded
  else
    selection.columns.forM (checkKnown working.known)
    .ok (loaded.map (project selection))

def select (engine : Regex.Engine) (store : Store) (name : String) (query : Query) :
    Except Error (List Row) := do
  let table ← store.lookup name
  let selection := Selection.ofPlan query.plan
  let working ← store.matching engine table selection
  store.arrange table.schema selection working

def count (engine : Regex.Engine) (store : Store) (name : String) (query : Query) :
    Except Error Nat := do
  let table ← store.lookup name
  let working ← store.matching engine table (.ofPlan query.countPlan)
  .ok working.rows.length

end RowGate.Store
