import RowGate.Predicate

set_option autoImplicit false

/-!
# Plans

A query is carried out as a list of steps: joins, conditions, the columns, the relations to load, the
order and the page. Counting takes the joins and the conditions only. A selection is what the steps
of a plan add up to, and both the memory store and SQL text carry out a selection.
-/

namespace RowGate

structure Condition where
  connective : Connective
  column : String
  predicate : Predicate
  deriving DecidableEq

inductive Step where
  | join (join : Join)
  | filter (condition : Condition)
  | select (columns : List String)
  | load (relations : List String)
  | order (order : Order)
  | limit (rows : Nat)
  | offset (rows : Nat)
  deriving DecidableEq

namespace Query

-- The conditions with that of a clause; a clause without predicate makes none.
def addClause (connective : Connective) (conditions : List Condition) (clause : Clause) :
    List Condition :=
  match Predicate.ofClause? clause with
  | some predicate => conditions ++ [⟨connective, clause.column, predicate⟩]
  | none => conditions

-- The first alternative that makes a condition stands with the conjuncts, the others chain onto it.
def addAlternative (chain : Connective × List Condition) (clause : Clause) :
    Connective × List Condition :=
  let (connective, conditions) := chain
  let after := addClause connective conditions clause
  (if (Predicate.ofClause? clause).isSome then .or else connective, after)

def conditions (query : Query) : List Condition :=
  let conjuncts := (query.filters ++ query.andGroup).foldl (addClause .and) []
  (query.orGroup.foldl addAlternative (.and, conjuncts)).2

def countPlan (query : Query) : List Step :=
  query.joins.map .join ++ query.conditions.map .filter

def plan (query : Query) : List Step :=
  query.countPlan ++ [.select query.select] ++
    (if query.load.isEmpty then [] else [.load query.load]) ++
    query.order.map .order ++ query.limit.toList.map .limit ++ query.offset.toList.map .offset

end Query

structure Selection where
  joins : List Join := []
  conditions : List Condition := []
  columns : List String := []
  relations : List String := []
  order : List Order := []
  limit : Option Nat := none
  offset : Option Nat := none

namespace Selection

def take (selection : Selection) : Step → Selection
  | .join join => { selection with joins := selection.joins ++ [join] }
  | .filter condition => { selection with conditions := selection.conditions ++ [condition] }
  | .select columns => { selection with columns }
  | .load relations => { selection with relations := selection.relations ++ relations }
  | .order order => { selection with order := selection.order ++ [order] }
  | .limit rows => { selection with limit := some rows }
  | .offset rows => { selection with offset := some rows }

def ofPlan (steps : List Step) : Selection :=
  steps.foldl take {}

def selectsAll (selection : Selection) : Bool :=
  selection.columns.isEmpty || selection.columns.contains "*"

end Selection

end RowGate
