import RowGate.Number.Double
import RowGate.Query.Basic
import RowGate.Text.Pieces

set_option autoImplicit false

namespace RowGate

inductive Scalar where
  | text (value : String)
  | boolean (value : Bool)
  | integer (value : Int)
  | double (value : Double)

namespace Scalar

-- A double is written without exponent, a whole one without point, and a tie goes up.
def doubleLayout : Double.Layout where
  positional _ := true
  keepsPoint := false
  tie := .upper

def write : Scalar → String
  | .text value => value
  | .boolean true => "true"
  | .boolean false => "false"
  | .integer value => Decimal.integerText value
  | .double value => .ofList (doubleLayout.text value)

end Scalar

structure Builder where
  query : Query := {}
  limit : Option Int := none
  offset : Option Int := none
  deriving DecidableEq

namespace Builder

inductive Edit where
  | select (columns : List String)
  | load (relations : List String)
  | filter (column : String) (operator : Operator) (value : String)
  | group (connective : Connective) (clauses : List Clause)
  | join (join : Join)
  | order (order : Order)
  | limit (rows : Int)
  | offset (rows : Int)
  -- Pages count from one.
  | page (number size : Int)
  | count

def listText (items : List String) : String :=
  .ofList (Text.join ',' (items.map String.toList))

namespace Edit

def compare (operator : Operator) (column : String) (value : Scalar) : Edit :=
  .filter column operator value.write

def isIn (column : String) (items : List String) : Edit :=
  .filter column .isIn (listText items)

def notIn (column : String) (items : List String) : Edit :=
  .filter column .notIn (listText items)

def orderBy (column direction : String) : Edit :=
  .order { column, direction := (Direction.ofText? direction.toList).getD .asc }

end Edit

def leastInteger : Int := -9223372036854775808

def greatestInteger : Int := 9223372036854775807

def saturate (n : Int) : Int :=
  max leastInteger (min greatestInteger n)

def pageOffset (number size : Int) : Int :=
  saturate (saturate (number - 1) * size)

def addToGroup (query : Query) (clauses : List Clause) : Connective → Query
  | .and => { query with andGroup := query.andGroup ++ clauses }
  | .or => { query with orGroup := query.orGroup ++ clauses }

def apply (builder : Builder) : Edit → Builder
  | .select columns =>
    { builder with query := { builder.query with select := builder.query.select ++ columns } }
  | .load relations =>
    { builder with query := { builder.query with load := builder.query.load ++ relations } }
  | .filter column operator value =>
    let clause : Clause := { column, operator, value := some value }
    { builder with query := { builder.query with filters := builder.query.filters ++ [clause] } }
  | .group connective clauses =>
    { builder with query := addToGroup builder.query clauses connective }
  | .join join =>
    { builder with query := { builder.query with joins := builder.query.joins ++ [join] } }
  | .order order =>
    { builder with query := { builder.query with order := builder.query.order ++ [order] } }
  | .limit rows => { builder with limit := some rows }
  | .offset rows => { builder with offset := some rows }
  | .page number size =>
    { builder with limit := some size, offset := some (pageOffset number size) }
  | .count => { builder with query := { builder.query with count := true } }

def ofEdits (edits : List Edit) : Builder :=
  edits.foldl apply {}

def valueText (clause : Clause) : String :=
  clause.value.getD ""

def filterPair (clause : Clause) : String × String :=
  (clause.column ++ "." ++ clause.operator.token, valueText clause)

def isWrapped (text : List Char) : Bool :=
  text.head? = some '(' && text.getLast? = some ')'

def isMembership : Operator → Bool
  | .isIn | .notIn => true
  | _ => false

-- A list stands in parentheses, which keep its commas inside the clause.
def memberText (clause : Clause) : List Char :=
  let value := (valueText clause).toList
  let value :=
    if isMembership clause.operator && !isWrapped value then '(' :: value ++ [')'] else value
  clause.column.toList ++ '.' :: clause.operator.token.toList ++ '.' :: value

def groupText (clauses : List Clause) : String :=
  .ofList ('(' :: Text.join ',' (clauses.map memberText) ++ [')'])

def joinText (join : Join) : String :=
  join.table ++ ":" ++ join.leftKey ++ "=" ++ join.rightKey

def orderText (order : Order) : String :=
  order.column ++ "." ++ order.direction.token

def pairOf (key : Key) (value : String) : String × String :=
  (key.text, value)

def listPair (key : Key) (items : List String) : List (String × String) :=
  if items = [] then [] else [pairOf key (listText items)]

def groupPair (connective : Connective) (clauses : List Clause) : List (String × String) :=
  if clauses = [] then [] else [pairOf (.group connective) (groupText clauses)]

def numberPair (key : Key) (value : Option Int) : List (String × String) :=
  (value.map fun n => pairOf key (Decimal.integerText n)).toList

def pairs (builder : Builder) : List (String × String) :=
  let query := builder.query
  listPair .select query.select ++ listPair .load query.load ++ query.filters.map filterPair ++
    groupPair .and query.andGroup ++ groupPair .or query.orGroup ++
    query.joins.map (fun join => pairOf (.join join.kind) (joinText join)) ++
    query.order.map (fun order => pairOf .order (orderText order)) ++
    numberPair .limit builder.limit ++ numberPair .offset builder.offset ++
    if query.count then [pairOf .count ""] else []

end Builder

end RowGate
