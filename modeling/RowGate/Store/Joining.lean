import RowGate.Schema
import RowGate.Store.Filter

set_option autoImplicit false

namespace RowGate

-- The left row with the fields of the right one that it lacks.
def mergeRows (left right : Row) : Row :=
  right.foldl (fun row field => if row.has field.1 then row else row.insert field.1 field.2) left

def padRow (row : Row) (columns : List String) : Row :=
  columns.foldl (fun row column => if row.has column then row else row.insert column .null) row

def rowKeys (rows : List Row) : List String :=
  rows.flatMap Keyed.keys

structure JoinKeys where
  left : String
  right : String

def JoinKeys.agree (keys : JoinKeys) (left right : Row) : Bool :=
  sameValue (left.value keys.left) (right.value keys.right)

def matchesOfLeft (keys : JoinKeys) (rights : List Row) (left : Row) : List Row :=
  (rights.filter (keys.agree left)).map (mergeRows left)

def matchesOfRight (keys : JoinKeys) (lefts : List Row) (right : Row) : List Row :=
  (lefts.filter (keys.agree · right)).map (mergeRows · right)

def orPadded (row : Row) (padding : List String) : List Row → List Row
  | [] => [padRow row padding]
  | found => found

def joinRows (kind : JoinKind) (keys : JoinKeys) (lefts : List Row) (columns : List Column)
    (rights : List Row) : List Row :=
  match kind with
  | .inner => lefts.flatMap (matchesOfLeft keys rights)
  | .left =>
    let padding := columns.map (·.name) ++ rowKeys rights
    lefts.flatMap fun left => orPadded left padding (matchesOfLeft keys rights left)
  | .right =>
    let padding := rowKeys lefts
    rights.flatMap fun right => orPadded right padding (matchesOfRight keys lefts right)

end RowGate
