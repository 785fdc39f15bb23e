import RowGate.Error
import RowGate.Text.Pieces
import RowGate.Number.Decimal

set_option autoImplicit false

namespace RowGate

def isIdentifierChar (c : Char) : Bool :=
  c.isAlphanum || c = '_'

def isIdentifierText (text : List Char) : Bool :=
  !text.isEmpty && text.all isIdentifierChar

def isIdentifier (name : String) : Bool :=
  isIdentifierText name.toList

def checkIdentifier (name : String) : Except Error Unit :=
  if isIdentifier name then .ok () else .error (.invalidIdentifier name)

def lowerAscii (text : List Char) : List Char :=
  text.map Char.toLower

inductive Operator where
  | eq
  | neq
  | gt
  | gte
  | lt
  | lte
  | like
  | ilike
  | is
  | isIn
  | notIn
  deriving DecidableEq

namespace Operator

def all : List Operator := [.eq, .neq, .gt, .gte, .lt, .lte, .like, .ilike, .is, .isIn, .notIn]

def token : Operator → String
  | .eq => "eq"
  | .neq => "neq"
  | .gt => "gt"
  | .gte => "gte"
  | .lt => "lt"
  | .lte => "lte"
  | .like => "like"
  | .ilike => "ilike"
  | .is => "is"
  | .isIn => "in"
  | .notIn => "not.in"

-- Every spelling of an operator, in lower case; the first one is its token.
def spellings : Operator → List String
  | .notIn => ["not.in", "notin", "not_in"]
  | operator => [operator.token]

def ofText? (text : List Char) : Option Operator :=
  all.find? fun operator => operator.spellings.any fun spelling => spelling.toList = lowerAscii text

def sql : Operator → String
  | .eq => "="
  | .neq => "<>"
  | .gt => ">"
  | .gte => ">="
  | .lt => "<"
  | .lte => "<="
  | .like => "LIKE"
  | .ilike => "ILIKE"
  | .is => "IS"
  | .isIn => "IN"
  | .notIn => "NOT IN"

def isPattern : Operator → Bool
  | .like | .ilike => true
  | _ => false

theorem ofText?_token (operator : Operator) : ofText? operator.token.toList = some operator := by
  cases operator <;> decide

end Operator

-- The wildcard of the wire becomes the one of SQL.
def likePattern (text : List Char) : List Char :=
  text.map fun c => if c = '*' then '%' else c

inductive Direction where
  | asc
  | desc
  deriving DecidableEq

namespace Direction

def token : Direction → String
  | .asc => "asc"
  | .desc => "desc"

def sql : Direction → String
  | .asc => "ASC"
  | .desc => "DESC"

def ofText? (text : List Char) : Option Direction :=
  if lowerAscii text = "asc".toList then some .asc
  else if lowerAscii text = "desc".toList then some .desc
  else none

theorem ofText?_token (direction : Direction) :
    ofText? direction.token.toList = some direction := by
  cases direction <;> decide

end Direction

inductive JoinKind where
  | inner
  | left
  | right
  deriving DecidableEq

namespace JoinKind

def key : JoinKind → String
  | .inner => "join"
  | .left => "leftJoin"
  | .right => "rightJoin"

def sql : JoinKind → String
  | .inner => "INNER JOIN"
  | .left => "LEFT JOIN"
  | .right => "RIGHT JOIN"

def ofKey? (key : String) : Option JoinKind :=
  [JoinKind.inner, .left, .right].find? (·.key = key)

end JoinKind

-- How a condition attaches to the ones before it.
inductive Connective where
  | and
  | or
  deriving DecidableEq

def Connective.key : Connective → String
  | .and => "and"
  | .or => "or"

-- What a key of a query string asks for.
inductive Key where
  | select
  | load
  | order
  | limit
  | offset
  | count
  | group (connective : Connective)
  | join (kind : JoinKind)
  | filter (key : String)
  deriving DecidableEq

namespace Key

def reserved : List Key :=
  [.select, .load, .order, .limit, .offset, .count, .group .and, .group .or,
    .join .inner, .join .left, .join .right]

def text : Key → String
  | .select => "select"
  | .load => "with"
  | .order => "order"
  | .limit => "limit"
  | .offset => "offset"
  | .count => "count"
  | .group connective => connective.key
  | .join kind => kind.key
  | .filter key => key

def ofText (text : String) : Key :=
  match reserved.find? (·.text = text) with
  | some key => key
  | none => .filter text

end Key

def isReserved (key : String) : Bool :=
  Key.reserved.any (·.text = key)

def maxInteger : Nat := 18446744073709551615

-- The leading digits after blanks and one plus sign, at most `maxInteger`.
def coerceInteger (text : List Char) : Nat :=
  let text :=
    match Text.trimStart text with
    | '+' :: rest => rest
    | rest => rest
  min (Decimal.value (text.takeWhile Decimal.isDigit)) maxInteger

-- An integer between blanks, with an optional plus sign, of at most `maxInteger`.
def integer? (text : List Char) : Option Nat :=
  let digits :=
    match Text.trim text with
    | '+' :: rest => rest
    | rest => rest
  if digits = [] ∨ digits.any (!Decimal.isDigit ·) then none
  else if Decimal.value digits ≤ maxInteger then some (Decimal.value digits)
  else none

def dropOpening (text : List Char) : List Char :=
  match text with
  | '(' :: rest => rest
  | rest => rest

def dropClosing (text : List Char) : List Char :=
  if text.getLast? = some ')' then text.dropLast else text

-- The members of a list: one parenthesis on either side is dropped, then blank members are.
def listItems (text : List Char) : List (List Char) :=
  Text.tokens ',' (dropClosing (dropOpening (Text.trim text)))

-- The inside of a list written in parentheses; other texts stay as they are.
def unwrapList (text : List Char) : List Char :=
  match Text.trim text with
  | '(' :: inner => if inner.getLast? = some ')' then inner.dropLast else text
  | _ => text

end RowGate
