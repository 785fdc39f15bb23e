import RowGate.Number.Decimal

set_option autoImplicit false

namespace RowGate.Sql

inductive Piece where
  | fixed (text : String)
  | name (text : String)
  | placeholder (index : Nat)
  | number (value : Nat)
  deriving DecidableEq

def doubleQuotes : List Char → List Char
  | [] => []
  | c :: rest => if c = '"' then '"' :: '"' :: doubleQuotes rest else c :: doubleQuotes rest

-- The name in quotes; `*` is no name and stays bare.
def quoteName (name : String) : List Char :=
  if name = "*" then ['*'] else '"' :: doubleQuotes name.toList ++ ['"']

namespace Piece

def write : Piece → List Char
  | .fixed text => text.toList
  | .name text => quoteName text
  | .placeholder index => '$' :: Decimal.write index
  | .number value => Decimal.write value

def text (pieces : List Piece) : String :=
  .ofList (pieces.flatMap write)

def separated (separator : String) : List (List Piece) → List Piece
  | [] => []
  | [only] => only
  | first :: next :: rest => first ++ .fixed separator :: separated separator (next :: rest)

end Piece

end RowGate.Sql
