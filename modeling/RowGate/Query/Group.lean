import RowGate.Text.Pieces

set_option autoImplicit false

namespace RowGate.Group

def depthAfter (depth : Nat) (c : Char) : Nat :=
  if c = '(' then depth + 1 else if c = ')' then depth - 1 else depth

/-- The pieces between separators at depth zero; `current` is the open piece in reverse, and an empty
last piece is dropped. -/
def piecesFrom (separator : Char) (depth : Nat) (current : List Char) :
    List Char → List (List Char)
  | [] => if current = [] then [] else [current.reverse]
  | c :: rest =>
    if c = separator ∧ depth = 0 then current.reverse :: piecesFrom separator 0 [] rest
    else piecesFrom separator (depthAfter depth c) (c :: current) rest

def pieces (separator : Char) (text : List Char) : List (List Char) :=
  piecesFrom separator 0 [] text

structure Parts where
  column : List Char
  operator : List Char
  value : List Char

def negation : List Char := ['n', 'o', 't', '.']

-- Cuts `column.operator.value`; an operator that starts with `not.` has two words.
def parts? (token : List Char) : Option Parts := do
  let (column, rest) ← Text.cut? '.' token
  if (rest.take 4).map Char.toLower = negation then
    let (word, value) ← Text.cut? '.' (rest.drop 4)
    some { column, operator := negation ++ word, value }
  else
    let (operator, value) ← Text.cut? '.' rest
    some { column, operator, value }

end RowGate.Group
