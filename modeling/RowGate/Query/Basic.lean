import RowGate.Grammar

set_option autoImplicit false

namespace RowGate

structure Clause where
  column : String
  operator : Operator
  value : Option String
  deriving DecidableEq

structure Order where
  column : String
  direction : Direction
  deriving DecidableEq

structure Join where
  kind : JoinKind
  table : String
  leftKey : String
  rightKey : String
  deriving DecidableEq

structure Query where
  select : List String := []
  load : List String := []
  filters : List Clause := []
  andGroup : List Clause := []
  orGroup : List Clause := []
  joins : List Join := []
  order : List Order := []
  limit : Option Nat := none
  offset : Option Nat := none
  count : Bool := false
  deriving DecidableEq

namespace Query

def selectsAll (query : Query) : Bool :=
  query.select.isEmpty || query.select.contains "*"

def clauses (query : Query) : List Clause :=
  query.filters ++ query.andGroup ++ query.orGroup

end Query

end RowGate
