import RowGate.Query.Basic

set_option autoImplicit false

namespace RowGate

inductive Predicate where
  | compare (operator : Operator) (value : String)
  | isNull
  | isNotNull
  | isIn (values : List String)
  | notIn (values : List String)
  deriving DecidableEq

namespace Predicate

def ofClause? (clause : Clause) : Option Predicate :=
  match clause.value with
  | none => none
  | some value =>
    match clause.operator with
    | .is =>
      let word := lowerAscii (Text.trim value.toList)
      if word = "null".toList then some .isNull
      else if word = "not.null".toList then some .isNotNull
      else none
    | .isIn => some (.isIn ((listItems value.toList).map .ofList))
    | .notIn => some (.notIn ((listItems value.toList).map .ofList))
    | operator => some (.compare operator value)

def parameters : Predicate → List String
  | .compare _ value => [value]
  | .isNull | .isNotNull => []
  | .isIn values | .notIn values => values

end Predicate

end RowGate
