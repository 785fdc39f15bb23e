import RowGate.Error
import RowGate.Plan
import RowGate.Store.Pattern
import RowGate.Store.Value

set_option autoImplicit false

namespace RowGate

namespace Row

def value (row : Row) (column : String) : Json :=
  (row.get? column).getD .null

end Row

/-- What a predicate asks of a field, its pattern compiled or refused. -/
inductive FieldTest where
  | compare (operator : Operator) (value : String)
  | pattern (compiled : Except String Regex.Matcher)
  | isNull
  | isNotNull
  | isIn (values : List String)
  | notIn (values : List String)

namespace FieldTest

def orderIs (field : Json) (text : String) (accepts : Ordering → Bool) : Bool :=
  (field.orderText? text).any accepts

def comparison (operator : Operator) (value : String) (field : Json) : Bool :=
  match operator with
  | .eq => field.equalsText value
  | .neq => !field.equalsText value
  | .gt => orderIs field value (· == .gt)
  | .gte => orderIs field value (· != .lt)
  | .lt => orderIs field value (· == .lt)
  | .lte => orderIs field value (· != .gt)
  | .like | .ilike | .is | .isIn | .notIn => false

def acceptsNull : FieldTest → Bool
  | .isNull => true
  | _ => false

def accepts : FieldTest → Json → Bool
  | .compare operator value, field => comparison operator value field
  | .pattern (.ok isMatch), field => isMatch field.plainText.toList
  | .pattern (.error _), _ => false
  | .isNull, _ => false
  | .isNotNull, _ => true
  | .isIn values, field => values.any field.equalsText
  | .notIn values, field => !values.any field.equalsText

def holds (test : FieldTest) (field : Json) : Bool :=
  if field.isNull then test.acceptsNull else test.accepts field

-- A pattern that the engine refuses makes a query fail.
def check : FieldTest → Except Error Unit
  | .pattern (.error fault) => .error (.invalidFilter fault)
  | _ => .ok ()

end FieldTest

section

variable (engine : Regex.Engine)

namespace Predicate

def test : Predicate → FieldTest
  | .compare operator value =>
    if operator.isPattern then .pattern (Pattern.compile engine (operator = .ilike) value.toList)
    else .compare operator value
  | .isNull => .isNull
  | .isNotNull => .isNotNull
  | .isIn values => .isIn values
  | .notIn values => .notIn values

def holds (predicate : Predicate) (field : Json) : Bool :=
  (predicate.test engine).holds field

end Predicate

namespace Selection

def combine (row : Row) (before : Bool) (condition : Condition) : Bool :=
  let answer := condition.predicate.holds engine (row.value condition.column)
  match condition.connective with
  | .and => before && answer
  | .or => before || answer

-- The first condition stands alone, whatever its connective.
def accepts (conditions : List Condition) (row : Row) : Bool :=
  match conditions with
  | [] => true
  | first :: rest =>
    rest.foldl (combine engine row) (first.predicate.holds engine (row.value first.column))

end Selection

end

end RowGate
