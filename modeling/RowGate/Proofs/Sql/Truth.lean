import RowGate.Proofs.Sql.Lexer
import RowGate.Store.Filter

set_option autoImplicit false

namespace RowGate.Sql

inductive Truth where
  | holds
  | fails
  | unknown
  deriving DecidableEq

namespace Truth

def ofBool (value : Bool) : Truth :=
  if value then .holds else .fails

def not : Truth → Truth
  | .holds => .fails
  | .fails => .holds
  | .unknown => .unknown

def and : Truth → Truth → Truth
  | .fails, _ | _, .fails => .fails
  | .holds, .holds => .holds
  | _, _ => .unknown

def or : Truth → Truth → Truth
  | .holds, _ | _, .holds => .holds
  | .fails, .fails => .fails
  | _, _ => .unknown

def all (truths : List Truth) : Truth :=
  truths.foldr and .holds

def any (truths : List Truth) : Truth :=
  truths.foldr or .fails

@[simp] theorem ofBool_eq_holds (value : Bool) : ofBool value = .holds ↔ value = true := by
  cases value <;> decide

@[simp] theorem ofBool_eq_fails (value : Bool) : ofBool value = .fails ↔ value = false := by
  cases value <;> decide

@[simp] theorem not_eq_holds (truth : Truth) : truth.not = .holds ↔ truth = .fails := by
  cases truth <;> decide

theorem and_eq_holds (left right : Truth) :
    left.and right = .holds ↔ left = .holds ∧ right = .holds := by
  cases left <;> cases right <;> decide

theorem or_eq_holds (left right : Truth) :
    left.or right = .holds ↔ left = .holds ∨ right = .holds := by
  cases left <;> cases right <;> decide

theorem all_eq_holds (truths : List Truth) : all truths = .holds ↔ ∀ truth ∈ truths, truth = .holds := by
  induction truths with
  | nil => simp [all]
  | cons truth rest ih => rw [List.forall_mem_cons, ← ih, ← and_eq_holds]; rfl

theorem any_eq_holds (truths : List Truth) : any truths = .holds ↔ ∃ truth ∈ truths, truth = .holds := by
  induction truths with
  | nil => simp [any]
  | cons truth rest ih =>
    simp only [List.mem_cons, exists_eq_or_imp]
    rw [← ih, ← or_eq_holds]
    rfl

end Truth

inductive Test where
  | constant (value : Bool)
  | isNull (column : String)
  | isNotNull (column : String)
  | compare (column : String) (operator : Operator) (value : String)
  | isIn (column : String) (values : List String)
  | notIn (column : String) (values : List String)

namespace Test

variable (engine : Regex.Engine)

-- A field that is there is compared as the store compares it.
def comparison (row : Row) (column : String) (operator : Operator) (value : String) : Truth :=
  let field := row.value column
  if field.isNull then .unknown else .ofBool (((Predicate.compare operator value).test engine).accepts field)

def membership (row : Row) (column : String) (values : List String) : Truth :=
  .any (values.map (comparison engine row column .eq))

def truth (row : Row) : Test → Truth
  | .constant value => .ofBool value
  | .isNull column => .ofBool (row.value column).isNull
  | .isNotNull column => .ofBool !(row.value column).isNull
  | .compare column operator value => comparison engine row column operator value
  | .isIn column values => membership engine row column values
  | .notIn column values => (membership engine row column values).not

end Test

def words (tokens : List Token) : List (List Token) :=
  tokens.splitOn (.symbol ' ')

def keyword (text : String) : List Token :=
  text.toList.map .symbol

def column? : List Token → Option String
  | [.quoted name] => some (.ofList name)
  | [.symbol '*'] => some "*"
  | _ => none

def value? (parameters : List String) : Nat → Option String
  | 0 => none
  | index + 1 => parameters[index]?

def comparisons : List Operator :=
  [.eq, .neq, .gt, .gte, .lt, .lte, .like, .ilike]

def comparison? (word : List Token) : Option Operator :=
  comparisons.find? (keyword ·.sql = word)

-- The values of a list behind its opening parenthesis.
def items? (parameters : List String) : List Token → Option (List String)
  | [.placeholder index, .symbol ')'] => (value? parameters index).map ([·])
  | .placeholder index :: .symbol ',' :: rest => do
    let value ← value? parameters index
    (items? parameters rest).map (value :: ·)
  | _ => none

def list? (parameters : List String) (words : List (List Token)) : Option (List String) :=
  match words.flatten with
  | .symbol '(' :: rest => items? parameters rest
  | _ => none

-- A condition on a column by the words behind the column.
def columnTest? (parameters : List String) (column : String) (words : List (List Token)) :
    Option Test :=
  if words = [keyword "IS", keyword "NULL"] then some (.isNull column)
  else if words = [keyword "IS", keyword "NOT", keyword "NULL"] then some (.isNotNull column)
  else if words.take 1 = [keyword "IN"] then (list? parameters (words.drop 1)).map (.isIn column)
  else if words.take 2 = [keyword "NOT", keyword "IN"] then
    (list? parameters (words.drop 2)).map (.notIn column)
  else
    match words with
    | [operator, [.placeholder index]] => do
      let operator ← comparison? operator
      (value? parameters index).map (.compare column operator)
    | _ => none

def test? (parameters : List String) : List (List Token) → Option Test
  | [[.symbol left], [.symbol '='], [.symbol right]] =>
    if Decimal.isDigit left ∧ Decimal.isDigit right then some (.constant (left = right)) else none
  | column :: rest => do columnTest? parameters (← column? column) rest
  | [] => none

def alternative? (parameters : List String) (words : List (List Token)) : Option (List Test) :=
  (words.splitOn (keyword "AND")).mapM (test? parameters)

-- The conditions of a statement as alternatives, each a list of tests; without `WHERE` there is one
-- alternative without tests.
def alternatives? (parameters : List String) (text : String) : Option (List (List Test)) :=
  match (words (tokens text.toList)).dropWhile (· ≠ keyword "WHERE") with
  | [] => some [[]]
  | _ :: conditions =>
    (conditions.splitOn (keyword "OR")).mapM (alternative? parameters)

-- Whether a row satisfies the conditions of a statement; none where the text does not read as one.
def truth? (engine : Regex.Engine) (text : String) (parameters : List String) (row : Row) :
    Option Truth :=
  (alternatives? parameters text).map fun alternatives =>
    .any (alternatives.map fun tests => .all (tests.map (Test.truth engine row)))

end RowGate.Sql
