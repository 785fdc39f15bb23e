import RowGate.Regex.Tabular
import RowGate.Store.Filter

set_option autoImplicit false

namespace RowGate

-- The standings that a comparison lets through.
def Operator.admits : Operator → Option Ordering → Bool
  | .eq, standing => standing == some .eq
  | .neq, standing => standing != some .eq
  | .gt, standing => standing == some .gt
  | .gte, standing => standing == some .gt || standing == some .eq
  | .lt, standing => standing == some .lt
  | .lte, standing => standing == some .lt || standing == some .eq
  | .like, _ | .ilike, _ | .is, _ | .isIn, _ | .notIn, _ => false

def Operator.isComparison : Operator → Bool
  | .eq | .neq | .gt | .gte | .lt | .lte => true
  | _ => false

namespace Json

def isScalar : Json → Bool
  | .string _ | .number _ | .bool _ => true
  | .null | .array _ | .object _ => false

theorem isNull_of_isScalar (field : Json) (scalar : field.isScalar = true) : field.isNull = false := by
  cases field <;> simp_all [isScalar, isNull]

-- Equality is read off by other means than order, kind by kind.
theorem equalsText_eq_beq (field : Json) (text : String) (scalar : field.isScalar = true) :
    field.equalsText text = (field.orderText? text == some .eq) := by
  cases field with
  | string s =>
    rw [Bool.eq_iff_iff]
    simp [equalsText, orderText?, compareTexts]
  | number n => rfl
  | bool b =>
    rw [Bool.eq_iff_iff]
    cases read : boolOfText? text with
    | none => simp [equalsText, orderText?, read]
    | some c => cases b <;> cases c <;> simp [equalsText, orderText?, read, compareBools]
  | null | array | object => cases scalar

end Json

theorem Row.isNull_value (row : Row) (column : String)
    (absent : row.get? column = none ∨ row.get? column = some .null) :
    (row.value column).isNull = true := by
  rcases absent with absent | absent <;> simp [Row.value, absent, Json.isNull]

namespace Predicate

variable (engine : Regex.Engine)

theorem holds_compare_eq_admits (field : Json) (operator : Operator) (text : String)
    (scalar : field.isScalar = true) (comparison : operator.isComparison = true) :
    (compare operator text).holds engine field = operator.admits (field.orderText? text) := by
  have equal := field.equalsText_eq_beq text scalar
  have ordered (accepts : Ordering → Bool) :
      FieldTest.orderIs field text accepts = (field.orderText? text).any accepts := rfl
  have plain : operator.isPattern = false := by cases operator <;> first | rfl | cases comparison
  simp only [holds, test, plain, FieldTest.holds, field.isNull_of_isScalar scalar, Bool.false_eq_true,
    if_false, FieldTest.accepts, FieldTest.comparison]
  generalize field.orderText? text = standing at equal ordered ⊢
  cases operator with
  | eq => exact equal
  | neq => rw [equal]; rfl
  | gt | gte | lt | lte =>
    simp only [ordered]
    rcases standing with _ | _ | _ | _ <;> rfl
  | like | ilike | is | isIn | notIn => cases comparison

theorem holds_isIn_iff (field : Json) (texts : List String) :
    (isIn texts).holds engine field = true ↔
      ∃ text ∈ texts, (compare .eq text).holds engine field = true := by
  cases null : field.isNull with
  | true => simp [holds, test, FieldTest.holds, FieldTest.acceptsNull, Operator.isPattern, null]
  | false =>
    simp [holds, test, FieldTest.holds, FieldTest.accepts, FieldTest.comparison, Operator.isPattern, null]

theorem holds_notIn_iff (field : Json) (texts : List String) (present : field.isNull = false) :
    (notIn texts).holds engine field = true ↔ ¬(isIn texts).holds engine field = true := by
  simp [holds, test, FieldTest.holds, FieldTest.accepts, present]

theorem holds_of_isNull (predicate : Predicate) (field : Json) (null : field.isNull = true) :
    predicate.holds engine field = decide (predicate = .isNull) := by
  rw [holds, FieldTest.holds, if_pos null]
  cases predicate with
  | compare operator value => cases pattern : operator.isPattern <;> simp [test, pattern, FieldTest.acceptsNull]
  | isNull | isNotNull | isIn | notIn => simp [test, FieldTest.acceptsNull]

theorem holds_of_present (predicate : Predicate) (field : Json) (present : field.isNull = false) :
    predicate.holds engine field = (predicate.test engine).accepts field := by
  simp [holds, FieldTest.holds, present]

/-- How the comparisons with one text agree with each other, and those with several texts with them. -/
structure Coherent (field : Json) (text : String) (texts : List String) : Prop where
  neq_iff : (compare .neq text).holds engine field = true ↔ ¬(compare .eq text).holds engine field = true
  lt_apart : (compare .lt text).holds engine field = true →
    ¬(compare .eq text).holds engine field = true ∧ ¬(compare .gt text).holds engine field = true
  gt_apart : (compare .gt text).holds engine field = true → ¬(compare .eq text).holds engine field = true
  gte_iff : (compare .gte text).holds engine field = true ↔
    (compare .gt text).holds engine field = true ∨ (compare .eq text).holds engine field = true
  lte_iff : (compare .lte text).holds engine field = true ↔
    (compare .lt text).holds engine field = true ∨ (compare .eq text).holds engine field = true
  isIn_iff : (isIn texts).holds engine field = true ↔
    ∃ item ∈ texts, (compare .eq item).holds engine field = true
  notIn_iff : (notIn texts).holds engine field = true ↔ ¬(isIn texts).holds engine field = true

theorem coherent_of_isScalar (field : Json) (text : String) (texts : List String)
    (scalar : field.isScalar = true) : Coherent engine field text texts := by
  have admits (operator : Operator) (comparison : operator.isComparison = true) :=
    holds_compare_eq_admits engine field operator text scalar comparison
  have present := field.isNull_of_isScalar scalar
  refine ⟨?_, ?_, ?_, ?_, ?_, holds_isIn_iff engine field texts, holds_notIn_iff engine field texts present⟩
  -- What is left is about the four ways in which the field may stand to the text.
  all_goals
    simp only [admits .eq rfl, admits .neq rfl, admits .gt rfl, admits .gte rfl, admits .lt rfl,
      admits .lte rfl]
    rcases field.orderText? text with _ | _ | _ | _ <;> decide

/-- The comparisons of a string, a number or a boolean agree with each other, and a field that is null
or missing satisfies none of them. -/
theorem comparisons_coherent (text : String) (texts : List String) :
    (∀ field : Json, field.isScalar = true → Coherent engine field text texts) ∧
    ∀ (row : Row) (column : String), row.get? column = none ∨ row.get? column = some .null →
      (∀ operator, (compare operator text).holds engine (row.value column) = false) ∧
        (isIn texts).holds engine (row.value column) = false ∧
        (notIn texts).holds engine (row.value column) = false := by
  refine ⟨fun field scalar => coherent_of_isScalar engine field text texts scalar, ?_⟩
  intro row column absent
  have null := row.isNull_value column absent
  simp [holds_of_isNull engine _ _ null]

def seven : Json := .number (.integer 7)

-- A number meets text that stands for its value, with blanks around it, a sign, or a fraction of zeros.
theorem comparisons_coherent_seven :
    (compare .eq " +7.0 ").holds Regex.unlimited seven = true ∧
      (compare .gte " +7.0 ").holds Regex.unlimited seven = true ∧
      ¬(compare .neq " +7.0 ").holds Regex.unlimited seven = true ∧
      ¬(compare .lt " +7.0 ").holds Regex.unlimited seven = true ∧
      (isIn ["nan", " +7.0 "]).holds Regex.unlimited seven = true ∧
      (notIn ["nan"]).holds Regex.unlimited (Row.value [("age", .null)] "age") = false := by
  have coherent := (comparisons_coherent Regex.unlimited " +7.0 " ["nan", " +7.0 "]).1 seven rfl
  have absent := (comparisons_coherent Regex.unlimited "nan" ["nan"]).2 [("age", .null)] "age" (.inr rfl)
  have equal : (compare .eq " +7.0 ").holds Regex.unlimited seven = true := by decide +kernel
  refine ⟨equal, coherent.gte_iff.mpr (.inr equal), ?_, ?_, ?_, absent.2.2⟩
  next => exact fun unequal => coherent.neq_iff.mp unequal equal
  next => exact fun less => (coherent.lt_apart less).1 equal
  next => exact coherent.isIn_iff.mpr ⟨_, by simp, equal⟩

end Predicate

end RowGate
