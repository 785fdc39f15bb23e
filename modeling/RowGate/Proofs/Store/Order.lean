import Mathlib.Data.Char
import RowGate.Proofs.Json.Numbers
import RowGate.Proofs.Store.Values
import RowGate.Store.Select

set_option autoImplicit false

namespace RowGate

theorem compareTexts_of_openings (left right : String) (first second : Char)
    (front back : List Char) (leftText : left.toList = first :: front)
    (rightText : right.toList = second :: back) (before : first < second) :
    compareTexts left right = .lt := by
  apply compareOfLessAndEq_eq_lt.mpr
  rw [String.lt_iff, leftText, rightText]
  exact List.cons_lt_cons_iff.mpr (.inl before)

namespace Json

-- The place of the kind of a value among the kinds.
def rank : Json → Nat
  | .string _ => 0
  | .number _ => 1
  | .array _ => 2
  | .bool _ => 3
  | .object _ => 4
  | .null => 5

-- The least and the greatest character with which the text of a value of this kind opens.
def openings : Json → Char × Char
  | .string _ => ('"', '"')
  | .number _ => ('-', '9')
  | .array _ => ('[', '[')
  | .bool _ => ('f', 't')
  | .object _ => ('{', '{')
  | .null => ('n', 'n')

theorem opening_writeNumber (n : Number) :
    ∃ opening rest, writeNumber n = opening :: rest ∧ '-' ≤ opening ∧ opening ≤ '9' := by
  obtain ⟨negative, written, sound, -, text, -⟩ := writeNumber_eq n
  cases negative with
  | true => exact ⟨'-', written.text, text, by decide, by decide⟩
  | false =>
    obtain ⟨digit, rest, whole⟩ := List.exists_cons_of_ne_nil sound.1
    have bounds : '0' ≤ digit ∧ digit ≤ '9' := by
      have solid := sound.2 digit (by simp [whole])
      simpa [Decimal.isDigit] using solid
    have least : '-' ≤ '0' := by decide
    rw [text, Reading.Written.text, whole]
    exact ⟨digit, _, rfl, least.trans bounds.1, bounds.2⟩

theorem text_openings (value : Json) :
    ∃ opening rest, value.text.toList = opening :: rest ∧ value.openings.1 ≤ opening ∧
      opening ≤ value.openings.2 := by
  rw [text, String.toList_ofList]
  cases value with
  | null => exact ⟨'n', ['u', 'l', 'l'], rfl, le_refl _, le_refl _⟩
  | bool b =>
    cases b with
    | true => exact ⟨'t', ['r', 'u', 'e'], rfl, by decide, le_refl _⟩
    | false => exact ⟨'f', ['a', 'l', 's', 'e'], rfl, le_refl _, by decide⟩
  | number n => exact opening_writeNumber n
  | string s => exact ⟨'"', _, rfl, le_refl _, le_refl _⟩
  | array items => cases items <;> exact ⟨'[', _, rfl, le_refl _, le_refl _⟩
  | object fields => cases fields <;> exact ⟨'{', _, rfl, le_refl _, le_refl _⟩

theorem openings_of_rank_lt (left right : Json) (before : left.rank < right.rank)
    (some : right.isNull = false) : left.openings.2 < right.openings.1 := by
  cases left <;> cases right <;> simp_all [rank, openings, isNull]

-- What tells numbers and truth values apart.
def magnitude : Json → Int
  | .number n => n.toDouble.signed
  | .bool b => b.toNat
  | _ => 0

-- What tells the other values of one kind apart.
def spelling : Json → String
  | .string s => s
  | .array items => text (.array items)
  | .object fields => text (.object fields)
  | _ => ""

end Json

theorem compareValues_of_rank_lt (left right : Json) (before : left.rank < right.rank) :
    compareValues left right = .lt := by
  cases null : right.isNull with
  | true => cases left <;> cases right <;> simp_all [Json.rank, Json.isNull, compareValues]
  | false =>
    obtain ⟨first, front, leftText, -, most⟩ := left.text_openings
    obtain ⟨second, back, rightText, least, -⟩ := right.text_openings
    have apart := left.openings_of_rank_lt right before null
    have texts := compareTexts_of_openings left.text right.text first second front back leftText
      rightText (lt_of_le_of_lt most (lt_of_lt_of_le apart least))
    cases left <;> cases right <;> simp_all [Json.rank, Json.isNull, compareValues]

theorem compareValues_of_rank_eq (left right : Json) (same : left.rank = right.rank) :
    compareValues left right =
      (compare left.magnitude right.magnitude).then (compare left.spelling right.spelling) := by
  cases left <;> cases right <;> simp [Json.rank] at same <;>
    simp [compareValues, Json.magnitude, Json.spelling]
  case bool.bool first second => cases first <;> cases second <;> rfl
  case number.number => rfl
  case string.string => rfl
  case array.array => rfl
  case object.object => rfl

theorem compareValues_eq :
    compareValues =
      compareLex (compareOn Json.rank)
        (compareLex (compareOn Json.magnitude) (compareOn Json.spelling)) := by
  funext left right
  simp only [compareLex, compareOn]
  rcases lt_trichotomy left.rank right.rank with before | same | behind
  next => rw [compareValues_of_rank_lt left right before, Nat.compare_eq_lt.mpr before]; rfl
  next => rw [compareValues_of_rank_eq left right same, Nat.compare_eq_eq.mpr same]; rfl
  next =>
    rw [← compareValues_swap, compareValues_of_rank_lt right left behind, Nat.compare_eq_gt.mpr behind]
    rfl

instance : Std.TransCmp compareValues := by
  rw [compareValues_eq]
  infer_instance

theorem rank_eq_of_sameValue (left right : Json) (same : sameValue left right = true) :
    left.rank = right.rank := by
  have tie : compareValues left right = .eq := by
    simp only [sameValue, Bool.and_eq_true, beq_iff_eq] at same
    exact same.2
  rcases lt_trichotomy left.rank right.rank with before | equal | behind
  next =>
    rw [compareValues_of_rank_lt left right before] at tie
    cases tie
  next => exact equal
  next =>
    rw [← compareValues_swap, compareValues_of_rank_lt right left behind] at tie
    cases tie

theorem compareValues_null (value : Json) (some : value.isNull = false) :
    compareValues .null value = .gt := by
  cases value <;> simp_all [compareValues, Json.isNull]

namespace Store

instance (column : String) :
    Std.TransCmp fun left right : Row => compareValues (left.value column) (right.value column) where
  eq_swap := Std.OrientedCmp.eq_swap
  isLE_trans := Std.TransCmp.isLE_trans

instance (order : Order) : Std.TransCmp (compareBy · · order) := by
  obtain ⟨column, direction⟩ := order
  cases direction with
  | asc => exact inferInstanceAs (Std.TransCmp fun left right : Row =>
      compareValues (left.value column) (right.value column))
  | desc =>
    simp only [compareBy, compareValues_swap]
    have ascending : Std.TransCmp fun left right : Row =>
        compareValues (left.value column) (right.value column) := inferInstance
    exact ascending.opposite

instance (orders : List Order) : Std.TransCmp (compareRows orders) := by
  induction orders with
  | nil => exact { eq_swap := rfl, isLE_trans := fun _ _ => rfl }
  | cons order rest ih =>
    exact inferInstanceAs (Std.TransCmp (compareLex (compareBy · · order) (compareRows rest)))

theorem compareRows_append (before after : List Order) (left right : Row) :
    compareRows (before ++ after) left right =
      (compareRows before left right).then (compareRows after left right) := by
  induction before with
  | nil => rfl
  | cons order rest ih => rw [List.cons_append, compareRows, compareRows, ih, Ordering.then_assoc]

end Store

end RowGate
