import RowGate.Store.Filter

set_option autoImplicit false

namespace RowGate

theorem compareTexts_swap (left right : String) :
    (compareTexts left right).swap = compareTexts right left :=
  Std.OrientedOrd.eq_swap.symm

theorem compareBools_swap (left right : Bool) :
    (compareBools left right).swap = compareBools right left :=
  Std.OrientedOrd.eq_swap.symm

theorem Double.order_swap (left right : Double) :
    (left.order right).swap = right.order left :=
  Std.OrientedOrd.eq_swap.symm

-- Two kinds that differ fall to the order of their texts, from either side.
theorem compareValues_swap (left right : Json) :
    (compareValues left right).swap = compareValues right left := by
  cases left <;> cases right <;>
    simp [compareValues, compareTexts_swap, compareBools_swap, Double.order_swap]

theorem sameValue_comm (left right : Json) : sameValue left right = sameValue right left := by
  have turned : (compareValues left right == .eq) = (compareValues right left == .eq) := by
    rw [← compareValues_swap left right]
    cases compareValues left right <;> rfl
  rw [sameValue, sameValue, turned, Bool.and_comm (!left.isNull)]

@[simp] theorem sameValue_null_left (value : Json) : sameValue .null value = false := by
  simp [sameValue, Json.isNull]

@[simp] theorem sameValue_null_right (value : Json) : sameValue value .null = false := by
  simp [sameValue, Json.isNull]

end RowGate
