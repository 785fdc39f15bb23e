import RowGate.Proofs.Number.Rounding

set_option autoImplicit false

namespace RowGate.Double

section

variable {units numerator denominator other scale : Nat}

theorem Near.congr (near : Near units numerator denominator) (positive : 0 < denominator)
    (same : numerator * scale = other * denominator) (some : 0 < scale) : Near units other scale := by
  have low : 4 * (units * scale) * denominator ≤ (4 * other + lowerMargin units * scale) * denominator ∧
      (units / gap units % 2 = 1 → 4 * (units * scale) * denominator ≠
        (4 * other + lowerMargin units * scale) * denominator) := by
    have left : 4 * (units * scale) * denominator = 4 * (units * denominator) * scale := by ring
    have right : (4 * other + lowerMargin units * scale) * denominator =
        (4 * numerator + lowerMargin units * denominator) * scale := by
      calc _ = 4 * (other * denominator) + lowerMargin units * scale * denominator := by ring
        _ = 4 * (numerator * scale) + lowerMargin units * scale * denominator := by rw [same]
        _ = _ := by ring
    rw [left, right]
    refine ⟨Nat.mul_le_mul_right _ near.low, fun odd equal => (near.tie odd).1 ?_⟩
    exact Nat.mul_right_cancel some equal
  have high : 4 * other * denominator ≤ (4 * (units * scale) + 2 * (gap units * scale)) * denominator ∧
      (units / gap units % 2 = 1 → 4 * other * denominator ≠
        (4 * (units * scale) + 2 * (gap units * scale)) * denominator) := by
    have left : 4 * other * denominator = 4 * numerator * scale := by
      rw [Nat.mul_assoc, ← same, Nat.mul_assoc]
    have right : (4 * (units * scale) + 2 * (gap units * scale)) * denominator =
        (4 * (units * denominator) + 2 * (gap units * denominator)) * scale := by ring
    rw [left, right]
    refine ⟨Nat.mul_le_mul_right _ near.high, fun odd equal => (near.tie odd).2 ?_⟩
    exact Nat.mul_right_cancel some equal
  constructor
  · exact Nat.le_of_mul_le_mul_right low.1 positive
  · exact Nat.le_of_mul_le_mul_right high.1 positive
  · intro odd
    exact ⟨fun equal => low.2 odd (by rw [equal]), fun equal => high.2 odd (by rw [equal])⟩

end

def upper (exponent : Int) : Nat :=
  10 ^ exponent.toNat

def lower (exponent : Int) : Nat :=
  10 ^ (-exponent).toNat

theorem lower_positive (exponent : Int) : 0 < lower exponent :=
  Nat.pow_pos (by decide)

theorem upper_add (exponent : Int) (more : Nat) :
    upper (exponent + more) * lower exponent = upper exponent * 10 ^ more * lower (exponent + more) := by
  rw [upper, lower, upper, lower, ← Nat.pow_add, ← Nat.pow_add, ← Nat.pow_add]
  congr 1
  omega

-- The decimal of these digits, times ten to the exponent, is near to a double.
def NearDecimal (units digits : Nat) (exponent : Int) : Prop :=
  Near units (digits * upper exponent * unitsPerOne) (lower exponent)

theorem nearDecimal_shift (units digits more : Nat) (exponent : Int) :
    NearDecimal units (digits * 10 ^ more) exponent ↔ NearDecimal units digits (exponent + more) := by
  have same : digits * 10 ^ more * upper exponent * unitsPerOne * lower (exponent + more) =
      digits * upper (exponent + more) * unitsPerOne * lower exponent := by
    calc _ = digits * unitsPerOne * (upper exponent * 10 ^ more * lower (exponent + more)) := by ring
      _ = digits * unitsPerOne * (upper (exponent + more) * lower exponent) := by rw [upper_add]
      _ = _ := by ring
  constructor
  · exact fun near => Near.congr near (lower_positive _) same (lower_positive _)
  · exact fun near => Near.congr near (lower_positive _) same.symm (lower_positive _)

theorem dropZeros_shift (digits : Nat) (exponent : Int) :
    ∃ more : Nat, (dropZeros digits exponent).2 = exponent + more ∧
      digits = (dropZeros digits exponent).1 * 10 ^ more := by
  fun_induction dropZeros digits exponent with
  | case1 digits exponent zero ih =>
    obtain ⟨more, shifted, whole⟩ := ih
    refine ⟨more + 1, by rw [shifted]; omega, ?_⟩
    rw [Nat.pow_succ, ← Nat.mul_assoc, ← whole]
    omega
  | case2 digits exponent last => exact ⟨0, by simp, by simp⟩

theorem NearDecimal.dropZeros {units digits : Nat} {exponent : Int}
    (near : NearDecimal units digits exponent) :
    NearDecimal units (dropZeros digits exponent).1 (dropZeros digits exponent).2 := by
  obtain ⟨more, shifted, whole⟩ := dropZeros_shift digits exponent
  rw [shifted, ← nearDecimal_shift, ← whole]
  exact near

theorem power_bounds : 2 * 2 * unitsPerOne ≤ 10 ^ 400 ∧ 2 * limit ≤ 10 ^ 400 * unitsPerOne := by
  decide +kernel

theorem NearDecimal.bounds {units digits : Nat} {exponent : Int}
    (near : NearDecimal units digits exponent) (nonzero : units ≠ 0) (whole : gap units ∣ units) :
    units * lower exponent ≤ 2 * (digits * upper exponent * unitsPerOne) ∧
      2 * (digits * upper exponent * unitsPerOne) ≤ 3 * (units * lower exponent) := by
  have small := Nat.mul_le_mul_right (lower exponent) (Nat.le_of_dvd (by omega) whole)
  have margin := Nat.mul_le_mul_right (lower exponent) (lowerMargin_le units)
  rw [Nat.mul_assoc] at margin
  have low := near.low
  have high := near.high
  constructor <;> omega

-- A decimal that far below one is no half unit, and one that far above it is past every double.
theorem NearDecimal.exponent_bounds {units digits : Nat} {exponent : Int}
    (near : NearDecimal units digits exponent) (nonzero : units ≠ 0) (whole : gap units ∣ units)
    (finite : units < limit) :
    digits ≠ 0 ∧ -(400 + digits.log2 : Int) ≤ exponent ∧ exponent ≤ 400 := by
  obtain ⟨low, high⟩ := near.bounds nonzero whole
  have some : 0 < units * lower exponent := Nat.mul_pos (by omega) (lower_positive _)
  have digit : digits ≠ 0 := by
    rintro rfl
    omega
  refine ⟨digit, ?_, ?_⟩
  · by_contra below
    have factors : upper exponent = 1 ∧ 10 ^ (400 + digits.log2) * 10 ≤ lower exponent := by
      refine ⟨by rw [upper, Int.toNat_of_nonpos (by omega), Nat.pow_zero], ?_⟩
      rw [← Nat.pow_succ]
      exact Nat.pow_le_pow_right (by decide) (by omega)
    have bits : digits < 2 * 10 ^ digits.log2 := by
      have powers := Nat.pow_le_pow_left (show 2 ≤ 10 by decide) digits.log2
      have upto : digits < 2 ^ (digits.log2 + 1) := Nat.lt_log2_self
      rw [Nat.pow_succ] at upto
      omega
    have one : lower exponent ≤ units * lower exponent := Nat.le_mul_of_pos_left _ (by omega)
    have product : 2 * (digits * unitsPerOne) ≤ 10 ^ (400 + digits.log2) := by
      calc 2 * (digits * unitsPerOne) ≤ 2 * (2 * 10 ^ digits.log2 * unitsPerOne) :=
            Nat.mul_le_mul_left _ (Nat.mul_le_mul_right _ bits.le)
        _ = 2 * 2 * unitsPerOne * 10 ^ digits.log2 := by ring
        _ ≤ 10 ^ 400 * 10 ^ digits.log2 := Nat.mul_le_mul_right _ power_bounds.1
        _ = 10 ^ (400 + digits.log2) := by rw [Nat.pow_add]
    have power : 0 < 10 ^ (400 + digits.log2) := Nat.pow_pos (by decide)
    rw [factors.1, Nat.mul_one] at low
    omega
  · by_contra above
    have one : lower exponent = 1 := by rw [lower, Int.toNat_of_nonpos (by omega), Nat.pow_zero]
    have large : 10 ^ 400 ≤ upper exponent := by
      rw [upper, Nat.pow_le_pow_iff_right (by decide)]
      omega
    have product : 2 * limit ≤ digits * upper exponent * unitsPerOne := by
      calc 2 * limit ≤ 10 ^ 400 * unitsPerOne := power_bounds.2
        _ ≤ upper exponent * unitsPerOne := Nat.mul_le_mul_right _ large
        _ ≤ digits * upper exponent * unitsPerOne :=
            Nat.mul_le_mul_right _ (Nat.le_mul_of_pos_left _ (by omega))
    rw [one, Nat.mul_one] at high
    omega

theorem ofDecimal_of_near (negative : Bool) (units digits : Nat) (exponent : Int)
    (near : NearDecimal units digits exponent) (nonzero : units ≠ 0) (whole : gap units ∣ units)
    (finite : units < limit) : ofDecimal negative digits exponent = ⟨negative, units⟩ := by
  obtain ⟨digit, low, high⟩ := near.exponent_bounds nonzero whole finite
  rw [ofDecimal, if_neg (by omega), if_neg (by omega)]
  have rounded := roundUnits_of_near near (lower_positive _) nonzero whole
  split
  next below =>
    have factors : upper exponent = 1 ∧ lower exponent = 10 ^ exponent.natAbs := by
      refine ⟨by rw [upper, Int.toNat_of_nonpos (by omega), Nat.pow_zero], ?_⟩
      rw [lower]
      congr 1
      omega
    rw [factors.1, factors.2, Nat.mul_one] at rounded
    rw [ofRatio, Nat.pow_eq, rounded]
  next above =>
    have factors : lower exponent = 1 ∧ upper exponent = 10 ^ exponent.natAbs := by
      refine ⟨by rw [lower, Int.toNat_of_nonpos (by omega), Nat.pow_zero], ?_⟩
      rw [upper]
      congr 1
      omega
    rw [factors.1, factors.2] at rounded
    rw [ofRatio, Nat.pow_eq, rounded]

theorem unitsPerOne_positive : 0 < unitsPerOne := by
  decide +kernel

theorem length_write_bounds (n : Nat) :
    n < 10 ^ (Decimal.write n).length ∧ (n ≠ 0 → 10 ^ ((Decimal.write n).length - 1) ≤ n) := by
  induction n using Nat.strongRecOn with
  | ind n ih =>
    rw [Decimal.write]
    split
    next small => exact ⟨small, fun some => Nat.one_le_iff_ne_zero.2 some⟩
    next large =>
      obtain ⟨below, above⟩ := ih (n / 10) (by omega)
      have above := above (by omega)
      have some : 0 < (Decimal.write (n / 10)).length := by
        by_contra none
        rw [Nat.eq_zero_of_not_pos none] at below
        omega
      have step : 10 ^ (Decimal.write (n / 10)).length =
          10 ^ ((Decimal.write (n / 10)).length - 1) * 10 := by
        rw [← Nat.pow_succ, Nat.succ_eq_add_one, Nat.sub_add_cancel some]
      rw [List.length_append, List.length_singleton, Nat.add_sub_cancel, Nat.pow_succ]
      omega

theorem lt_power_digitCount (n : Nat) : n < 10 ^ digitCount n := by
  unfold digitCount
  split
  next zero => simp [zero]
  next => exact (length_write_bounds n).1

theorem power_digitCount_le (n : Nat) (nonzero : n ≠ 0) :
    0 < digitCount n ∧ 10 ^ (digitCount n - 1) ≤ n := by
  rw [digitCount, if_neg nonzero]
  exact ⟨List.length_pos_iff.2 (Decimal.write_ne_nil n), (length_write_bounds n).2 nonzero⟩

theorem leadingExponent_le (units : Nat) (nonzero : units ≠ 0) :
    upper (leadingExponent units) * unitsPerOne ≤ units * lower (leadingExponent units) := by
  have one := unitsPerOne_positive
  unfold leadingExponent
  split
  next large =>
    have whole : units / unitsPerOne ≠ 0 := (Nat.div_ne_zero_iff).2 ⟨one.ne', large⟩
    obtain ⟨some, leading⟩ := power_digitCount_le _ whole
    have above : ((digitCount (units / unitsPerOne) : Int) - 1).toNat =
        digitCount (units / unitsPerOne) - 1 := by omega
    have below : (-((digitCount (units / unitsPerOne) : Int) - 1)).toNat = 0 := by omega
    rw [upper, lower, above, below, Nat.pow_zero, Nat.mul_one, ← Nat.le_div_iff_mul_le one]
    exact leading
  next small =>
    have fits := lt_power_digitCount ((unitsPerOne - 1) / units)
    rw [Nat.div_lt_iff_lt_mul (by omega)] at fits
    rw [upper, lower, Int.toNat_of_nonpos (by omega), Int.neg_neg, Int.toNat_natCast, Nat.pow_zero,
      Nat.one_mul, Nat.mul_comm]
    omega

theorem readsBack_iff (units multiple : Nat) (exponent : Int) (nonzero : units ≠ 0)
    (whole : gap units ∣ units) :
    readsBack units exponent multiple = true ↔ NearDecimal units multiple exponent := by
  have small := Nat.mul_le_mul_right (lower exponent) (Nat.le_of_dvd (by omega) whole)
  have margin := Nat.mul_le_mul_right (lower exponent) (lowerMargin_le units)
  have some : 0 < units * lower exponent := Nat.mul_pos (by omega) (lower_positive _)
  rw [Nat.mul_assoc] at margin
  have low : (4 * units - lowerMargin units) * lower exponent =
      4 * (units * lower exponent) - lowerMargin units * lower exponent := by
    rw [Nat.sub_mul, Nat.mul_assoc]
  have high : (4 * units + 2 * gap units) * lower exponent =
      4 * (units * lower exponent) + 2 * (gap units * lower exponent) := by
    rw [Nat.add_mul, Nat.mul_assoc, Nat.mul_assoc]
  have candidate : 4 * multiple * upper exponent * unitsPerOne =
      4 * (multiple * upper exponent * unitsPerOne) := by
    ring
  have test : readsBack units exponent multiple =
      if units / gap units % 2 = 0 then
        (4 * units - lowerMargin units) * lower exponent ≤ 4 * multiple * upper exponent * unitsPerOne &&
          4 * multiple * upper exponent * unitsPerOne ≤ (4 * units + 2 * gap units) * lower exponent
      else
        (4 * units - lowerMargin units) * lower exponent < 4 * multiple * upper exponent * unitsPerOne &&
          4 * multiple * upper exponent * unitsPerOne <
            (4 * units + 2 * gap units) * lower exponent := by
    have power : (1 < gap units && units == gap units * Nat.pow 2 52) = true ↔
        1 < gap units ∧ units = gap units * 2 ^ 52 := by
      simp
    simp only [readsBack, power]
    rfl
  rw [test, low, high, candidate]
  split
  next even =>
    rw [Bool.and_eq_true, decide_eq_true_eq, decide_eq_true_eq]
    constructor
    · exact fun ⟨least, most⟩ => ⟨by omega, by omega, by omega⟩
    · exact fun near => ⟨by have := near.low; omega, near.high⟩
  next odd =>
    rw [Bool.and_eq_true, decide_eq_true_eq, decide_eq_true_eq]
    constructor
    · exact fun ⟨least, most⟩ => ⟨by omega, by omega, by omega⟩
    · intro near
      have low := near.low
      have high := near.high
      have tie := near.tie
      omega

theorem near_of_between {units numerator denominator : Nat}
    (low : 4 * (units * denominator) < 4 * numerator + lowerMargin units * denominator)
    (high : 4 * numerator < 4 * (units * denominator) + 2 * (gap units * denominator)) :
    Near units numerator denominator :=
  ⟨low.le, high.le, fun _ => ⟨low.ne, high.ne⟩⟩

theorem lt_power_gap (units : Nat) (whole : gap units ∣ units) : units < 2 ^ 53 * gap units := by
  have room := add_gap_le_power units whole
  have space := gap_positive units
  have power : 2 ^ (units.log2 + 1) ≤ 2 ^ 53 * gap units := by
    rw [gap, Nat.pow_eq, ← Nat.pow_add]
    exact Nat.pow_le_pow_right (by decide) (by omega)
  omega

theorem near_of_seventeen (units : Nat) (exponent : Int) (nonzero : units ≠ 0) (whole : gap units ∣ units)
    (leading : leadingExponent units = exponent + (16 : Nat)) :
    let below := units * lower exponent / (unitsPerOne * upper exponent)
    NearDecimal units below exponent ∨ NearDecimal units (below + 1) exponent := by
  intro below
  have fine : unitsPerOne * upper exponent * 10 ^ 16 ≤ units * lower exponent := by
    have first := leadingExponent_le units nonzero
    rw [leading] at first
    apply Nat.le_of_mul_le_mul_right _ (lower_positive (exponent + (16 : Nat)))
    calc unitsPerOne * upper exponent * 10 ^ 16 * lower (exponent + (16 : Nat))
        = unitsPerOne * (upper exponent * 10 ^ 16 * lower (exponent + (16 : Nat))) := by ring
      _ = upper (exponent + (16 : Nat)) * unitsPerOne * lower exponent := by
          rw [← upper_add]
          ring
      _ ≤ units * lower (exponent + (16 : Nat)) * lower exponent := Nat.mul_le_mul_right _ first
      _ = _ := by ring
  have step : 0 < unitsPerOne * upper exponent :=
    Nat.mul_pos unitsPerOne_positive (Nat.pow_pos (by decide))
  have space : 0 < gap units * lower exponent := Nat.mul_pos (gap_positive units) (lower_positive _)
  have parts : below * (unitsPerOne * upper exponent) +
      units * lower exponent % (unitsPerOne * upper exponent) = units * lower exponent :=
    Nat.div_add_mod' _ _
  have small := Nat.mod_lt (units * lower exponent) step
  have atBelow : below * upper exponent * unitsPerOne = below * (unitsPerOne * upper exponent) := by ring
  have atNext : (below + 1) * upper exponent * unitsPerOne =
      below * (unitsPerOne * upper exponent) + unitsPerOne * upper exponent := by ring
  have margin : unitsPerOne * upper exponent < gap units * lower exponent ∧
      2 * (unitsPerOne * upper exponent) < lowerMargin units * lower exponent := by
    unfold lowerMargin
    split
    next power =>
      have exact : units * lower exponent = 2 ^ 52 * (gap units * lower exponent) := by
        calc _ = gap units * 2 ^ 52 * lower exponent := by rw [← power.2]
          _ = _ := by ring
      omega
    next =>
      have most := Nat.mul_le_mul_right (lower exponent) (lt_power_gap units whole).le
      rw [Nat.mul_assoc] at most ⊢
      omega
  by_cases half : 2 * (units * lower exponent % (unitsPerOne * upper exponent)) ≤
      unitsPerOne * upper exponent
  · left
    apply near_of_between <;> rw [atBelow] <;> omega
  · right
    apply near_of_between <;> rw [atNext] <;> omega

theorem Tie.pick_cases (tie : Tie) (below : Nat) :
    tie.pick below = below ∨ tie.pick below = below + 1 := by
  cases tie with
  | even => simp only [pick]; omega
  | upper => exact .inr rfl

theorem readsBack_of_onGrid (tie : Tie) (units digits : Nat) (exponent : Int)
    (found : onGrid tie units exponent = some digits) : readsBack units exponent digits = true := by
  unfold onGrid at found
  dsimp only at found
  split at found
  next low high =>
    rw [← Option.some.inj found]
    split
    next => exact low
    next =>
      obtain same | next := tie.pick_cases _
      · rw [same]; exact low
      · rw [next]; exact high
    next => exact high
  next low _ => rw [← Option.some.inj found]; exact low
  next _ high => rw [← Option.some.inj found]; exact high
  next => cases found

theorem onGrid_sound (tie : Tie) (units digits : Nat) (exponent : Int) (nonzero : units ≠ 0)
    (whole : gap units ∣ units) (found : onGrid tie units exponent = some digits) :
    NearDecimal units digits exponent :=
  (readsBack_iff units digits exponent nonzero whole).mp
    (readsBack_of_onGrid tie units digits exponent found)

theorem onGrid_isSome (tie : Tie) (units : Nat) (exponent : Int) (nonzero : units ≠ 0)
    (whole : gap units ∣ units) (leading : leadingExponent units = exponent + (16 : Nat)) :
    (onGrid tie units exponent).isSome = true := by
  have near := near_of_seventeen units exponent nonzero whole leading
  simp only [← readsBack_iff _ _ _ nonzero whole] at near
  have shape : units * lower exponent / (unitsPerOne * upper exponent) = 
      units * Nat.pow 10 (-exponent).toNat / (unitsPerOne * Nat.pow 10 exponent.toNat) := rfl
  rw [shape] at near
  unfold onGrid
  dsimp only
  split
  next => rfl
  next => rfl
  next => rfl
  next low high =>
    rw [low, high] at near
    simp at near

theorem shortest_near (tie : Tie) (units : Nat) (nonzero : units ≠ 0) (whole : gap units ∣ units) :
    NearDecimal units (shortest tie units).1 (shortest tie units).2 := by
  unfold shortest
  dsimp only
  split
  next digits exponent found =>
    obtain ⟨more, -, found⟩ := List.exists_of_findSome?_eq_some found
    obtain ⟨_, onGrid, same⟩ := Option.map_eq_some_iff.1 found
    cases same
    exact (onGrid_sound tie units _ _ nonzero whole onGrid).dropZeros
  next none =>
    rw [List.findSome?_eq_none_iff] at none
    have last := none 16 (by decide)
    have some := onGrid_isSome tie units (leadingExponent units - (16 : Nat)) nonzero whole (by omega)
    rw [Option.map_eq_none_iff.1 last] at some
    cases some

end RowGate.Double
