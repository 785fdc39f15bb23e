import RowGate.Number.Double
import Mathlib.Tactic.Linarith
import Mathlib.Tactic.Ring

set_option autoImplicit false

namespace RowGate.Double

-- How many times `coarse` goes into a count, rounded to the nearest, a tie going to the even one.
def nearest (count coarse : Nat) : Nat :=
  let kept := count / coarse
  let rest := count % coarse
  let up := coarse < 2 * rest || (2 * rest == coarse && kept % 2 == 1)
  if up then kept + 1 else kept

theorem roundUnits_eq (numerator denominator : Nat) :
    roundUnits numerator denominator =
      nearest numerator (denominator * gap (numerator / denominator)) *
        gap (numerator / denominator) :=
  rfl

theorem nearest_cases (count coarse : Nat) :
    (nearest count coarse = count / coarse ∧ 2 * (count % coarse) ≤ coarse) ∨
      (nearest count coarse = count / coarse + 1 ∧ coarse ≤ 2 * (count % coarse)) := by
  unfold nearest
  dsimp only
  split
  next up =>
    simp only [Bool.or_eq_true, Bool.and_eq_true, decide_eq_true_eq, beq_iff_eq] at up
    exact .inr ⟨rfl, by omega⟩
  next stay =>
    simp only [Bool.or_eq_true, Bool.and_eq_true, decide_eq_true_eq, beq_iff_eq] at stay
    exact .inl ⟨rfl, by omega⟩

theorem nearest_eq (count coarse multiple : Nat) (positive : 0 < coarse)
    (low : 2 * (multiple * coarse) ≤ 2 * count + coarse)
    (high : 2 * count ≤ 2 * (multiple * coarse) + coarse)
    (tie : multiple % 2 = 1 → 2 * (multiple * coarse) ≠ 2 * count + coarse ∧
      2 * count ≠ 2 * (multiple * coarse) + coarse) :
    nearest count coarse = multiple := by
  have parts := Nat.div_add_mod' count coarse
  have small := Nat.mod_lt count positive
  have notAbove : count / coarse ≤ multiple := by
    by_contra above
    have step : (multiple + 1) * coarse ≤ count / coarse * coarse := Nat.mul_le_mul_right _ (by omega)
    rw [Nat.succ_mul] at step
    omega
  have notBelow : multiple ≤ count / coarse + 1 := by
    by_contra below
    have step : (count / coarse + 1 + 1) * coarse ≤ multiple * coarse :=
      Nat.mul_le_mul_right _ (by omega)
    rw [Nat.succ_mul, Nat.succ_mul] at step
    omega
  unfold nearest
  simp only [Bool.or_eq_true, Bool.and_eq_true, decide_eq_true_eq, beq_iff_eq]
  obtain same | next : count / coarse = multiple ∨ multiple = count / coarse + 1 := by omega
  · rw [same] at parts ⊢
    rw [if_neg (by omega)]
  · have whole : multiple * coarse = count / coarse * coarse + coarse := by rw [next, Nat.succ_mul]
    rw [whole] at low high tie
    rw [if_pos (by omega), next]

theorem nearest_mul (multiple coarse : Nat) (positive : 0 < coarse) :
    nearest (multiple * coarse) coarse = multiple :=
  nearest_eq _ _ _ positive (by omega) (by omega) (by omega)

theorem nearest_mono (coarse : Nat) (less more : Nat) (order : less ≤ more) :
    nearest less coarse ≤ nearest more coarse := by
  have wholes : less / coarse ≤ more / coarse := Nat.div_le_div_right order
  obtain same | apart : less / coarse = more / coarse ∨ less / coarse < more / coarse := by omega
  · have first := Nat.div_add_mod' less coarse
    have second := Nat.div_add_mod' more coarse
    rw [same] at first
    unfold nearest
    rw [same]
    simp only [Bool.or_eq_true, Bool.and_eq_true, decide_eq_true_eq, beq_iff_eq]
    split <;> split <;> omega
  · obtain ⟨low, -⟩ | ⟨low, -⟩ := nearest_cases less coarse <;>
      obtain ⟨high, -⟩ | ⟨high, -⟩ := nearest_cases more coarse <;> omega

theorem gap_positive (units : Nat) : 0 < gap units :=
  Nat.two_pow_pos _

theorem gap_eq_of_log2 (first second : Nat) (same : first.log2 = second.log2) : gap first = gap second := by
  rw [gap, gap, same]

theorem gap_dvd_power (units : Nat) (more : Nat) : gap units ∣ 2 ^ (units.log2 + more) :=
  Nat.pow_dvd_pow 2 (by omega)

theorem log2_of_wide (units : Nat) (wide : 1 < gap units) : 52 < units.log2 := by
  by_contra small
  rw [gap, Nat.sub_eq_zero_of_le (by omega)] at wide
  exact absurd wide (by decide)

theorem gap_dvd (significand exponent : Nat) (bits : significand < 2 ^ 53) :
    gap (significand * 2 ^ exponent) ∣ significand * 2 ^ exponent := by
  by_cases zero : significand = 0
  · simp [zero]
  · have positive : significand * 2 ^ exponent ≠ 0 := by positivity
    have bound : (significand * 2 ^ exponent).log2 < 53 + exponent := by
      rw [Nat.log2_lt positive, Nat.pow_add]
      exact Nat.mul_lt_mul_of_pos_right bits (Nat.two_pow_pos exponent)
    exact Nat.dvd_mul_left_of_dvd (Nat.pow_dvd_pow 2 (by omega)) _

theorem roundUnits_of_dvd (units : Nat) (whole : gap units ∣ units) : roundUnits units 1 = units := by
  obtain ⟨multiple, shape⟩ := whole
  rw [roundUnits_eq, Nat.div_one, Nat.one_mul]
  have exact := nearest_mul multiple (gap units) (gap_positive units)
  rw [Nat.mul_comm, ← shape] at exact
  rw [exact, Nat.mul_comm, ← shape]

theorem roundUnits_le_power (units : Nat) : roundUnits units 1 ≤ 2 ^ (units.log2 + 1) := by
  obtain ⟨multiple, shape⟩ := gap_dvd_power units 1
  rw [roundUnits_eq, Nat.div_one, Nat.one_mul]
  have below : nearest units (gap units) ≤ multiple := by
    rw [← nearest_mul multiple (gap units) (gap_positive units)]
    apply nearest_mono
    rw [Nat.mul_comm, ← shape]
    exact Nat.le_of_lt Nat.lt_log2_self
  rw [shape, Nat.mul_comm]
  exact Nat.mul_le_mul_left _ below

theorem power_le_roundUnits (units : Nat) (positive : units ≠ 0) :
    2 ^ units.log2 ≤ roundUnits units 1 := by
  obtain ⟨multiple, shape⟩ := gap_dvd_power units 0
  rw [roundUnits_eq, Nat.div_one, Nat.one_mul]
  have above : multiple ≤ nearest units (gap units) := by
    rw [← nearest_mul multiple (gap units) (gap_positive units)]
    apply nearest_mono
    rw [Nat.mul_comm, ← shape]
    exact Nat.log2_self_le positive
  rw [← Nat.add_zero units.log2, shape, Nat.mul_comm]
  exact Nat.mul_le_mul_right _ above

theorem roundUnits_mono (less more : Nat) (order : less ≤ more) :
    roundUnits less 1 ≤ roundUnits more 1 := by
  by_cases none : less = 0
  · simp [none, roundUnits]
  have exponents : less.log2 ≤ more.log2 := by
    rw [Nat.le_log2 (by omega)]
    exact (Nat.log2_self_le none).trans order
  obtain same | apart : less.log2 = more.log2 ∨ less.log2 + 1 ≤ more.log2 := by omega
  · rw [roundUnits_eq, roundUnits_eq, Nat.div_one, Nat.div_one, gap_eq_of_log2 less more same]
    exact Nat.mul_le_mul_right _ (nearest_mono _ _ _ order)
  · calc roundUnits less 1 ≤ 2 ^ (less.log2 + 1) := roundUnits_le_power less
      _ ≤ 2 ^ more.log2 := Nat.pow_le_pow_right (by decide) apart
      _ ≤ roundUnits more 1 := power_le_roundUnits more (by omega)

-- Four times the distance from a double to the middle between it and the next smaller one, which is
-- nearer where the double is a power of two.
def lowerMargin (units : Nat) : Nat :=
  if 1 < gap units ∧ units = gap units * 2 ^ 52 then gap units else 2 * gap units

-- A ratio between the middles around a double, the middles included where the double is even.
structure Near (units numerator denominator : Nat) : Prop where
  low : 4 * (units * denominator) ≤ 4 * numerator + lowerMargin units * denominator
  high : 4 * numerator ≤ 4 * (units * denominator) + 2 * (gap units * denominator)
  tie : units / gap units % 2 = 1 →
    4 * (units * denominator) ≠ 4 * numerator + lowerMargin units * denominator ∧
      4 * numerator ≠ 4 * (units * denominator) + 2 * (gap units * denominator)

theorem lowerMargin_le (units : Nat) : lowerMargin units ≤ 2 * gap units := by
  unfold lowerMargin
  split <;> omega

theorem add_gap_le_power (units : Nat) (whole : gap units ∣ units) :
    units + gap units ≤ 2 ^ (units.log2 + 1) := by
  obtain ⟨multiple, shape⟩ := whole
  obtain ⟨bound, power⟩ := gap_dvd_power units 1
  have below : gap units * multiple < gap units * bound := by
    rw [← shape, ← power]
    exact Nat.lt_log2_self
  have next : multiple + 1 ≤ bound := Nat.lt_of_mul_lt_mul_left below
  calc units + gap units = gap units * (multiple + 1) := by rw [Nat.mul_succ, ← shape]
    _ ≤ gap units * bound := Nat.mul_le_mul_left _ next
    _ = 2 ^ (units.log2 + 1) := power.symm

section

variable {units numerator denominator : Nat}

theorem Near.quotient_lt (near : Near units numerator denominator) (positive : 0 < denominator)
    (whole : gap units ∣ units) : numerator / denominator < 2 ^ (units.log2 + 1) := by
  have room := Nat.mul_le_mul_right denominator (add_gap_le_power units whole)
  have space := Nat.mul_pos (gap_positive units) positive
  have high := near.high
  rw [Nat.div_lt_iff_lt_mul positive]
  rw [Nat.add_mul] at room
  omega

theorem Near.eq_power (near : Near units numerator denominator) (positive : 0 < denominator)
    (nonzero : units ≠ 0) (whole : gap units ∣ units) (wide : 1 < gap units)
    (below : numerator < 2 ^ units.log2 * denominator) : units = 2 ^ units.log2 := by
  by_contra other
  obtain ⟨multiple, shape⟩ := whole
  obtain ⟨bound, power⟩ := gap_dvd_power units 0
  rw [Nat.add_zero] at power
  have large := log2_of_wide units wide
  have atPower : gap units * 2 ^ 52 = 2 ^ units.log2 := by
    rw [gap, Nat.pow_eq, ← Nat.pow_add, Nat.sub_add_cancel (by omega)]
  have margin : lowerMargin units = 2 * gap units := by
    rw [lowerMargin, if_neg (fun both => other (both.2.trans atPower))]
  have above : gap units * bound < gap units * multiple := by
    rw [← shape, ← power]
    exact Nat.lt_of_le_of_ne (Nat.log2_self_le nonzero) (Ne.symm other)
  have next : bound + 1 ≤ multiple := Nat.lt_of_mul_lt_mul_left above
  have apart : 2 ^ units.log2 + gap units ≤ units := by
    calc 2 ^ units.log2 + gap units = gap units * (bound + 1) := by rw [Nat.mul_succ, ← power]
      _ ≤ gap units * multiple := Nat.mul_le_mul_left _ next
      _ = units := shape.symm
  have room := Nat.mul_le_mul_right denominator apart
  have space := Nat.mul_pos (gap_positive units) positive
  have low := near.low
  rw [margin, Nat.mul_assoc] at low
  rw [Nat.add_mul] at room
  omega

theorem roundUnits_of_same_gap (near : Near units numerator denominator) (positive : 0 < denominator)
    (whole : gap units ∣ units) (same : gap (numerator / denominator) = gap units) :
    roundUnits numerator denominator = units := by
  have margin := Nat.mul_le_mul_right denominator (lowerMargin_le units)
  have space := Nat.mul_pos positive (gap_positive units)
  have multiple := Nat.div_mul_cancel whole
  have unitsTimes : units / gap units * (denominator * gap units) = units * denominator := by
    rw [Nat.mul_comm denominator, ← Nat.mul_assoc, multiple]
  have turned : denominator * gap units = gap units * denominator := Nat.mul_comm _ _
  have low := near.low
  have high := near.high
  have tie := near.tie
  rw [Nat.mul_assoc] at margin
  have kept : nearest numerator (denominator * gap units) = units / gap units := by
    apply nearest_eq _ _ _ space
    · rw [unitsTimes]; omega
    · rw [unitsTimes]; omega
    · rw [unitsTimes]; omega
  rw [roundUnits_eq, same, kept, multiple]

theorem gap_power (exponent : Nat) : gap (2 ^ exponent) = 2 ^ (exponent - 52) := by
  rw [gap, Nat.log2_two_pow]
  rfl

-- Below a power of two the doubles are half as far apart, and the power is the even neighbour.
theorem roundUnits_of_below_power (exponent : Nat)
    (near : Near (2 ^ (exponent + 53)) numerator denominator) (positive : 0 < denominator)
    (below : numerator < 2 ^ (exponent + 53) * denominator) :
    roundUnits numerator denominator = 2 ^ (exponent + 53) := by
  have wide : gap (2 ^ (exponent + 53)) = 2 * 2 ^ exponent := by
    rw [gap_power, ← Nat.pow_succ']
    rfl
  have margin : lowerMargin (2 ^ (exponent + 53)) = 2 * 2 ^ exponent := by
    have some := Nat.two_pow_pos exponent
    rw [lowerMargin, wide, if_pos]
    exact ⟨by omega, by rw [Nat.pow_add]; omega⟩
  have space := Nat.mul_pos positive (Nat.two_pow_pos exponent)
  have turned : 2 ^ exponent * denominator = denominator * 2 ^ exponent := Nat.mul_comm _ _
  have whole (more : Nat) :
      2 ^ (exponent + more) * denominator = 2 ^ more * (denominator * 2 ^ exponent) := by
    rw [Nat.pow_add, ← turned, Nat.mul_comm (2 ^ exponent), Nat.mul_assoc]
  have low := near.low
  rw [margin, Nat.mul_assoc, turned, whole] at low
  have spacing : gap (numerator / denominator) = 2 ^ exponent := by
    have least : 2 ^ (exponent + 52) ≤ numerator / denominator := by
      rw [Nat.le_div_iff_mul_le positive, whole]
      omega
    have most : numerator / denominator < 2 ^ (exponent + 52 + 1) := by
      rw [Nat.div_lt_iff_lt_mul positive]
      exact below
    have some : numerator / denominator ≠ 0 := by
      have := Nat.two_pow_pos (exponent + 52)
      omega
    rw [← Nat.log2_lt some] at most
    rw [← Nat.le_log2 some] at least
    have quotient : (numerator / denominator).log2 - 52 = exponent := by omega
    rw [gap, quotient, Nat.pow_eq]
  have kept : nearest numerator (denominator * 2 ^ exponent) = 2 ^ 53 := by
    rw [whole] at below
    exact nearest_eq _ _ _ space (by omega) (by omega) (by omega)
  rw [roundUnits_eq, spacing, kept, ← Nat.pow_add, Nat.add_comm]

theorem roundUnits_of_near (near : Near units numerator denominator) (positive : 0 < denominator)
    (nonzero : units ≠ 0) (whole : gap units ∣ units) : roundUnits numerator denominator = units := by
  by_cases same : gap (numerator / denominator) = gap units
  · exact roundUnits_of_same_gap near positive whole same
  have most : (numerator / denominator).log2 ≤ units.log2 := by
    by_cases none : numerator / denominator = 0
    · simp [none]
    · have := near.quotient_lt positive whole
      rw [← Nat.log2_lt none] at this
      omega
  have less : numerator < 2 ^ units.log2 * denominator := by
    by_contra enough
    have least : 2 ^ units.log2 ≤ numerator / denominator := by
      rw [Nat.le_div_iff_mul_le positive]
      omega
    have some : numerator / denominator ≠ 0 := by
      have := Nat.two_pow_pos units.log2
      omega
    rw [← Nat.le_log2 some] at least
    exact same (gap_eq_of_log2 _ _ (by omega))
  have wide : 1 < gap units := by
    by_contra narrow
    have one : gap units = 1 := by
      have := gap_positive units
      omega
    have small : units.log2 ≤ 52 := by
      by_contra large
      have := Nat.pow_lt_pow_right (show 1 < 2 by decide) (show 0 < units.log2 - 52 by omega)
      rw [gap, Nat.pow_eq] at one
      omega
    apply same
    rw [one, gap, Nat.sub_eq_zero_of_le (by omega), Nat.pow_eq, Nat.pow_zero]
  have power := near.eq_power positive nonzero whole wide less
  obtain ⟨exponent, shape⟩ := Nat.exists_eq_add_of_lt (log2_of_wide units wide)
  have shifted : units.log2 = exponent + 53 := by omega
  rw [shifted] at power less
  rw [power] at near ⊢
  exact roundUnits_of_below_power exponent near positive less

end

end RowGate.Double
