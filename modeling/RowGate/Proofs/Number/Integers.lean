import RowGate.Proofs.Number.Rounding

set_option autoImplicit false

namespace RowGate.Double

theorem signed_ofInt (n : Int) :
    (ofInt n).signed =
      if n < 0 then -(roundUnits (n.natAbs * unitsPerOne) 1 : Int)
      else roundUnits (n.natAbs * unitsPerOne) 1 := by
  by_cases negative : n < 0 <;> simp [signed, ofInt, ofRatio, negative]

theorem signed_ofInt_mono (less more : Int) (order : less ≤ more) :
    (ofInt less).signed ≤ (ofInt more).signed := by
  have rounded (small large : Int) (nearer : small.natAbs ≤ large.natAbs) :=
    roundUnits_mono _ _ (Nat.mul_le_mul_right unitsPerOne nearer)
  rw [signed_ofInt, signed_ofInt]
  split
  next below =>
    split
    next => have := rounded more less (by omega); omega
    next => omega
  next =>
    rw [if_neg (by omega)]
    have := rounded less more (by omega)
    omega

theorem unitsPerOne_eq_power : ∃ bits, unitsPerOne = 2 ^ bits :=
  ⟨unitsPerOne.log2, by decide +kernel⟩

theorem signed_ofInt_of_le (n : Int) (bound : n.natAbs ≤ 2 ^ 53) :
    (ofInt n).signed = n * unitsPerOne := by
  obtain ⟨bits, one⟩ := unitsPerOne_eq_power
  have exact : roundUnits (n.natAbs * unitsPerOne) 1 = n.natAbs * unitsPerOne := by
    apply roundUnits_of_dvd
    obtain less | most : n.natAbs < 2 ^ 53 ∨ n.natAbs = 2 ^ 53 := by omega
    · rw [one]
      exact gap_dvd n.natAbs bits less
    · rw [most, one, ← Nat.pow_add, ← Nat.one_mul (2 ^ (53 + bits))]
      exact gap_dvd 1 (53 + bits) (by decide)
  rw [signed_ofInt, exact]
  split
  next negative =>
    have value : -(n.natAbs : Int) = n := by omega
    rw [Int.natCast_mul, ← Int.neg_mul, value]
  next natural =>
    have value : (n.natAbs : Int) = n := by omega
    rw [Int.natCast_mul, value]

theorem roundUnits_ne_zero (n : Int) (nonzero : n ≠ 0) : roundUnits (n.natAbs * unitsPerOne) 1 ≠ 0 := by
  obtain ⟨bits, one⟩ := unitsPerOne_eq_power
  have some : n.natAbs * unitsPerOne ≠ 0 := by
    rw [one]
    exact Nat.mul_ne_zero (by omega) (Nat.two_pow_pos bits).ne'
  have least := power_le_roundUnits _ some
  have power := Nat.two_pow_pos (n.natAbs * unitsPerOne).log2
  omega

theorem signed_ofInt_inj (m n : Int) : (ofInt m).signed = (ofInt n).signed ↔ ofInt m = ofInt n := by
  constructor
  · intro same
    have left := roundUnits_ne_zero m
    have right := roundUnits_ne_zero n
    have signs : (m < 0 ↔ n < 0) ∧
        roundUnits (m.natAbs * unitsPerOne) 1 = roundUnits (n.natAbs * unitsPerOne) 1 := by
      rw [signed_ofInt, signed_ofInt] at same
      split at same <;> split at same <;> omega
    rw [ofInt, ofInt, ofRatio, ofRatio, signs.2]
    simp only [signs.1]
  · intro same
    rw [same]

theorem order_ofInt (m n : Int) (apart : ofInt m ≠ ofInt n) : (ofInt m).order (ofInt n) = compare m n := by
  have differ : (ofInt m).signed ≠ (ofInt n).signed := fun same => apart ((signed_ofInt_inj m n).1 same)
  rw [order]
  obtain less | same | more := Int.lt_trichotomy m n
  · have order := signed_ofInt_mono m n less.le
    rw [Int.compare_eq_lt.2 less, Int.compare_eq_lt]
    omega
  · exact absurd (congrArg ofInt same) apart
  · have order := signed_ofInt_mono n m more.le
    rw [Int.compare_eq_gt.2 more, Int.compare_eq_gt]
    omega

theorem ofInt_ne_of_le (m n : Int) (apart : m ≠ n) (first : m.natAbs ≤ 2 ^ 53)
    (second : n.natAbs ≤ 2 ^ 53) : ofInt m ≠ ofInt n := by
  intro same
  obtain ⟨bits, one⟩ := unitsPerOne_eq_power
  have some : (unitsPerOne : Int) ≠ 0 := by
    rw [one]
    exact Int.natCast_ne_zero.2 (Nat.two_pow_pos bits).ne'
  have signed := (signed_ofInt_inj m n).2 same
  rw [signed_ofInt_of_le m first, signed_ofInt_of_le n second] at signed
  exact apart (Int.eq_of_mul_eq_mul_right some signed)

-- A large integer rounds no nearer to zero than 2 ^ 53.
theorem ofInt_ne_of_lt (m n : Int) (small : m.natAbs < 2 ^ 53) (large : 2 ^ 53 < n.natAbs) :
    ofInt m ≠ ofInt n := by
  intro same
  have signed := (signed_ofInt_inj m n).2 same
  obtain above | below : 2 ^ 53 ≤ n ∨ n ≤ -2 ^ 53 := by omega
  · have first := signed_ofInt_mono m (2 ^ 53) (by omega)
    have second := signed_ofInt_mono (2 ^ 53) n above
    have equal := (signed_ofInt_inj m (2 ^ 53)).1 (by omega)
    exact ofInt_ne_of_le m (2 ^ 53) (by omega) small.le (by decide) equal
  · have first := signed_ofInt_mono (-2 ^ 53) m (by omega)
    have second := signed_ofInt_mono n (-2 ^ 53) below
    have equal := (signed_ofInt_inj m (-2 ^ 53)).1 (by omega)
    exact ofInt_ne_of_le m (-2 ^ 53) (by omega) small.le (by decide) equal

theorem ofInt_ne (m n : Int) (apart : m ≠ n)
    (small : m.natAbs < 2 ^ 53 ∨ n.natAbs < 2 ^ 53 ∨ (m.natAbs ≤ 2 ^ 53 ∧ n.natAbs ≤ 2 ^ 53)) :
    ofInt m ≠ ofInt n := by
  by_cases both : m.natAbs ≤ 2 ^ 53 ∧ n.natAbs ≤ 2 ^ 53
  · exact ofInt_ne_of_le m n apart both.1 both.2
  · obtain first | second : m.natAbs < 2 ^ 53 ∧ 2 ^ 53 < n.natAbs ∨
        n.natAbs < 2 ^ 53 ∧ 2 ^ 53 < m.natAbs := by omega
    · exact ofInt_ne_of_lt m n first.1 first.2
    · exact (ofInt_ne_of_lt n m second.1 second.2).symm

end RowGate.Double
