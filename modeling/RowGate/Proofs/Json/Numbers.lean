import RowGate.Json.Token
import RowGate.Json.Writer
import RowGate.Proofs.Number.Reading

set_option autoImplicit false

namespace RowGate

open Reading (Written signText)

theorem Decimal.head_write (n : Nat) (zero : (write n).head? = some '0') : n = 0 := by
  induction n using Nat.strongRecOn with
  | ind n ih =>
    rw [write] at zero
    split at zero
    next small =>
      have finite : ∀ m, m < 10 → digitChar m = '0' → m = 0 := by decide
      exact finite n small (Option.some.inj zero)
    next large =>
      rw [List.head?_append_of_ne_nil _ (write_ne_nil _)] at zero
      have front := ih (n / 10) (by omega) zero
      omega

def Reading.Written.Leads (written : Written) : Prop :=
  written.whole.head? = some '0' → written.whole = ['0']

namespace Double

theorem readsBack_zero (units : Nat) (exponent : Int) (nonzero : units ≠ 0) :
    readsBack units exponent 0 = false := by
  have spacing : gap units ≤ units := by
    rw [gap, Nat.pow_eq]
    exact (Nat.pow_le_pow_right (by decide) (by omega)).trans (Nat.log2_self_le nonzero)
  have low (below : Nat) (small : below ≤ 2 * gap units) :
      0 < (4 * units - below) * Nat.pow 10 (-exponent).toNat :=
    Nat.mul_pos (by omega) (Nat.pow_pos (by decide))
  have margin := low _ (le_refl _)
  have narrow := low (gap units) (by omega)
  unfold readsBack
  dsimp only
  split <;> split <;> simp <;> omega

theorem dropZeros_ne_zero (digits : Nat) (exponent : Int) (nonzero : digits ≠ 0) :
    (dropZeros digits exponent).1 ≠ 0 := by
  obtain ⟨more, -, whole⟩ := dropZeros_shift digits exponent
  intro none
  rw [none, Nat.zero_mul] at whole
  exact nonzero whole

theorem shortest_ne_zero (tie : Tie) (units : Nat) (nonzero : units ≠ 0) :
    (shortest tie units).1 ≠ 0 ∨ shortest tie units = (0, 0) := by
  unfold shortest
  dsimp only
  split
  next digits exponent found =>
    obtain ⟨more, -, found⟩ := List.exists_of_findSome?_eq_some found
    obtain ⟨_, placed, same⟩ := Option.map_eq_some_iff.1 found
    cases same
    refine .inl (dropZeros_ne_zero _ _ ?_)
    rintro rfl
    have back := readsBack_of_onGrid tie units 0 _ placed
    rw [readsBack_zero units _ nonzero] at back
    cases back
  next => exact .inr rfl

theorem Layout.leads_written (layout : Layout) (digits : Nat) (exponent : Int)
    (some : digits ≠ 0 ∨ (digits, exponent) = (0, 0)) : (layout.written digits exponent).Leads := by
  have solid (digit : digits ≠ 0) : (Decimal.write digits).head? ≠ Option.some '0' :=
    fun zero => digit (Decimal.head_write digits zero)
  have nonempty := Decimal.write_ne_nil digits
  unfold written Written.Leads
  dsimp only
  rcases some with digit | zero
  next =>
    split
    next =>
      split
      next =>
        intro leading
        rw [List.head?_append_of_ne_nil _ nonempty] at leading
        exact absurd leading (solid digit)
      next =>
        split
        next positive =>
          intro leading
          rw [List.head?_take, if_neg (by omega)] at leading
          exact absurd leading (solid digit)
        next => exact fun _ => rfl
    next =>
      intro leading
      rw [List.head?_take, if_neg (by decide)] at leading
      exact absurd leading (solid digit)
  next =>
    cases zero
    split <;> simp [Decimal.write, Decimal.digitChar]

theorem Layout.leads_decimal (layout : Layout) (x : Double) : (layout.decimal x).Leads := by
  unfold decimal
  split
  next => exact fun _ => rfl
  next nonzero => exact layout.leads_written _ _ (shortest_ne_zero layout.tie x.units nonzero)

end Double

namespace Json

theorem exponentPart?_write (exponent : Int) :
    exponentPart? ((if exponent < 0 then '-' else '+') :: Decimal.write exponent.natAbs) = some exponent :=
  Reading.exponent?_write exponent

def partsOf (negative : Bool) (written : Written) : NumberParts where
  negative := negative
  whole := written.whole
  fraction := if written.fraction = [] then none else some written.fraction
  exponent := written.exponent

theorem numberParts?_signed (negative : Bool) (written : Written) (sound : written.Sound)
    (leads : written.Leads) :
    numberParts? (signText negative ++ written.text) = some (partsOf negative written) := by
  obtain ⟨whole, fraction, exponent⟩ := written
  obtain ⟨nonempty, solid⟩ := sound
  obtain ⟨wholes, fractions⟩ := List.forall_mem_append.1 solid
  have stops : ∀ c ∈ (Written.pointText fraction ++ Written.markText exponent).head?,
      Decimal.isDigit c = false := by
    cases fraction with
    | nil => exact Reading.markText_stops exponent
    | cons digit more => simp [Written.pointText, Decimal.isDigit]
  obtain ⟨taken, dropped⟩ := Decimal.span_isDigit whole _ wholes stops
  have first : ¬(whole = [] ∨ (whole.head? = some '0' ∧ whole ≠ ['0'])) := by
    rintro (empty | ⟨zero, more⟩)
    next => exact nonempty empty
    next => exact more (leads zero)
  have marked := exponentPart?_write
  unfold numberParts?
  split
  next found body cut =>
    obtain ⟨rfl, rfl⟩ : found = negative ∧ body = Written.text ⟨whole, fraction, exponent⟩ := by
      cases negative with
      | true =>
        obtain ⟨rfl, rfl⟩ := Prod.mk.inj cut
        exact ⟨rfl, rfl⟩
      | false =>
        obtain ⟨c, rest, rfl⟩ := List.exists_cons_of_ne_nil nonempty
        have plain : c ≠ '-' := by
          rintro rfl
          cases wholes '-' List.mem_cons_self
        have same : false = found ∧ Written.text ⟨c :: rest, fraction, exponent⟩ = body := by
          simpa [signText, Written.text, plain] using cut
        exact ⟨same.1.symm, same.2.symm⟩
    simp only [Written.text, taken, dropped, if_neg first]
    cases fraction with
    | nil => cases exponent <;> simp [Written.pointText, Written.markText, partsOf, marked]
    | cons digit more =>
      obtain ⟨front, back⟩ :=
        Decimal.span_isDigit (digit :: more) _ fractions (Reading.markText_stops exponent)
      rw [List.cons_append] at front back
      simp only [Written.pointText, List.cons_append, front, back]
      cases exponent <;> simp [Written.markText, partsOf, marked]

def numberParts : Number → NumberParts
  | .integer n => partsOf (decide (n < 0)) { whole := Decimal.write n.natAbs }
  | .double x => partsOf x.negative (doubleLayout.decimal x)

-- What a number is read back as; `none` if it is past the largest double.
def rereadNumber (n : Number) : Option Number :=
  (numberParts n).number?

theorem writeNumber_eq (n : Number) :
    ∃ negative written, written.Sound ∧ written.Leads ∧
      writeNumber n = signText negative ++ written.text ∧ numberParts n = partsOf negative written := by
  cases n with
  | integer n =>
    refine ⟨decide (n < 0), { whole := Decimal.write n.natAbs }, ?_, ?_, ?_, rfl⟩
    next => exact ⟨Decimal.write_ne_nil _, by simpa using Decimal.isDigit_of_mem_write n.natAbs⟩
    next =>
      intro zero
      show Decimal.write n.natAbs = ['0']
      rw [Decimal.head_write n.natAbs zero]
      simp [Decimal.write, Decimal.digitChar]
    next =>
      by_cases negative : n < 0 <;>
        simp [writeNumber, signText, Written.text, Written.pointText, Written.markText, negative]
  | double x =>
    exact ⟨x.negative, doubleLayout.decimal x, doubleLayout.decimal_sound x,
      doubleLayout.leads_decimal x, doubleLayout.text_eq x, rfl⟩

theorem numberParts?_writeNumber (n : Number) : numberParts? (writeNumber n) = some (numberParts n) := by
  obtain ⟨negative, written, sound, leads, text, parts⟩ := writeNumber_eq n
  rw [text, parts]
  exact numberParts?_signed negative written sound leads

theorem word?_writeNumber (n : Number) :
    word? (writeNumber n) = some (.scalar ((rereadNumber n).map .number)) := by
  have parts := numberParts?_writeNumber n
  have other (word : List Char) (none : numberParts? word = none) : writeNumber n ≠ word := by
    rintro rfl
    cases none.symm.trans parts
  rw [word?, if_neg (other _ (by decide)), if_neg (other _ (by decide)), if_neg (other _ (by decide)),
    parts]
  rfl

theorem isWordChar_of_isDigit (c : Char) (digit : Decimal.isDigit c = true) :
    isWordChar c = true := by
  have bounds : '0' ≤ c ∧ c ≤ '9' := by simpa [Decimal.isDigit] using digit
  have decimal : c.isDigit = true := by
    simp only [Char.isDigit, Bool.and_eq_true, decide_eq_true_eq]
    exact bounds
  simp [isWordChar, Char.isAlphanum, decimal]

theorem isWordChar_of_mem_writeNumber (n : Number) (c : Char) (member : c ∈ writeNumber n) :
    isWordChar c = true := by
  obtain ⟨negative, written, sound, -, text, -⟩ := writeNumber_eq n
  rw [text] at member
  rcases Reading.mem_signed_cases negative written sound c member with other | digit
  next =>
    have marks : ['.', 'e', '-', '+'].all isWordChar = true := by decide
    exact List.all_eq_true.mp marks c other
  next => exact isWordChar_of_isDigit c digit

def IsExact (n : Int) : Prop :=
  -0x8000000000000000 ≤ n ∧ n ≤ 0xFFFFFFFFFFFFFFFF

theorem rereadNumber_integer (n : Int) (exact : IsExact n) :
    rereadNumber (.integer n) = some (.integer n) := by
  obtain ⟨low, high⟩ := exact
  simp only [rereadNumber, numberParts, NumberParts.number?, partsOf, Decimal.value_write]
  by_cases negative : n < 0
  next =>
    have size : n.natAbs ≤ 0x8000000000000000 := by omega
    simp [negative, size, abs_of_neg negative, negative.ne]
  next =>
    have size : n.natAbs ≤ 0xFFFFFFFFFFFFFFFF := by omega
    simp [negative, size, abs_of_nonneg (not_lt.mp negative)]

end Json

end RowGate
