import RowGate.Number.Reading
import RowGate.Proofs.Grammar
import RowGate.Proofs.Number.Shortest

set_option autoImplicit false

namespace RowGate

namespace Decimal

theorem value_append_zeros (digits : List Char) (count : Nat) :
    value (digits ++ List.replicate count '0') = value digits * 10 ^ count := by
  induction count with
  | zero => simp
  | succ count ih =>
    have last (n : Nat) : valueFrom n ['0'] = 10 * n := by simp [valueFrom, digitValue]
    rw [List.replicate_succ', ← List.append_assoc, value, valueFrom_append, last, ← value, ih,
      Nat.pow_succ]
    ring

theorem value_zeros_append (count : Nat) (digits : List Char) :
    value (List.replicate count '0' ++ digits) = value digits := by
  have zeros := value_append_zeros [] count
  rw [List.nil_append] at zeros
  rw [value, valueFrom_append, ← value, zeros]
  simp [value, valueFrom]

end Decimal

namespace Reading

structure Written where
  whole : List Char
  fraction : List Char := []
  exponent : Option Int := none

namespace Written

def pointText : List Char → List Char
  | [] => []
  | fraction => '.' :: fraction

def markText : Option Int → List Char
  | none => []
  | some exponent => 'e' :: (if exponent < 0 then '-' else '+') :: Decimal.write exponent.natAbs

def text (written : Written) : List Char :=
  written.whole ++ (pointText written.fraction ++ markText written.exponent)

structure Sound (written : Written) : Prop where
  nonempty : written.whole ≠ []
  solid : ∀ c ∈ written.whole ++ written.fraction, Decimal.isDigit c = true

def digits (written : Written) : Nat :=
  Decimal.value (written.whole ++ written.fraction)

def scale (written : Written) : Int :=
  written.exponent.getD 0 - written.fraction.length

end Written

theorem exponent?_write (exponent : Int) :
    exponent? ((if exponent < 0 then '-' else '+') :: Decimal.write exponent.natAbs) = some exponent := by
  have digits : ¬(Decimal.write exponent.natAbs = [] ∨
      (Decimal.write exponent.natAbs).any (!Decimal.isDigit ·) = true) := by
    rw [not_or, Bool.not_eq_true, List.any_eq_false]
    refine ⟨Decimal.write_ne_nil _, fun c member => ?_⟩
    simp [Decimal.isDigit_of_mem_write _ c member]
  by_cases negative : exponent < 0
  · rw [if_pos negative, exponent?]
    dsimp only
    rw [if_neg digits, Decimal.value_write, if_pos rfl]
    congr 1
    omega
  · rw [if_neg negative, exponent?]
    dsimp only
    rw [if_neg digits, Decimal.value_write, if_neg (by decide)]
    congr 1
    omega

theorem markText_stops (exponent : Option Int) :
    ∀ c ∈ (Written.markText exponent).head?, Decimal.isDigit c = false := by
  cases exponent <;> simp [Written.markText, Decimal.isDigit]

theorem decimal?_text (negative : Bool) (written : Written) (sound : written.Sound) :
    decimal? negative written.text =
      some (ofDouble (.ofDecimal negative written.digits written.scale)) := by
  obtain ⟨whole, fraction, exponent⟩ := written
  obtain ⟨nonempty, solid⟩ := sound
  obtain ⟨wholes, fractions⟩ := List.forall_mem_append.1 solid
  have stops : ∀ c ∈ (Written.pointText fraction ++ Written.markText exponent).head?,
      Decimal.isDigit c = false := by
    cases fraction with
    | nil => exact markText_stops exponent
    | cons digit more => simp [Written.pointText, Decimal.isDigit]
  obtain ⟨taken, dropped⟩ := Decimal.span_isDigit whole _ wholes stops
  unfold decimal? Written.text
  rw [taken, dropped]
  cases fraction with
  | nil =>
    cases exponent with
    | none => simp [Written.pointText, Written.markText, Written.digits, Written.scale, nonempty]
    | some exponent =>
      have read := exponent?_write exponent
      simp [Written.pointText, Written.markText, Written.digits, Written.scale, nonempty, read]
  | cons digit more =>
    obtain ⟨front, back⟩ := Decimal.span_isDigit (digit :: more) _ fractions (markText_stops exponent)
    rw [List.cons_append] at front back
    simp only [Written.pointText, List.cons_append, front, back]
    cases exponent with
    | none => simp [Written.markText, Written.digits, Written.scale, nonempty]
    | some exponent =>
      have read := exponent?_write exponent
      simp [Written.markText, Written.digits, Written.scale, nonempty, read]

def signText (negative : Bool) : List Char :=
  if negative then ['-'] else []

theorem unsigned?_of_digit (negative : Bool) (c : Char) (rest : List Char)
    (digit : Decimal.isDigit c = true) :
    unsigned? negative (c :: rest) = decimal? negative (c :: rest) := by
  have bounds : '0' ≤ c ∧ c ≤ '9' := by simpa [Decimal.isDigit] using digit
  have same : c.toLower = c :=
    dif_neg fun upper => absurd (Nat.le_trans upper.1 bounds.2) (by decide)
  have other : c.toLower ≠ 'i' ∧ c.toLower ≠ 'n' := by
    rw [same]
    constructor <;> (rintro rfl; exact absurd digit (by decide))
  simp [unsigned?, other]

theorem ofText?_signed (negative : Bool) (written : Written) (sound : written.Sound) :
    ofText? (signText negative ++ written.text) =
      some (ofDouble (.ofDecimal negative written.digits written.scale)) := by
  obtain ⟨c, rest, shape⟩ := List.exists_cons_of_ne_nil sound.nonempty
  have digit : Decimal.isDigit c = true := sound.solid c (by simp [shape])
  have plain : c ≠ '-' ∧ c ≠ '+' := by
    constructor <;> (rintro rfl; exact absurd digit (by decide))
  have read := decimal?_text negative written sound
  have front : written.text = c :: (rest ++
      (Written.pointText written.fraction ++ Written.markText written.exponent)) := by
    rw [Written.text, shape]
    rfl
  rw [← read, front, ← unsigned?_of_digit negative c _ digit]
  cases negative with
  | true => rfl
  | false => simp [signText, ofText?, plain]

theorem mem_signed_cases (negative : Bool) (written : Written) (sound : written.Sound) (c : Char)
    (member : c ∈ signText negative ++ written.text) :
    c ∈ ['.', 'e', '-', '+'] ∨ Decimal.isDigit c = true := by
  obtain ⟨wholes, fractions⟩ := List.forall_mem_append.1 sound.solid
  have point : c ∈ Written.pointText written.fraction → c = '.' ∨ c ∈ written.fraction := by
    cases written.fraction <;> simp [Written.pointText]
  have mark : c ∈ Written.markText written.exponent →
      c ∈ ['e', '-', '+'] ∨ Decimal.isDigit c = true := by
    cases written.exponent with
    | none => simp [Written.markText]
    | some exponent =>
      simp only [Written.markText, List.mem_cons]
      rintro (rfl | rfl | digit)
      · simp
      · split <;> simp
      · exact .inr (Decimal.isDigit_of_mem_write _ c digit)
  rw [Written.text, List.mem_append, List.mem_append, List.mem_append] at member
  obtain sign | whole | fraction | exponent := member
  · refine .inl ?_
    cases negative <;> simp_all [signText]
  · exact .inr (wholes c whole)
  · obtain rfl | digit := point fraction
    · simp
    · exact .inr (fractions c digit)
  · exact (mark exponent).imp_left (List.mem_cons_of_mem _)

theorem isBlank_of_mem_signed (negative : Bool) (written : Written) (sound : written.Sound) (c : Char)
    (member : c ∈ signText negative ++ written.text) : Text.isBlank c = false := by
  obtain other | digit := mem_signed_cases negative written sound c member
  · have solid : ∀ c ∈ ['.', 'e', '-', '+'], Text.isBlank c = false := by simp [Text.isBlank]
    exact solid c other
  · exact isBlank_of_isDigit c digit

theorem trim_signed (negative : Bool) (written : Written) (sound : written.Sound) :
    Text.trim (signText negative ++ written.text) = signText negative ++ written.text :=
  Text.trim_eq_self _ (Text.trimmed_of_forall _ (isBlank_of_mem_signed negative written sound))

end Reading

namespace Double

open Reading (Written signText)

-- The digits of a layout and where their point stands.
def Layout.written (layout : Layout) (digits : Nat) (exponent : Int) : Written :=
  let text := Decimal.write digits
  let whole := text.length + exponent
  if layout.positional (whole - 1) then
    if 0 ≤ exponent then
      { whole := text ++ List.replicate exponent.toNat '0'
        fraction := if layout.keepsPoint then ['0'] else [] }
    else if 0 < whole then { whole := text.take whole.toNat, fraction := text.drop whole.toNat }
    else { whole := ['0'], fraction := List.replicate (-whole).toNat '0' ++ text }
  else { whole := text.take 1, fraction := text.drop 1, exponent := some (whole - 1) }

theorem pointText_of_ne_nil (fraction : List Char) (nonempty : fraction ≠ []) :
    Written.pointText fraction = '.' :: fraction := by
  cases fraction with
  | nil => exact absurd rfl nonempty
  | cons digit more => rfl

theorem Layout.text_of_ne_zero (layout : Layout) (x : Double) (nonzero : x.units ≠ 0) :
    layout.text x = signText x.negative ++
      (layout.written (shortest layout.tie x.units).1 (shortest layout.tie x.units).2).text := by
  rcases found : shortest layout.tie x.units with ⟨digits, exponent⟩
  have some := Decimal.write_ne_nil digits
  have sign : (if x.negative then ['-'] else []) = signText x.negative := rfl
  simp only [Layout.text, if_neg nonzero, found, sign, written]
  congr 1
  split
  · split
    next => cases layout.keepsPoint <;> simp [Written.text, Written.pointText, Written.markText]
    · split
      next =>
        have behind : (Decimal.write digits).drop ((Decimal.write digits).length + exponent).toNat ≠ [] := by
          rw [ne_eq, List.drop_eq_nil_iff]
          omega
        rw [Written.text, pointText_of_ne_nil _ behind]
        simp [Written.markText]
      next =>
        have behind (count : Nat) : List.replicate count '0' ++ Decimal.write digits ≠ [] := by simp [some]
        rw [Written.text, pointText_of_ne_nil _ (behind _)]
        simp [Written.markText]
  · cases shape : Decimal.write digits with
    | nil => exact absurd shape some
    | cons first rest =>
      cases rest with
      | nil => simp [Written.text, Written.pointText, Written.markText]
      | cons next more => simp [Written.text, Written.pointText, Written.markText]

theorem Layout.written_sound (layout : Layout) (digits : Nat) (exponent : Int) :
    (layout.written digits exponent).Sound := by
  have some := Decimal.write_ne_nil digits
  have solid := Decimal.isDigit_of_mem_write digits
  have zero : Decimal.isDigit '0' = true := by decide
  have whole (count : Nat) : ∀ c ∈ (Decimal.write digits).take count ++ (Decimal.write digits).drop count,
      Decimal.isDigit c = true := by
    rw [List.take_append_drop]
    exact solid
  unfold written
  dsimp only
  split
  · split
    · refine ⟨by simp [some], fun c member => ?_⟩
      simp only [List.mem_append, List.mem_replicate] at member
      obtain (digit | padding) | last := member
      · exact solid c digit
      · exact padding.2 ▸ zero
      · split at last <;> simp_all
    · split
      next positive => exact ⟨by simp [some]; omega, whole _⟩
      next =>
        refine ⟨by simp, fun c member => ?_⟩
        simp only [List.mem_append, List.mem_singleton, List.mem_replicate] at member
        obtain rfl | padding | digit := member
        · exact zero
        · exact padding.2 ▸ zero
        · exact solid c digit
  · exact ⟨by simp [some], whole 1⟩

theorem Layout.written_shift (layout : Layout) (digits : Nat) (exponent : Int) :
    ∃ zeros : Nat, (layout.written digits exponent).digits = digits * 10 ^ zeros ∧
      (layout.written digits exponent).scale = exponent - zeros := by
  have some := List.length_pos_iff.2 (Decimal.write_ne_nil digits)
  unfold written
  dsimp only
  split
  · split
    next natural =>
      split
      next =>
        refine ⟨exponent.toNat + 1, ?_, ?_⟩
        · have padded (count : Nat) : List.replicate count '0' ++ ['0'] = List.replicate (count + 1) '0' :=
            List.replicate_succ'.symm
          rw [Written.digits, List.append_assoc, padded, Decimal.value_append_zeros, Decimal.value_write]
        · simp [Written.scale]
          omega
      next =>
        refine ⟨exponent.toNat, ?_, ?_⟩
        · rw [Written.digits, List.append_nil, Decimal.value_append_zeros, Decimal.value_write]
        · simp [Written.scale]
          omega
    · refine ⟨0, ?_⟩
      split
      next positive =>
        constructor
        · simp [Written.digits]
        · simp [Written.scale]
          omega
      next =>
        constructor
        · have padded (count : Nat) (text : List Char) :
              ['0'] ++ (List.replicate count '0' ++ text) = List.replicate (count + 1) '0' ++ text := by
            rw [List.replicate_succ]
            rfl
          rw [Written.digits, padded, Decimal.value_zeros_append, Decimal.value_write]
          simp
        · simp [Written.scale]
          omega
  · refine ⟨0, ?_, ?_⟩
    · simp only [Written.digits, List.take_append_drop, Decimal.value_write, Nat.pow_zero, Nat.mul_one]
    · simp [Written.scale]
      omega

def Layout.decimal (layout : Layout) (x : Double) : Written :=
  if x.units = 0 then { whole := ['0'], fraction := if layout.keepsPoint then ['0'] else [] }
  else layout.written (shortest layout.tie x.units).1 (shortest layout.tie x.units).2

theorem Layout.text_eq (layout : Layout) (x : Double) :
    layout.text x = signText x.negative ++ (layout.decimal x).text := by
  by_cases zero : x.units = 0
  · simp only [Layout.text, decimal, if_pos zero]
    cases layout.keepsPoint <;> rfl
  · rw [layout.text_of_ne_zero x zero, decimal, if_neg zero]

theorem Layout.decimal_sound (layout : Layout) (x : Double) : (layout.decimal x).Sound := by
  unfold decimal
  split
  · refine ⟨by simp, ?_⟩
    cases layout.keepsPoint <;> simp [Decimal.isDigit]
  · exact layout.written_sound _ _

theorem Layout.ofDecimal_decimal (layout : Layout) (x : Double) (whole : gap x.units ∣ x.units)
    (finite : x.isFinite = true) :
    ofDecimal x.negative (layout.decimal x).digits (layout.decimal x).scale = x := by
  unfold decimal
  split
  next zero =>
    have none : ({ whole := ['0'], fraction := if layout.keepsPoint then ['0'] else [] } :
        Written).digits = 0 := by
      cases layout.keepsPoint <;> rfl
    rw [none, ofDecimal, if_pos (.inl rfl), Double.zero, ← zero]
  next nonzero =>
    have near := shortest_near layout.tie x.units nonzero whole
    have below : x.units < limit := by simpa [isFinite] using finite
    obtain ⟨zeros, digits, scale⟩ := layout.written_shift (shortest layout.tie x.units).1
      (shortest layout.tie x.units).2
    rw [digits, scale]
    exact ofDecimal_of_near x.negative x.units _ _
      ((nearDecimal_shift x.units _ zeros _).2 (by rwa [Int.sub_add_cancel])) nonzero whole below

theorem ofText?_text (layout : Layout) (x : Double) (whole : gap x.units ∣ x.units)
    (finite : x.isFinite = true) :
    Reading.ofText? (Text.trim (layout.text x)) = some (.finite x) := by
  have sound := layout.decimal_sound x
  rw [layout.text_eq, Reading.trim_signed _ _ sound, Reading.ofText?_signed _ _ sound,
    layout.ofDecimal_decimal x whole finite, Reading.ofDouble, if_pos finite]

theorem ofInt_isFinite (n : Int) (bound : n.natAbs ≤ 2 ^ 64) : (ofInt n).isFinite = true := by
  have rounded : roundUnits (n.natAbs * unitsPerOne) 1 ≤ roundUnits (2 ^ 64 * unitsPerOne) 1 :=
    roundUnits_mono _ _ (Nat.mul_le_mul_right _ bound)
  have largest : roundUnits (2 ^ 64 * unitsPerOne) 1 < limit := by decide +kernel
  exact decide_eq_true (Nat.lt_of_le_of_lt rounded largest)

theorem ofDecimal_natAbs (n : Int) : ofDecimal (decide (n < 0)) n.natAbs 0 = ofInt n := by
  unfold ofDecimal
  split
  next zero =>
    have none : n = 0 := by omega
    rw [none, ofInt, ofRatio, Int.natAbs_zero, Nat.zero_mul, roundUnits_of_dvd 0 (Nat.dvd_zero _), Double.zero]
  next =>
    rw [if_neg (by decide), if_neg (by decide), Int.natAbs_zero, Nat.pow_eq, Nat.pow_zero, Nat.mul_one]
    rfl

theorem ofText?_signed_write (n : Int) (bound : n.natAbs ≤ 2 ^ 64) :
    Reading.ofText? (Text.trim (signText (decide (n < 0)) ++ Decimal.write n.natAbs)) =
      some (.finite (ofInt n)) := by
  have sound : ({ whole := Decimal.write n.natAbs } : Written).Sound :=
    ⟨Decimal.write_ne_nil _, by simpa using Decimal.isDigit_of_mem_write n.natAbs⟩
  have text : Decimal.write n.natAbs = ({ whole := Decimal.write n.natAbs } : Written).text := by
    simp [Written.text, Written.pointText, Written.markText]
  have digits : ({ whole := Decimal.write n.natAbs } : Written).digits = n.natAbs := by
    simp [Written.digits]
  have scale : ({ whole := Decimal.write n.natAbs } : Written).scale = 0 := by simp [Written.scale]
  rw [text, Reading.trim_signed _ _ sound, Reading.ofText?_signed _ _ sound, digits, scale,
    ofDecimal_natAbs, Reading.ofDouble, if_pos (ofInt_isFinite n bound)]

end Double

end RowGate
