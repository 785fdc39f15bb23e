import RowGate.Number.Decimal

set_option autoImplicit false

/-!
# Finite double-precision numbers

A double is a sign and a count of units, a unit being the least positive double, 2 ^ -1074. Every
operation is exact arithmetic on units followed by one rounding to 53 significant bits, a tie going
to the even neighbour. A count that reaches `limit` is past the largest double.
-/

namespace RowGate

structure Double where
  negative : Bool
  units : Nat
  deriving DecidableEq

namespace Double

def unitsPerOne : Nat := Nat.pow 2 1074

def limit : Nat := Nat.pow 2 2098

-- The distance to the next larger double.
def gap (units : Nat) : Nat :=
  Nat.pow 2 (units.log2 - 52)

def roundUnits (numerator denominator : Nat) : Nat :=
  let spacing := gap (numerator / denominator)
  let coarse := denominator * spacing
  let kept := numerator / coarse
  let rest := numerator % coarse
  let up := coarse < 2 * rest || (2 * rest == coarse && kept % 2 == 1)
  (if up then kept + 1 else kept) * spacing

def zero (negative : Bool) : Double := ⟨negative, 0⟩

def ofRatio (negative : Bool) (numerator denominator : Nat) : Double :=
  ⟨negative, roundUnits (numerator * unitsPerOne) denominator⟩

def ofInt (n : Int) : Double :=
  ofRatio (decide (n < 0)) n.natAbs 1

def mul (left right : Double) : Double :=
  ⟨left.negative != right.negative, roundUnits (left.units * right.units) unitsPerOne⟩

def div (left right : Double) : Double :=
  ⟨left.negative != right.negative, roundUnits (left.units * unitsPerOne) right.units⟩

def isFinite (x : Double) : Bool :=
  x.units < limit

-- The value in units; the two zeros have the same one.
def signed (x : Double) : Int :=
  if x.negative then -x.units else x.units

def order (left right : Double) : Ordering :=
  compare left.signed right.signed

/-- The double nearest to `digits` times ten to the `exponent`; it may be past the limit. -/
def ofDecimal (negative : Bool) (digits : Nat) (exponent : Int) : Double :=
  if digits = 0 ∨ exponent < -(400 + digits.log2 : Int) then zero negative
  else if 400 < exponent then ⟨negative, limit⟩
  else if exponent < 0 then ofRatio negative digits (Nat.pow 10 exponent.natAbs)
  else ofRatio negative (digits * Nat.pow 10 exponent.natAbs) 1

def digitCount (n : Nat) : Nat :=
  if n = 0 then 0 else (Decimal.write n).length

-- The decimal exponent of the first digit of a positive count of units.
def leadingExponent (units : Nat) : Int :=
  if unitsPerOne ≤ units then digitCount (units / unitsPerOne) - 1
  else -(digitCount ((unitsPerOne - 1) / units) : Int)

-- Whether `multiple` times ten to the `exponent` is nearer to `units` than to any other double.
def readsBack (units : Nat) (exponent : Int) (multiple : Nat) : Bool :=
  let spacing := gap units
  let atPower := 1 < spacing && units == spacing * Nat.pow 2 52
  let below := if atPower then spacing else 2 * spacing
  let up := Nat.pow 10 exponent.toNat
  let down := Nat.pow 10 (-exponent).toNat
  let candidate := 4 * multiple * up * unitsPerOne
  let low := (4 * units - below) * down
  let high := (4 * units + 2 * spacing) * down
  if (units / spacing) % 2 = 0 then low ≤ candidate && candidate ≤ high
  else low < candidate && candidate < high

-- Which of two decimals is taken that are equally near.
inductive Tie where
  | even
  | upper

def Tie.pick (tie : Tie) (below : Nat) : Nat :=
  match tie with
  | .even => below + below % 2
  | .upper => below + 1

-- The nearest multiple of ten to the `exponent` among the two neighbours that read back.
def onGrid (tie : Tie) (units : Nat) (exponent : Int) : Option Nat :=
  let numerator := units * Nat.pow 10 (-exponent).toNat
  let denominator := unitsPerOne * Nat.pow 10 exponent.toNat
  let below := numerator / denominator
  let rest := numerator % denominator
  match readsBack units exponent below, readsBack units exponent (below + 1) with
  | true, true =>
    some
      (match compare (2 * rest) denominator with
      | .lt => below
      | .eq => tie.pick below
      | .gt => below + 1)
  | true, false => some below
  | false, true => some (below + 1)
  | false, false => none

def dropZeros (digits : Nat) (exponent : Int) : Nat × Int :=
  if h : digits ≠ 0 ∧ digits % 10 = 0 then dropZeros (digits / 10) (exponent + 1)
  else (digits, exponent)
termination_by digits
decreasing_by omega

/-- Digits and exponent of the shortest decimal that reads back as a positive count of units. -/
def shortest (tie : Tie) (units : Nat) : Nat × Int :=
  let top := leadingExponent units
  let found := (List.range 17).findSome? fun (more : Nat) =>
    (onGrid tie units (top - more)).map fun digits => (digits, top - more)
  match found with
  | some (digits, exponent) => dropZeros digits exponent
  | none => (0, 0)

structure Layout where
  -- The decimal exponents that are written without exponent.
  positional : Int → Bool
  -- Whether a whole number keeps `.0`.
  keepsPoint : Bool
  tie : Tie

def Layout.text (layout : Layout) (x : Double) : List Char :=
  let sign := if x.negative then ['-'] else []
  let point := if layout.keepsPoint then ['.', '0'] else []
  if x.units = 0 then sign ++ '0' :: point
  else
    let (digits, exponent) := shortest layout.tie x.units
    let text := Decimal.write digits
    let whole := text.length + exponent
    let leading := whole - 1
    let body :=
      if layout.positional leading then
        if 0 ≤ exponent then text ++ List.replicate exponent.toNat '0' ++ point
        else if 0 < whole then text.take whole.toNat ++ '.' :: text.drop whole.toNat
        else '0' :: '.' :: List.replicate (-whole).toNat '0' ++ text
      else
        let mantissa :=
          match text with
          | first :: next :: more => first :: '.' :: next :: more
          | short => short
        mantissa ++ 'e' :: (if leading < 0 then '-' else '+') :: Decimal.write leading.natAbs
    sign ++ body

end Double

end RowGate
