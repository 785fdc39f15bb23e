import RowGate.Number.Double

set_option autoImplicit false

namespace RowGate

inductive Reading where
  | finite (value : Double)
  | infinite (negative : Bool)
  | nan
  deriving DecidableEq

namespace Reading

def ofDouble (x : Double) : Reading :=
  if x.isFinite then .finite x else .infinite x.negative

def exponent? (text : List Char) : Option Int :=
  let (negative, digits) :=
    match text with
    | '-' :: rest => (true, rest)
    | '+' :: rest => (false, rest)
    | rest => (false, rest)
  if digits = [] ∨ digits.any (!Decimal.isDigit ·) then none
  else
    let n : Int := Decimal.value digits
    some (if negative then -n else n)

def decimal? (negative : Bool) (text : List Char) : Option Reading :=
  let whole := text.takeWhile Decimal.isDigit
  let rest := text.dropWhile Decimal.isDigit
  let (fraction, rest) :=
    match rest with
    | '.' :: after => (after.takeWhile Decimal.isDigit, after.dropWhile Decimal.isDigit)
    | _ => ([], rest)
  let exponent :=
    match rest with
    | [] => some 0
    | mark :: after => if mark = 'e' ∨ mark = 'E' then exponent? after else none
  if whole = [] ∧ fraction = [] then none
  else
    exponent.map fun e =>
      ofDouble (.ofDecimal negative (Decimal.value (whole ++ fraction)) (e - fraction.length))

def unsigned? (negative : Bool) (text : List Char) : Option Reading :=
  let word := text.map Char.toLower
  if word = ['i', 'n', 'f'] ∨ word = ['i', 'n', 'f', 'i', 'n', 'i', 't', 'y'] then
    some (.infinite negative)
  else if word = ['n', 'a', 'n'] then some .nan
  else decimal? negative text

def ofText? : List Char → Option Reading
  | '-' :: rest => unsigned? true rest
  | '+' :: rest => unsigned? false rest
  | text => unsigned? false text

def order? (x : Double) : Reading → Option Ordering
  | .finite y => some (x.order y)
  | .infinite true => some .gt
  | .infinite false => some .lt
  | .nan => none

end Reading

end RowGate
