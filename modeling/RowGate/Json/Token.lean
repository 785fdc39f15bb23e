import RowGate.Json.Basic
import RowGate.Text.Hex

set_option autoImplicit false

namespace RowGate.Json

-- Takes digits while the number stays within 64 bits, and gives back the others.
def absorb (start : Nat) : List Char → Nat × List Char
  | [] => (start, [])
  | c :: rest =>
    let next := 10 * start + Decimal.digitValue c
    if next ≤ 0xFFFFFFFFFFFFFFFF then absorb next rest else (start, c :: rest)

/-- A significand times a power of ten, rounded after each of the at most two scalings; `none` when
the result is past the largest double. -/
def scale? (negative : Bool) (significand : Nat) (exponent : Int) : Option Double :=
  let power (n : Nat) : Double := .ofInt (Nat.pow 10 n)
  let start : Double := { Double.ofInt significand with negative }
  if exponent.natAbs ≤ 308 then
    if exponent < 0 then some (start.div (power exponent.natAbs))
    else
      let scaled := start.mul (power exponent.natAbs)
      if scaled.isFinite then some scaled else none
  else if significand = 0 then some (.zero negative)
  else if 0 ≤ exponent then none
  else if exponent < -616 then some (.zero negative)
  else some ((start.div (power 308)).div (power (exponent + 308).natAbs))

-- Whole digits, fraction digits if there is a point, and the exponent if there is a mark.
structure NumberParts where
  negative : Bool
  whole : List Char
  fraction : Option (List Char)
  exponent : Option Int

def exponentPart? (text : List Char) : Option Int :=
  let (negative, digits) :=
    match text with
    | '-' :: rest => (true, rest)
    | '+' :: rest => (false, rest)
    | rest => (false, rest)
  if digits = [] ∨ digits.any (!Decimal.isDigit ·) then none
  else
    let n : Int := Decimal.value digits
    some (if negative then -n else n)

def numberParts? (word : List Char) : Option NumberParts := do
  let (negative, body) :=
    match word with
    | '-' :: rest => (true, rest)
    | rest => (false, rest)
  let whole := body.takeWhile Decimal.isDigit
  let rest := body.dropWhile Decimal.isDigit
  if whole = [] ∨ (whole.head? = some '0' ∧ whole ≠ ['0']) then none
  let (fraction, rest) :=
    match rest with
    | '.' :: after => (some (after.takeWhile Decimal.isDigit), after.dropWhile Decimal.isDigit)
    | _ => (none, rest)
  if fraction = some [] then none
  match rest with
  | [] => some { negative, whole, fraction, exponent := none }
  | mark :: after =>
    if mark = 'e' ∨ mark = 'E' then
      let exponent ← exponentPart? after
      some { negative, whole, fraction, exponent := some exponent }
    else none

def NumberParts.double? (parts : NumberParts) : Option Double :=
  let fraction := parts.fraction.getD []
  let (significand, dropped) := absorb 0 parts.whole
  let (significand, unread) := absorb significand fraction
  let shift : Int := dropped.length - (fraction.length - unread.length)
  scale? parts.negative significand (shift + parts.exponent.getD 0)

-- A whole number of 64 bits stays exact, except minus zero.
def NumberParts.number? (parts : NumberParts) : Option Number :=
  let n := Decimal.value parts.whole
  let plain := parts.fraction.isNone && parts.exponent.isNone
  if plain && parts.negative && 0 < n && n ≤ 0x8000000000000000 then some (.integer (-n))
  else if plain && !parts.negative && n ≤ 0xFFFFFFFFFFFFFFFF then some (.integer n)
  else parts.double?.map .double

inductive CodeUnit where
  | char (c : Char)
  -- An escape by four hexadecimal digits.
  | escaped (value : Nat)

def isHighSurrogate (n : Nat) : Bool := 0xD800 ≤ n && n < 0xDC00

def isLowSurrogate (n : Nat) : Bool := 0xDC00 ≤ n && n < 0xE000

def ofUnits? : List CodeUnit → Option (List Char)
  | [] => some []
  | .char c :: rest => (ofUnits? rest).map (c :: ·)
  | .escaped high :: .escaped low :: rest =>
    if isHighSurrogate high then
      if isLowSurrogate low then
        let c := Char.ofNat (0x10000 + (high - 0xD800) * 0x400 + (low - 0xDC00))
        (ofUnits? rest).map (c :: ·)
      else none
    else if isLowSurrogate high then none
    else (ofUnits? (.escaped low :: rest)).map (Char.ofNat high :: ·)
  | .escaped n :: rest =>
    if isHighSurrogate n || isLowSurrogate n then none
    else (ofUnits? rest).map (Char.ofNat n :: ·)

def escaped? (c : Char) : Option Char :=
  match c with
  | '"' => some '"'
  | '\\' => some '\\'
  | '/' => some '/'
  | 'b' => some '\x08'
  | 'f' => some '\x0c'
  | 'n' => some '\n'
  | 'r' => some '\r'
  | 't' => some '\t'
  | _ => none

inductive Token where
  | arrayStart
  | arrayEnd
  | objectStart
  | objectEnd
  | comma
  | colon
  | scalar (value : Option Json)
  | string (text : Option String)

def isWordChar (c : Char) : Bool :=
  c.isAlphanum || c = '-' || c = '+' || c = '.'

def word? (word : List Char) : Option Token :=
  if word = "null".toList then some (.scalar (some .null))
  else if word = "true".toList then some (.scalar (some (.bool true)))
  else if word = "false".toList then some (.scalar (some (.bool false)))
  else (numberParts? word).map fun parts => .scalar (parts.number?.map .number)

-- What is being read; what was read of it is in reverse.
inductive Mode where
  | between
  | word (read : List Char)
  | string (read : List CodeUnit)
  | escape (read : List CodeUnit)
  | hex (read : List CodeUnit) (owed : Nat) (value : Nat)

-- What a character outside words and strings adds, and the mode after it.
def start? (c : Char) : Option (List Token × Mode) :=
  match c with
  | ' ' | '\n' | '\r' | '\t' => some ([], .between)
  | '[' => some ([.arrayStart], .between)
  | ']' => some ([.arrayEnd], .between)
  | '\x7b' => some ([.objectStart], .between)
  | '\x7d' => some ([.objectEnd], .between)
  | ',' => some ([.comma], .between)
  | ':' => some ([.colon], .between)
  | '"' => some ([], .string [])
  | _ => if isWordChar c then some ([], .word [c]) else none

def advance? : Mode → Char → Option (List Token × Mode)
  | .between, c => start? c
  | .word read, c =>
    if isWordChar c then some ([], .word (c :: read))
    else do
      let token ← word? read.reverse
      let (more, mode) ← start? c
      some (more ++ [token], mode)
  | .string read, c =>
    if c = '"' then some ([.string ((ofUnits? read.reverse).map .ofList)], .between)
    else if c = '\\' then some ([], .escape read)
    else if c.toNat < 0x20 then none
    else some ([], .string (.char c :: read))
  | .escape read, c =>
    if c = 'u' then some ([], .hex read 3 0)
    else (escaped? c).map fun plain => ([], .string (.char plain :: read))
  | .hex read owed value, c =>
    (Text.Hex.value? c).map fun digit =>
      let value := value * 16 + digit
      match owed with
      | 0 => ([], .string (.escaped value :: read))
      | owed + 1 => ([], .hex read owed value)

-- The tokens in reverse.
def tokensFrom? (done : List Token) : Mode → List Char → Option (List Token)
  | .between, [] => some done
  | .word read, [] => (word? read.reverse).map (· :: done)
  | _, [] => none
  | mode, c :: rest =>
    match advance? mode c with
    | some (more, next) => tokensFrom? (more ++ done) next rest
    | none => none

def tokens? (text : List Char) : Option (List Token) :=
  (tokensFrom? [] .between text).map List.reverse

end RowGate.Json
