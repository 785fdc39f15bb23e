import RowGate.Domain.Name
import RowGate.Number.Decimal
import RowGate.Text.Percent

set_option autoImplicit false

namespace RowGate.Url

inductive Fault where
  | emptyHost
  | domain
  | port
  | ipv4
  | ipv6
  | domainCharacter
  | relative
  deriving DecidableEq

def Fault.message : Fault → String
  | .emptyHost => "empty host"
  | .domain => "invalid international domain name"
  | .port => "invalid port number"
  | .ipv4 => "invalid IPv4 address"
  | .ipv6 => "invalid IPv6 address"
  | .domainCharacter => "invalid domain character"
  | .relative => "relative URL without a base"

namespace Host

inductive Numeral where
  | notNumber
  | tooLarge
  | number (n : Nat)
  deriving DecidableEq

def numeralIn (base : Nat) (digits : List Char) : Numeral :=
  match digits.mapM fun c => (Text.Hex.value? c).filter (· < base) with
  | none => .notNumber
  | some values =>
    let n := values.foldl (fun n d => base * n + d) 0
    if n < 4294967296 then .number n else .tooLarge

def numeral : List Char → Numeral
  | [] => .notNumber
  | ['0'] => .number 0
  | '0' :: c :: rest => if c = 'x' ∨ c = 'X' then numeralIn 16 rest else numeralIn 8 (c :: rest)
  | digits => numeralIn 10 digits

def labels (domain : List Char) : List (List Char) :=
  match (Text.pieces '.' domain).reverse with
  | [] :: rest => rest.reverse
  | all => all.reverse

def endsInNumber (domain : List Char) : Bool :=
  match (labels domain).getLast? with
  | none | some [] => false
  | some label => label.all Decimal.isDigit || numeral label != .notNumber

-- The last part fills the bytes that the parts before it leave.
def ipv4? (domain : List Char) : Option Nat := do
  let numbers ← (labels domain).mapM fun label =>
    match numeral label with
    | .number n => some n
    | _ => none
  let last ← numbers.getLast?
  let front := numbers.dropLast
  if 3 < front.length ∨ front.any (255 < ·) ∨ Nat.pow 256 (4 - front.length) ≤ last then none
  else some (front.foldl (fun n byte => 256 * n + byte) 0 * Nat.pow 256 (4 - front.length) + last)

def ipv4Text (address : Nat) : List Char :=
  Text.join '.' ([16777216, 65536, 256, 1].map fun unit => Decimal.write (address / unit % 256))

def group? (text : List Char) : Option Nat :=
  if text = [] ∨ 4 < text.length then none
  else (text.mapM Text.Hex.value?).map (·.foldl (fun n d => 16 * n + d) 0)

def octet? (text : List Char) : Option Nat :=
  let n := Decimal.value text
  if Decimal.write n = text ∧ n ≤ 255 then some n else none

-- The groups between single colons; the last two may be written as an IPv4 address.
def groups? : List (List Char) → Option (List Nat)
  | [] => some []
  | [last] =>
    if last.contains '.' then
      match (Text.pieces '.' last).mapM octet? with
      | some [a, b, c, d] => some [256 * a + b, 256 * c + d]
      | _ => none
    else (group? last).map ([·])
  | text :: rest => do
    let n ← group? text
    let more ← groups? rest
    some (n :: more)

def side? (text : List Char) : Option (List Nat) :=
  if text = [] then some [] else groups? (Text.pieces ':' text)

def cutGap? : List Char → Option (List Char × List Char)
  | ':' :: ':' :: rest => some ([], rest)
  | c :: rest => (cutGap? rest).map fun (before, after) => (c :: before, after)
  | [] => none

-- Eight groups; two colons stand for at least one group of zeros.
def ipv6? (text : List Char) : Option (List Nat) :=
  match cutGap? text with
  | none => (side? text).filter (·.length = 8)
  | some (before, after) => do
    let front ← if before.contains '.' then none else side? before
    let back ← side? after
    if 8 ≤ front.length + back.length then none
    else some (front ++ List.replicate (8 - front.length - back.length) 0 ++ back)

def zerosAt (groups : List Nat) (start : Nat) : Nat :=
  ((groups.drop start).takeWhile (· = 0)).length

def longestZeros (groups : List Nat) : Nat :=
  (List.range groups.length).foldl
    (fun best start => if zerosAt groups best < zerosAt groups start then start else best) 0

def groupsText (groups : List Nat) : List Char :=
  Text.join ':' (groups.map (Nat.toDigits 16))

-- The longest run of at least two zeros is written as two colons.
def ipv6Text (groups : List Nat) : List Char :=
  let start := longestZeros groups
  let length := zerosAt groups start
  if length < 2 then groupsText groups
  else groupsText (groups.take start) ++ ':' :: ':' :: groupsText (groups.drop (start + length))

def bracketed (inner : List Char) : Except Fault (List Char) :=
  if inner.getLast? = some ']' then
    match ipv6? inner.dropLast with
    | some groups => .ok ('[' :: ipv6Text groups ++ [']'])
    | none => .error .ipv6
  else .error .ipv6

def plain (text : List Char) : Except Fault (List Char) :=
  match text with
  | '[' :: inner => bracketed inner
  | _ =>
    if text.any Domain.isForbidden then .error .domainCharacter
    else .ok (Text.Percent.encode (fun c => Text.isAscii c && !Domain.isControl c) text)

def ofDomain (domain : List Char) : Except Fault (List Char) :=
  if domain = [] then .error .emptyHost
  else if endsInNumber domain then
    match ipv4? domain with
    | some address => .ok (ipv4Text address)
    | none => .error .ipv4
  else .ok domain

def special (text : List Char) : Except Fault (List Char) :=
  match text with
  | '[' :: inner => bracketed inner
  | _ =>
    match (Text.Utf8.decode (Text.Percent.bytes text)).bind Domain.ascii? with
    | some domain => ofDomain domain
    | none => .error .domain

end Host

end RowGate.Url
