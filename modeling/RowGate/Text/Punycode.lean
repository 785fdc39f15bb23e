import RowGate.Text.Pieces
import RowGate.Text.Table

set_option autoImplicit false

namespace RowGate.Text.Punycode

def digitChar (d : Nat) : Char :=
  if d < 26 then .ofNat ('a'.toNat + d) else .ofNat ('0'.toNat + d - 26)

def digit? (c : Char) : Option Nat :=
  if 'a' ≤ c ∧ c ≤ 'z' then some (c.toNat - 'a'.toNat)
  else if 'A' ≤ c ∧ c ≤ 'Z' then some (c.toNat - 'A'.toNat)
  else if '0' ≤ c ∧ c ≤ '9' then some (c.toNat - '0'.toNat + 26)
  else none

-- The least digit that ends no number at the given position, between 1 and 26.
def threshold (position bias : Nat) : Nat :=
  max 1 (min 26 (position - bias))

theorem threshold_bounds (position bias : Nat) :
    1 ≤ threshold position bias ∧ threshold position bias ≤ 26 := by
  unfold threshold
  omega

def number (bias position n : Nat) : List Char :=
  let t := threshold position bias
  if n < t then [digitChar n]
  else digitChar (t + (n - t) % (36 - t)) :: number bias (position + 36) ((n - t) / (36 - t))
termination_by n
decreasing_by
  have bounds := threshold_bounds position bias
  have shrinks := Nat.div_le_self (n - threshold position bias) (36 - threshold position bias)
  omega

def dampen (bias delta : Nat) : Nat :=
  if 455 < delta then dampen (bias + 36) (delta / 35) else bias + 36 * delta / (delta + 38)
termination_by delta
decreasing_by omega

def adapt (delta size : Nat) (first : Bool) : Nat :=
  let delta := if first then delta / 700 else delta / 2
  dampen 0 (delta + delta / size)

structure Progress where
  delta : Nat := 0
  bias : Nat := 72
  size : Nat
  text : List Char := []

-- One character of the label while those with code point `n` are being inserted.
def visit (basic n : Nat) (state : Progress) (c : Char) : Progress :=
  if c.toNat < n then { state with delta := state.delta + 1 }
  else if c.toNat = n then
    { delta := 0
      bias := adapt state.delta (state.size + 1) (state.size == basic)
      size := state.size + 1
      text := state.text ++ number state.bias 36 state.delta }
  else state

def insertions (label : List Char) (basic : Nat) : List Nat → Nat → Progress → Progress
  | [], _, state => state
  | n :: rest, least, state =>
    let state := { state with delta := state.delta + (n - least) * (state.size + 1) }
    let state := label.foldl (visit basic n) state
    insertions label basic rest (n + 1) { state with delta := state.delta + 1 }

def encode (label : List Char) : List Char :=
  let basic := label.filter isAscii
  let others := ((label.filter (!isAscii ·)).map (·.toNat)).eraseDups.mergeSort
  let hyphen := if basic = [] then [] else ['-']
  basic ++ hyphen ++ (insertions label basic.length others 0x80 { size := basic.length }).text

def wordLimit : Nat := 4294967296

-- Adds the number at the front to `sum`, and gives what stands behind it.
def number? (bias position weight sum : Nat) : List Char → Option (Nat × List Char)
  | [] => none
  | c :: rest =>
    match digit? c with
    | none => none
    | some d =>
      let t := threshold position bias
      if wordLimit ≤ sum + d * weight then none
      else if d < t then some (sum + d * weight, rest)
      else if wordLimit ≤ weight * (36 - t) then none
      else number? bias (position + 36) (weight * (36 - t)) (sum + d * weight) rest

theorem length_of_number? (bias position weight sum n : Nat) (text rest : List Char)
    (found : number? bias position weight sum text = some (n, rest)) :
    rest.length < text.length := by
  induction text generalizing position weight sum with
  | nil => simp [number?] at found
  | cons c text ih =>
    simp only [number?] at found
    split at found
    · simp at found
    · next d _ =>
      split at found
      · simp at found
      · split at found
        · simp only [Option.some.injEq, Prod.mk.injEq] at found
          simp [found.2]
        · split at found
          · simp at found
          · have shorter := ih _ _ _ found
            simp only [List.length_cons]
            omega

def char? (n : Nat) : Option Char :=
  if n.isValidChar then some (.ofNat n) else none

def decodeFrom (n place bias : Nat) (label digits : List Char) : Option (List Char) :=
  if digits = [] then some label
  else
    match _found : number? bias 36 1 place digits with
    | none => none
    | some (walked, rest) =>
      let places := label.length + 1
      match char? (n + walked / places) with
      | none => none
      | some c =>
        decodeFrom (n + walked / places) (walked % places + 1)
          (adapt (walked - place) places (place == 0)) (label.insertIdx (walked % places) c) rest
termination_by digits.length
decreasing_by exact length_of_number? _ _ _ _ _ _ _ _found

-- The ASCII characters end at the last hyphen, unless the text starts with it.
def decode? (text : List Char) : Option (List Char) :=
  match cut? '-' text.reverse with
  | some (digits, first :: more) => decodeFrom 0x80 0 72 (first :: more).reverse digits.reverse
  | _ => decodeFrom 0x80 0 72 [] text

end RowGate.Text.Punycode
