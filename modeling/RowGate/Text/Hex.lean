set_option autoImplicit false

namespace RowGate.Text.Hex

def value? (c : Char) : Option Nat :=
  if '0' ≤ c ∧ c ≤ '9' then some (c.toNat - '0'.toNat)
  else if 'a' ≤ c ∧ c ≤ 'f' then some (c.toNat - 'a'.toNat + 10)
  else if 'A' ≤ c ∧ c ≤ 'F' then some (c.toNat - 'A'.toNat + 10)
  else none

def number (digits : List Char) : Nat :=
  digits.foldl (fun n c => 16 * n + (value? c).getD 0) 0

def lower (n : Nat) : Char :=
  if n < 10 then .ofNat ('0'.toNat + n) else .ofNat ('a'.toNat + n - 10)

def upper (n : Nat) : Char :=
  if n < 10 then .ofNat ('0'.toNat + n) else .ofNat ('A'.toNat + n - 10)

theorem value?_lower (n : Nat) (h : n < 16) : value? (lower n) = some n := by
  have finite : ∀ m, m < 16 → value? (lower m) = some m := by decide
  exact finite n h

theorem value?_upper (n : Nat) (h : n < 16) : value? (upper n) = some n := by
  have finite : ∀ m, m < 16 → value? (upper m) = some m := by decide
  exact finite n h

end RowGate.Text.Hex
