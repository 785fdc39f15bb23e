set_option autoImplicit false

namespace RowGate.Decimal

def isDigit (c : Char) : Bool :=
  '0' ≤ c && c ≤ '9'

def digitValue (c : Char) : Nat :=
  c.toNat - '0'.toNat

def digitChar (d : Nat) : Char :=
  .ofNat ('0'.toNat + d)

def write (n : Nat) : List Char :=
  if n < 10 then [digitChar n] else write (n / 10) ++ [digitChar (n % 10)]
termination_by n
decreasing_by omega

def valueFrom (start : Nat) (digits : List Char) : Nat :=
  digits.foldl (fun n c => 10 * n + digitValue c) start

def value (digits : List Char) : Nat :=
  valueFrom 0 digits

def text (n : Nat) : String :=
  .ofList (write n)

def integerText (n : Int) : String :=
  if n < 0 then "-" ++ text n.natAbs else text n.natAbs

theorem digitValue_digitChar (d : Nat) (h : d < 10) : digitValue (digitChar d) = d := by
  have finite : ∀ e, e < 10 → digitValue (digitChar e) = e := by decide
  exact finite d h

theorem isDigit_digitChar (d : Nat) (h : d < 10) : isDigit (digitChar d) = true := by
  have finite : ∀ e, e < 10 → isDigit (digitChar e) = true := by decide
  exact finite d h

theorem valueFrom_append (start : Nat) (front back : List Char) :
    valueFrom start (front ++ back) = valueFrom (valueFrom start front) back := by
  simp [valueFrom]

@[simp] theorem value_write (n : Nat) : value (write n) = n := by
  induction n using Nat.strongRecOn with
  | ind n ih =>
    rw [write]
    split
    · next small => simp [value, valueFrom, digitValue_digitChar n small]
    · next large =>
      have front := ih (n / 10) (by omega)
      simp only [value] at front
      rw [value, valueFrom_append, front]
      simp only [valueFrom, List.foldl_cons, List.foldl_nil]
      rw [digitValue_digitChar _ (Nat.mod_lt _ (by omega))]
      omega

theorem write_ne_nil (n : Nat) : write n ≠ [] := by
  rw [write]
  split <;> simp

theorem isDigit_of_mem_write (n : Nat) (c : Char) (h : c ∈ write n) : isDigit c = true := by
  induction n using Nat.strongRecOn with
  | ind n ih =>
    rw [write] at h
    split at h
    · next small =>
      simp only [List.mem_singleton] at h
      exact h ▸ isDigit_digitChar n small
    · next large =>
      rcases List.mem_append.1 h with h | h
      · exact ih (n / 10) (by omega) h
      · simp only [List.mem_singleton] at h
        exact h ▸ isDigit_digitChar _ (Nat.mod_lt _ (by omega))

end RowGate.Decimal
