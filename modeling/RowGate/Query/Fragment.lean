import RowGate.Error

set_option autoImplicit false

namespace RowGate

inductive Mode where
  | lenient
  | strict
  deriving DecidableEq

inductive Fragment (α : Type) where
  | wellFormed (value : α)
  | repaired (value : α) (fault : Error)
  | broken (fault : Error)

namespace Fragment

variable {α : Type}

def value? : Fragment α → Option α
  | .wellFormed value | .repaired value _ => some value
  | .broken _ => none

def WellFormed : Fragment α → Prop
  | .wellFormed _ => True
  | .repaired _ _ | .broken _ => False

-- The values of the fragments, or in strict mode the first fault.
def settle (mode : Mode) : List (Fragment α) → Except Error (List α)
  | [] => .ok []
  | .wellFormed value :: rest => (settle mode rest).map (value :: ·)
  | .repaired value fault :: rest =>
    match mode with
    | .lenient => (settle mode rest).map (value :: ·)
    | .strict => .error fault
  | .broken fault :: rest =>
    match mode with
    | .lenient => settle mode rest
    | .strict => .error fault

theorem settle_lenient (fragments : List (Fragment α)) :
    settle .lenient fragments = .ok (fragments.filterMap value?) := by
  induction fragments with
  | nil => rfl
  | cons fragment rest ih =>
    cases fragment <;> simp [settle, List.filterMap_cons, value?, ih, Except.map]

theorem settle_strict_of_wellFormed (fragments : List (Fragment α))
    (wellFormed : ∀ fragment ∈ fragments, fragment.WellFormed) :
    settle .strict fragments = .ok (fragments.filterMap value?) := by
  induction fragments with
  | nil => rfl
  | cons fragment rest ih =>
    have first := wellFormed fragment List.mem_cons_self
    have others := ih fun other member => wellFormed other (List.mem_cons_of_mem _ member)
    cases fragment with
    | wellFormed value => simp [settle, value?, others, Except.map]
    | repaired value fault => exact first.elim
    | broken fault => exact first.elim

theorem wellFormed_of_settle_strict (fragments : List (Fragment α)) (values : List α)
    (settled : settle .strict fragments = .ok values) :
    ∀ fragment ∈ fragments, fragment.WellFormed := by
  induction fragments generalizing values with
  | nil => simp
  | cons fragment rest ih =>
    cases fragment with
    | wellFormed value =>
      cases others : settle .strict rest with
      | error fault => simp [settle, others, Except.map] at settled
      | ok found =>
        intro other member
        rcases List.mem_cons.1 member with rfl | member
        · trivial
        · exact ih found others other member
    | repaired value fault => simp [settle] at settled
    | broken fault => simp [settle] at settled

end Fragment

end RowGate
