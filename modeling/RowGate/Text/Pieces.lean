import RowGate.Text.Blank

set_option autoImplicit false

namespace RowGate.Text

def pieces (separator : Char) : List Char → List (List Char)
  | [] => [[]]
  | c :: rest =>
    if c = separator then [] :: pieces separator rest
    else
      match pieces separator rest with
      | [] => [[c]]
      | piece :: more => (c :: piece) :: more

def join (separator : Char) : List (List Char) → List Char
  | [] => []
  | [piece] => piece
  | piece :: next :: more => piece ++ separator :: join separator (next :: more)

def cut? (separator : Char) : List Char → Option (List Char × List Char)
  | [] => none
  | c :: rest =>
    if c = separator then some ([], rest)
    else (cut? separator rest).map fun (before, after) => (c :: before, after)

def tokens (separator : Char) (text : List Char) : List (List Char) :=
  ((pieces separator text).map trim).filter (· ≠ [])

theorem pieces_ne_nil (separator : Char) (text : List Char) : pieces separator text ≠ [] := by
  cases text with
  | nil => simp [pieces]
  | cons c rest =>
    simp only [pieces]
    split
    · simp
    · split <;> simp

theorem join_pieces (separator : Char) (text : List Char) :
    join separator (pieces separator text) = text := by
  induction text with
  | nil => rfl
  | cons c rest ih =>
    have nonempty := pieces_ne_nil separator rest
    simp only [pieces]
    cases found : pieces separator rest with
    | nil => exact absurd found nonempty
    | cons piece more =>
      rw [found] at ih
      by_cases same : c = separator
      · subst same
        simpa [join] using ih
      · cases more with
        | nil => simpa [same, join] using ih
        | cons next others => simpa [same, join] using ih

theorem cut?_eq_some_iff (separator : Char) (text before after : List Char) :
    cut? separator text = some (before, after) ↔
      text = before ++ separator :: after ∧ separator ∉ before := by
  induction text generalizing before with
  | nil => simp [cut?]
  | cons c rest ih =>
    by_cases same : c = separator
    · subst same
      cases before with
      | nil => simp [cut?, eq_comm]
      | cons d before =>
        simp only [cut?, if_true, Option.some.injEq, Prod.mk.injEq, List.nil_eq, reduceCtorEq,
          false_and, List.cons_append, List.cons.injEq, List.mem_cons, not_or, false_iff]
        rintro ⟨⟨rfl, -⟩, differs, -⟩
        exact differs rfl
    · cases before with
      | nil => simp [cut?, same]
      | cons d before =>
        simp only [cut?, if_neg same, Option.map_eq_some_iff, Prod.exists, Prod.mk.injEq,
          List.cons.injEq, List.cons_append, List.mem_cons, not_or]
        constructor
        · rintro ⟨b, a, found, ⟨rfl, rfl⟩, rfl⟩
          obtain ⟨rfl, absent⟩ := (ih b).1 found
          exact ⟨⟨rfl, rfl⟩, fun h => same h.symm, absent⟩
        · rintro ⟨⟨rfl, shape⟩, -, absent⟩
          exact ⟨before, after, (ih before).2 ⟨shape, absent⟩, ⟨rfl, rfl⟩, rfl⟩

end RowGate.Text
