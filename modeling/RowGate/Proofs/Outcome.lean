import RowGate.Error

set_option autoImplicit false

namespace RowGate

variable {ε α β γ δ : Type}

theorem bind_eq_ok_iff (first : Except ε α) (next : α → Except ε β) (result : β) :
    first >>= next = .ok result ↔ ∃ value, first = .ok value ∧ next value = .ok result := by
  cases first <;> simp [bind, Except.bind]

theorem check_bind_eq_ok_iff (check : Except ε Unit) (next : Unit → Except ε β) (result : β) :
    check >>= next = .ok result ↔ check = .ok () ∧ next () = .ok result := by
  cases check <;> simp [bind, Except.bind]

theorem bind_eq_error_iff (first : Except ε α) (next : α → Except ε β) (fault : ε) :
    first >>= next = .error fault ↔
      first = .error fault ∨ ∃ value, first = .ok value ∧ next value = .error fault := by
  cases first <;> simp [bind, Except.bind]

theorem fault_of_foldlM (blames : ε → Prop) (step : β → α → Except ε β)
    (steps : ∀ value item fault, step value item = .error fault → blames fault) (start : β)
    (items : List α) (fault : ε) (failed : items.foldlM step start = .error fault) : blames fault := by
  induction items generalizing start with
  | nil => cases failed
  | cons item rest ih =>
    rw [List.foldlM_cons, bind_eq_error_iff] at failed
    rcases failed with here | ⟨next, _, later⟩
    next => exact steps start item fault here
    next => exact ih next later

theorem forM_eq_ok_iff (check : α → Except ε Unit) (items : List α) :
    items.forM check = .ok () ↔ ∀ item ∈ items, check item = .ok () := by
  induction items with
  | nil => simp [pure, Except.pure]
  | cons item rest ih =>
    rw [List.forM_eq_forM] at ih
    rw [List.forM_eq_forM, List.forM_cons, check_bind_eq_ok_iff, ih, List.forall_mem_cons]

theorem Error.status_cases (error : Error) :
    error.status = 500 ∧ error.errorClass = .internal ∨
      (400 ≤ error.status ∧ error.status < 500) ∧ error.errorClass ≠ .internal := by
  cases error <;> simp [status, errorClass, ErrorClass.status]

def IsInternal (outcome : Except Error α) : Prop :=
  ∃ fault, outcome = .error fault ∧ fault.errorClass = .internal

@[simp] theorem not_isInternal_ok (value : α) : ¬IsInternal (.ok value) := by
  rintro ⟨fault, failed, -⟩
  cases failed

@[simp] theorem isInternal_error_iff (fault : Error) :
    IsInternal (.error fault : Except Error α) ↔ fault.errorClass = .internal := by
  simp [IsInternal]

theorem isInternal_bind_iff (first : Except Error α) (next : α → Except Error β) :
    IsInternal (first >>= next) ↔
      IsInternal first ∨ ∃ value, first = .ok value ∧ IsInternal (next value) := by
  cases first with
  | error fault => simp [bind, Except.bind]
  | ok value => simp [bind, Except.bind]

theorem isInternal_check_bind_iff (check : Except Error Unit) (next : Unit → Except Error β)
    (harmless : ¬IsInternal check) :
    IsInternal (check >>= next) ↔ check = .ok () ∧ IsInternal (next ()) := by
  cases check with
  | error fault => simpa [bind, Except.bind] using harmless
  | ok done => simp [bind, Except.bind]

theorem not_isInternal_bind (first : Except Error α) (next : α → Except Error β)
    (before : ¬IsInternal first) (after : ∀ value, first = .ok value → ¬IsInternal (next value)) :
    ¬IsInternal (first >>= next) := by
  rw [isInternal_bind_iff, not_or]
  exact ⟨before, fun ⟨value, reached, broken⟩ => after value reached broken⟩

theorem not_isInternal_map (first : Except Error α) (change : α → β) (before : ¬IsInternal first) :
    ¬IsInternal (first.map change) := by
  cases first with
  | error fault => simpa [Except.map] using before
  | ok value => simp [Except.map]

theorem not_isInternal_forM (check : α → Except Error Unit) (items : List α)
    (harmless : ∀ item, ¬IsInternal (check item)) : ¬IsInternal (items.forM check) := by
  induction items with
  | nil => exact not_isInternal_ok ()
  | cons item rest ih =>
    rw [List.forM_eq_forM] at ih ⊢
    rw [List.forM_cons]
    exact not_isInternal_bind _ _ (harmless item) fun _ _ => ih

theorem not_isInternal_foldlM (step : β → α → Except Error β) (start : β) (items : List α)
    (harmless : ∀ value item, ¬IsInternal (step value item)) :
    ¬IsInternal (items.foldlM step start) := by
  induction items generalizing start with
  | nil => exact not_isInternal_ok start
  | cons item rest ih =>
    rw [List.foldlM_cons]
    exact not_isInternal_bind _ _ (harmless start item) fun value _ => ih value

inductive InStep (related : α → β → Prop) : Except ε α → Except ε β → Prop
  | failed (fault : ε) : InStep related (.error fault) (.error fault)
  | succeeded (left : α) (right : β) (same : related left right) :
      InStep related (.ok left) (.ok right)

namespace InStep

variable {related : α → β → Prop} {others : γ → δ → Prop}
  {first : Except ε α} {second : Except ε β}

theorem error_iff (runs : InStep related first second) (fault : ε) :
    first = .error fault ↔ second = .error fault := by
  cases runs <;> simp

theorem bind (runs : InStep related first second) (left : α → Except ε γ) (right : β → Except ε δ)
    (later : ∀ one other, related one other → InStep others (left one) (right other)) :
    InStep others (first >>= left) (second >>= right) := by
  cases runs with
  | failed fault => exact .failed fault
  | succeeded one other same => exact later one other same

theorem check_bind (check : Except ε Unit) (left : Unit → Except ε γ) (right : Unit → Except ε δ)
    (later : InStep others (left ()) (right ())) :
    InStep others (check >>= left) (check >>= right) := by
  cases check with
  | error fault => exact .failed fault
  | ok done => exact later

theorem foldlM {τ : Type} (left : α → τ → Except ε α) (right : β → τ → Except ε β)
    (items : List τ)
    (steps : ∀ one other item, related one other → InStep related (left one item) (right other item))
    (one : α) (other : β) (same : related one other) :
    InStep related (items.foldlM left one) (items.foldlM right other) := by
  induction items generalizing one other with
  | nil => exact .succeeded one other same
  | cons item rest ih =>
    rw [List.foldlM_cons, List.foldlM_cons]
    exact (steps one other item same).bind _ _ ih

end InStep

end RowGate
