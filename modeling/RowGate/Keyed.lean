set_option autoImplicit false

namespace RowGate

abbrev Keyed (Value : Type) := List (String × Value)

namespace Keyed

variable {Value : Type}

def get? (entries : Keyed Value) (key : String) : Option Value :=
  match entries with
  | [] => none
  | (k, value) :: rest => if k = key then some value else get? rest key

def insert (entries : Keyed Value) (key : String) (value : Value) : Keyed Value :=
  match entries with
  | [] => [(key, value)]
  | (k, old) :: rest =>
    if key = k then (key, value) :: rest
    else if key < k then (key, value) :: (k, old) :: rest
    else (k, old) :: insert rest key value

def erase (entries : Keyed Value) (key : String) : Keyed Value :=
  entries.filter fun entry => entry.1 ≠ key

def has (entries : Keyed Value) (key : String) : Bool :=
  (get? entries key).isSome

def keys (entries : Keyed Value) : List String :=
  entries.map (·.1)

def ofEntries (entries : List (String × Value)) : Keyed Value :=
  entries.foldl (fun built entry => built.insert entry.1 entry.2) []

@[simp] theorem get?_insert (entries : Keyed Value) (key other : String) (value : Value) :
    (entries.insert key value).get? other = if key = other then some value else entries.get? other := by
  induction entries with
  | nil => simp [insert, get?]
  | cons entry rest ih =>
    obtain ⟨k, old⟩ := entry
    by_cases same : key = k
    · subst same
      by_cases found : key = other <;> simp [insert, get?, found]
    · by_cases before : key < k
      · rw [insert, if_neg same, if_pos before]
        by_cases found : key = other <;> simp [get?, found]
      · rw [insert, if_neg same, if_neg before]
        by_cases found : k = other
        · subst found
          simp [get?, same]
        · simp [get?, found, ih]

@[simp] theorem get?_erase (entries : Keyed Value) (key other : String) :
    (entries.erase key).get? other = if key = other then none else entries.get? other := by
  induction entries with
  | nil => simp [erase, get?]
  | cons entry rest ih =>
    obtain ⟨k, value⟩ := entry
    by_cases gone : k = key
    · have skip : erase ((k, value) :: rest) key = erase rest key := by simp [erase, gone]
      rw [skip, ih]
      by_cases same : key = other <;> simp [get?, gone, same]
    · have keep : erase ((k, value) :: rest) key = (k, value) :: erase rest key := by
        simp [erase, gone]
      rw [keep]
      by_cases same : k = other
      · have differs : key ≠ other := fun h => gone (same.trans h.symm)
        simp [get?, same, differs]
      · simp [get?, same, ih]

theorem mem_keys_of_get? (entries : Keyed Value) (key : String) (value : Value)
    (h : entries.get? key = some value) : (key, value) ∈ entries := by
  induction entries with
  | nil => simp [get?] at h
  | cons entry rest ih =>
    obtain ⟨k, old⟩ := entry
    simp only [get?] at h
    split at h
    · next same =>
      subst same
      simp_all
    · exact List.mem_cons_of_mem _ (ih h)

end Keyed

end RowGate
