import RowGate.Proofs.Json.Objects
import RowGate.Service.Basic

set_option autoImplicit false

namespace RowGate

namespace Resource

-- The columns that a body may write; an empty list allows all.
def Assigns (resource : Resource) (column : String) : Prop :=
  resource.fillable = [] ∨ column ∈ resource.fillable

instance (resource : Resource) (column : String) : Decidable (resource.Assigns column) :=
  inferInstanceAs (Decidable (_ ∨ _))

def changes (resource : Resource) (fields : Row) : Row :=
  (resource.fill fields).erase resource.primaryKey

-- The fields of a row that a body makes: those that the body may write, and a key that is generated
-- where they have none.
def Makes (resource : Resource) (schema : Schema) (fields row : Row) (generated : String) : Prop :=
  ∀ column, row.get? column =
    if column = schema.primaryKey ∧
        ¬(resource.Assigns column ∧ (fields.value column).isNull = false) then
      some (.string generated)
    else if resource.Assigns column then fields.get? column
    else none

-- The fields of a row after an update: those of the body that it may write, and else the old ones.
def Remakes (resource : Resource) (fields old row : Row) : Prop :=
  ∀ column, row.get? column =
    if resource.Assigns column ∧ column ≠ resource.primaryKey then
      (fields.get? column).or (old.get? column)
    else old.get? column

section

variable (resource : Resource) (fields : Row)

theorem get?_fill (column : String) :
    (resource.fill fields).get? column =
      if resource.Assigns column then fields.get? column else none := by
  unfold fill
  cases listed : resource.fillable with
  | nil => simp [Assigns, listed]
  | cons first rest =>
    have filtered := Keyed.get?_filter fields (resource.fillable.contains ·) column
    simpa [Assigns, listed] using filtered

theorem sorted_fill (sorted : Keyed.Sorted fields) : Keyed.Sorted (resource.fill fields) := by
  unfold fill
  split
  next => exact sorted
  next => exact sorted.filter _

theorem sorted_changes (sorted : Keyed.Sorted fields) : Keyed.Sorted (resource.changes fields) :=
  (resource.sorted_fill fields sorted).filter _

theorem get?_changes (column : String) :
    (resource.changes fields).get? column =
      if resource.Assigns column ∧ column ≠ resource.primaryKey then fields.get? column else none := by
  simp only [changes, Keyed.get?_erase, get?_fill]
  by_cases key : resource.primaryKey = column
  next => simp [key]
  next =>
    have other : column ≠ resource.primaryKey := fun equal => key equal.symm
    simp [key, other]

theorem remakes_overwrite (old : Row) (sorted : Keyed.Sorted fields) :
    resource.Remakes fields old (Store.overwrite old (resource.changes fields)) := by
  intro column
  have distinct := (resource.sorted_changes fields sorted).nodup
  rw [Store.overwrite, Keyed.get?_foldl_insert old _ distinct, get?_changes]
  split <;> simp

theorem get?_withKey (store : Store) (table : Table) (row : Row) (column : String) :
    (store.withKey table row).1.get? column =
      if column = table.schema.primaryKey ∧ (row.value table.schema.primaryKey).isNull = true then
        some (.string (store.newKey store.issued))
      else row.get? column := by
  rw [Store.withKey]
  split
  next null => simp [null, eq_comm]
  next given => simp [given]

theorem makes_withKey (store : Store) (table : Table) :
    resource.Makes table.schema fields (store.withKey table (resource.fill fields)).1
      (store.newKey store.issued) := by
  intro column
  have filled (column : String) : (resource.fill fields).get? column =
      if resource.Assigns column then fields.get? column else none := get?_fill resource fields column
  rw [get?_withKey, filled]
  by_cases key : column = table.schema.primaryKey
  next =>
    subst key
    by_cases assigned : resource.Assigns table.schema.primaryKey
    next => simp [Row.value, filled, assigned]
    next => simp [Row.value, filled, assigned, Json.isNull]
  next => simp [key]

end

end Resource

theorem Service.readBytes?_of_bodyRow (service : Service) (body : List UInt8) (fields : Row)
    (read : service.bodyRow body = .ok fields) : Json.readBytes? body = some (.object fields) := by
  rw [bodyRow] at read
  split at read
  next => cases read
  next =>
    split at read
    next found =>
      cases read
      exact found
    next => cases read
    next => cases read

end RowGate
