import RowGate.Proofs.Outcome
import RowGate.Proofs.Store.Values
import RowGate.Store.Basic

set_option autoImplicit false

namespace RowGate

namespace Schema

def Admits (schema : Schema) (column : String) : Prop :=
  schema.columns ≠ [] → column = schema.primaryKey ∨ column ∈ schema.columns.map (·.name)

theorem checkKnown_declared (schema : Schema) (column : String) :
    checkKnown schema.declared column = .ok () ↔ schema.Admits column := by
  by_cases none : schema.columns = []
  next => simp [checkKnown, declared, Admits, none]
  next =>
    have some : schema.declared = some (schema.primaryKey :: schema.columns.map (·.name)) := by
      simp [declared, none]
    simp [checkKnown, some, Admits, none, Decidable.or_iff_not_imp_left]

end Schema

namespace Table

theorem checkColumns_eq_ok_iff (table : Table) (row : Row) :
    table.checkColumns row = .ok () ↔ ∀ key ∈ row.keys, table.schema.Admits key := by
  simp only [checkColumns, forM_eq_ok_iff, Schema.checkKnown_declared]

theorem checkUnique_eq_ok_iff (others : List Row) (row : Row) (column : String) :
    checkUnique others row column = .ok () ↔
      ∀ other ∈ others, sameValue (other.value column) (row.value column) = false := by
  cases found : row.get? column with
  | none => simp [checkUnique, Row.value, found]
  | some value => simp [checkUnique, Row.value, found]

-- The first row that matches an id, with the rows in front of it and those behind.
structure FirstMatch (table : Table) (id : String) (front : List Row) (row : Row)
    (rest : List Row) : Prop where
  rows_eq : table.rows = front ++ row :: rest
  matched : table.keyMatches id row = true
  first : ∀ earlier ∈ front, table.keyMatches id earlier = false

theorem firstMatch_of_position? (table : Table) (id : String) (index : Nat)
    (found : table.position? id = some index) :
    ∃ front row rest, table.FirstMatch id front row rest ∧ index = front.length := by
  obtain ⟨bound, matched, first⟩ := List.findIdx?_eq_some_iff_getElem.mp found
  refine ⟨table.rows.take index, table.rows[index], table.rows.drop (index + 1),
    ⟨?_, matched, ?_⟩, ?_⟩
  next => rw [← List.drop_eq_getElem_cons bound, List.take_append_drop]
  next =>
    intro earlier member
    obtain ⟨place, before, rfl⟩ := List.mem_take_iff_getElem.mp member
    simpa using first place (by omega)
  next => simp only [List.length_take]; omega

theorem FirstMatch.eraseIdx_rows {table : Table} {id : String} {front rest : List Row} {row : Row}
    (first : table.FirstMatch id front row rest) :
    table.rows.eraseIdx front.length = front ++ rest := by
  rw [first.rows_eq, List.eraseIdx_append_of_length_le (Nat.le_refl _), Nat.sub_self,
    List.eraseIdx_cons_zero]

theorem FirstMatch.set_rows {table : Table} {id : String} {front rest : List Row} {row : Row}
    (first : table.FirstMatch id front row rest) (placed : Row) :
    table.rows.set front.length placed = front ++ placed :: rest := by
  simp [first.rows_eq]

end Table

namespace Store

theorem checkBelonging_eq_ok_iff (store : Store) (name : String) (row : Row) (relation : Relation) :
    store.checkBelonging name row relation = .ok () ↔
      ∀ parent, store.tables.get? relation.table = some parent →
        (row.value relation.localKey).isNull = false →
          ∃ other ∈ parent.rows,
            sameValue (other.value relation.foreignKey) (row.value relation.localKey) = true := by
  cases key : row.get? relation.localKey with
  | none => simp [checkBelonging, Row.value, key, Json.isNull]
  | some value =>
    cases table : store.tables.get? relation.table with
    | none => simp [checkBelonging, key, table]
    | some parent =>
      cases null : value.isNull <;> simp [checkBelonging, Row.value, key, table, null]

structure Accepts (store : Store) (schema : Schema) (others : List Row) (row : Row) : Prop where
  admitted : ∀ key ∈ row.keys, schema.Admits key
  distinct : ∀ column ∈ schema.uniqueColumns, ∀ other ∈ others,
    sameValue (other.value column) (row.value column) = false
  belongs : ∀ relation ∈ schema.relations, relation.many = false →
    ∀ parent, store.tables.get? relation.table = some parent →
      (row.value relation.localKey).isNull = false →
        ∃ other ∈ parent.rows,
          sameValue (other.value relation.foreignKey) (row.value relation.localKey) = true

theorem checkRow_eq_ok_iff (store : Store) (name : String) (table : Table) (row : Row)
    (replaced : Option Nat) :
    store.checkRow name table row replaced = .ok () ↔
      store.Accepts table.schema (table.otherRows replaced) row := by
  have belonging : (table.schema.relations.filter (!·.many)).forM (store.checkBelonging name row) =
      .ok () ↔ ∀ relation ∈ table.schema.relations, relation.many = false →
        store.checkBelonging name row relation = .ok () := by
    rw [forM_eq_ok_iff]
    simp only [List.mem_filter, Bool.not_eq_true', and_imp]
  simp only [checkBelonging_eq_ok_iff] at belonging
  rw [checkRow, check_bind_eq_ok_iff, check_bind_eq_ok_iff, Table.checkColumns_eq_ok_iff,
    forM_eq_ok_iff, belonging]
  simp only [Table.checkUnique_eq_ok_iff]
  constructor
  next =>
    rintro ⟨admitted, distinct, belongs⟩
    exact ⟨admitted, distinct, belongs⟩
  next =>
    rintro ⟨admitted, distinct, belongs⟩
    exact ⟨admitted, distinct, belongs⟩

/-- One table has other rows after, and nothing else is different. -/
structure Writes (before : Store) (name : String) (table : Table) (rows : List Row)
    (after : Store) : Prop where
  found : before.tables.get? name = some table
  written : after.tables.get? name = some { table with rows }
  kept : ∀ other, other ≠ name → after.tables.get? other = before.tables.get? other

theorem setRows_writes (store : Store) (name : String) (table : Table) (rows : List Row)
    (found : store.tables.get? name = some table) :
    store.Writes name table rows (store.setRows name table rows) := by
  constructor
  next => exact found
  next => simp [setRows]
  next =>
    intro other differs
    simp [setRows, differs.symm]

theorem lookup_eq_ok_iff (store : Store) (name : String) (table : Table) :
    store.lookup name = .ok table ↔ store.tables.get? name = some table := by
  cases found : store.tables.get? name <;> simp [lookup, found]

@[simp] theorem tables_withKey (store : Store) (table : Table) (row : Row) :
    (store.withKey table row).2.tables = store.tables := by
  by_cases missing : (row.value table.schema.primaryKey).isNull = true <;> simp [withKey, missing]

theorem insert_cases (store after : Store) (name : String) (values row : Row)
    (inserted : store.insert name values = .ok (row, after)) :
    ∃ table, row = (store.withKey table values).1 ∧
      store.Accepts table.schema table.rows row ∧
      store.Writes name table (table.rows ++ [row]) after := by
  obtain ⟨table, found, inserted⟩ := (bind_eq_ok_iff _ _ _).mp inserted
  rw [lookup_eq_ok_iff] at found
  have same := tables_withKey store table values
  cases filled : store.withKey table values with
  | mk full keyed =>
    simp only [filled] at inserted same
    obtain ⟨passed, inserted⟩ := (check_bind_eq_ok_iff _ _ _).mp inserted
    rw [checkRow_eq_ok_iff] at passed
    simp only [Except.ok.injEq, Prod.mk.injEq] at inserted
    obtain ⟨rfl, rfl⟩ := inserted
    rw [← same] at found
    have writes := setRows_writes keyed name table (table.rows ++ [full]) found
    exact ⟨table, by rw [filled], passed, same ▸ found, writes.written, same ▸ writes.kept⟩

theorem insert_of_accepts (store : Store) (name : String) (table : Table) (row : Row)
    (found : store.tables.get? name = some table)
    (keyed : (row.value table.schema.primaryKey).isNull = false)
    (accepted : store.Accepts table.schema table.rows row) :
    store.insert name row = .ok (row, store.setRows name table (table.rows ++ [row])) := by
  have same : store.withKey table row = (row, store) := by simp [withKey, keyed]
  have passed := (checkRow_eq_ok_iff store name table row none).mpr accepted
  have looked := (lookup_eq_ok_iff store name table).mpr found
  rw [insert, looked]
  simp only [bind, Except.bind, same, passed]

theorem update_cases (store after : Store) (name id : String) (values : Row) (row? : Option Row)
    (updated : store.update name id values = .ok (row?, after)) :
    (row? = none ∧ after = store) ∨
      ∃ table front old rest row, row? = some row ∧ table.FirstMatch id front old rest ∧
        row = overwrite old values ∧ store.Accepts table.schema (front ++ rest) row ∧
        store.Writes name table (front ++ row :: rest) after := by
  obtain ⟨table, found, updated⟩ := (bind_eq_ok_iff _ _ _).mp updated
  rw [lookup_eq_ok_iff] at found
  cases position : table.position? id with
  | none =>
    simp only [position, Except.ok.injEq, Prod.mk.injEq] at updated
    exact .inl ⟨updated.1.symm, updated.2.symm⟩
  | some index =>
    obtain ⟨front, old, rest, first, rfl⟩ := table.firstMatch_of_position? id index position
    simp only [position] at updated
    obtain ⟨passed, updated⟩ := (check_bind_eq_ok_iff _ _ _).mp updated
    rw [checkRow_eq_ok_iff] at passed
    simp only [Except.ok.injEq, Prod.mk.injEq] at updated
    obtain ⟨rfl, rfl⟩ := updated
    have here : table.rows.getD front.length [] = old := by simp [first.rows_eq]
    rw [here, Table.otherRows, first.eraseIdx_rows] at passed
    rw [here, first.set_rows]
    exact .inr ⟨table, front, old, rest, overwrite old values, rfl, first, rfl, passed,
      setRows_writes store name table _ found⟩

theorem delete_cases (store after : Store) (name id : String) (done : Bool)
    (deleted : store.delete name id = .ok (done, after)) :
    (done = false ∧ after = store) ∨
      ∃ table front old rest, done = true ∧ table.FirstMatch id front old rest ∧
        store.Writes name table (front ++ rest) after := by
  obtain ⟨table, found, deleted⟩ := (bind_eq_ok_iff _ _ _).mp deleted
  rw [lookup_eq_ok_iff] at found
  cases position : table.position? id with
  | none =>
    simp only [position, Except.ok.injEq, Prod.mk.injEq] at deleted
    exact .inl ⟨deleted.1.symm, deleted.2.symm⟩
  | some index =>
    obtain ⟨front, old, rest, first, rfl⟩ := table.firstMatch_of_position? id index position
    simp only [position, Except.ok.injEq, Prod.mk.injEq] at deleted
    obtain ⟨rfl, rfl⟩ := deleted
    rw [first.eraseIdx_rows]
    exact .inr ⟨table, front, old, rest, rfl, first, setRows_writes store name table _ found⟩

end Store

end RowGate
