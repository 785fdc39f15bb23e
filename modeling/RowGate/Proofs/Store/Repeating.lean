import RowGate.Proofs.Keyed
import RowGate.Proofs.Store.References

set_option autoImplicit false

namespace RowGate

namespace Table

variable {table : Table} {id : String} {front front' rest rest' : List Row} {row row' : Row}

theorem FirstMatch.position?_eq (first : table.FirstMatch id front row rest) :
    table.position? id = some front.length := by
  have missed : front.findIdx? (table.keyMatches id) = none := List.findIdx?_eq_none_iff.mpr first.first
  rw [position?, first.rows_eq, List.findIdx?_append, missed]
  simp [List.findIdx?_cons, first.matched]

theorem FirstMatch.unique (one : table.FirstMatch id front row rest)
    (other : table.FirstMatch id front' row' rest') : front = front' ∧ row = row' ∧ rest = rest' := by
  have length : front.length = front'.length :=
    Option.some.inj (one.position?_eq.symm.trans other.position?_eq)
  have parts := List.append_inj (one.rows_eq.symm.trans other.rows_eq) length
  simpa using parts

end Table

namespace Store

theorem overwrite_overwrite (old values : Row) (distinct : values.keys.Nodup) :
    overwrite (overwrite old values) values = overwrite old values :=
  Keyed.foldl_insert_again old values distinct

theorem update_of_accepts (store : Store) (name id : String) (values : Row) (table : Table)
    (front rest : List Row) (old : Row) (found : store.tables.get? name = some table)
    (first : table.FirstMatch id front old rest)
    (accepted : store.Accepts table.schema (front ++ rest) (overwrite old values)) :
    store.update name id values =
      .ok (some (overwrite old values),
        store.setRows name table (front ++ overwrite old values :: rest)) := by
  have here : table.rows.getD front.length [] = old := by simp [first.rows_eq]
  have passed := (checkRow_eq_ok_iff store name table (overwrite old values) (some front.length)).mpr
    (by rwa [Table.otherRows, first.eraseIdx_rows])
  rw [update, (lookup_eq_ok_iff store name table).mpr found]
  simp only [bind, Except.bind, first.position?_eq, here, passed, first.set_rows]

-- A row of the table is found under the id, and the rows that it belongs to in its own table are
-- there.
structure Settled (store : Store) (name : String) (table : Table) (id : String) (row : Row) : Prop where
  found : table.keyMatches id row = true
  belongs : ∀ relation ∈ table.schema.relations, relation.many = false → relation.table = name →
    (row.value relation.localKey).isNull = false →
      store.Offers relation (row.value relation.localKey)

theorem Accepts.again {before after : Store} {name : String} {table : Table}
    {rows others : List Row} {row : Row} (accepted : before.Accepts table.schema others row)
    (writes : before.Writes name table rows after)
    (belongs : ∀ relation ∈ table.schema.relations, relation.many = false → relation.table = name →
      (row.value relation.localKey).isNull = false →
        after.Offers relation (row.value relation.localKey)) :
    after.Accepts table.schema others row where
  admitted := accepted.admitted
  distinct := accepted.distinct
  belongs relation declared single parent found present := by
    by_cases same : relation.table = name
    next =>
      obtain ⟨offering, there, offered⟩ := belongs relation declared single same present
      cases there.symm.trans found
      exact offered
    next =>
      rw [writes.kept relation.table same] at found
      exact accepted.belongs relation declared single parent found present

section

variable {before after : Store} {name id : String} {values : Row} {table : Table}
  {front rest : List Row} {old : Row} (distinct : values.keys.Nodup)
  (first : table.FirstMatch id front old rest)

include distinct

theorem get?_overwrite (column : String) :
    (overwrite old values).get? column = (values.get? column).or (old.get? column) :=
  Keyed.get?_foldl_insert old values distinct column

-- Where the values name the key, both rows have it from them.
theorem keyMatches_overwrite (stored : Row) (matched : table.keyMatches id old = true)
    (found : table.keyMatches id stored = true) (settled : overwrite stored values = stored) :
    table.keyMatches id (overwrite old values) = true := by
  have placed : (overwrite stored values).get? table.schema.primaryKey =
      (values.get? table.schema.primaryKey).or (stored.get? table.schema.primaryKey) :=
    get?_overwrite distinct _
  rw [settled] at placed
  unfold Table.keyMatches at matched found ⊢
  rw [get?_overwrite distinct]
  cases given : values.get? table.schema.primaryKey with
  | none => simpa using matched
  | some value =>
    rw [placed, given] at found
    simpa using found

include first

theorem update_again
    (accepted : before.Accepts table.schema (front ++ rest) (overwrite old values))
    (writes : before.Writes name table (front ++ overwrite old values :: rest) after)
    (settled : after.Settled name table id (overwrite old values)) :
    ∃ again, after.update name id values = .ok (some (overwrite old values), again) ∧
      ∀ other, again.tables.get? other = after.tables.get? other := by
  have same := overwrite_overwrite old values distinct
  have there : Table.FirstMatch { table with rows := front ++ overwrite old values :: rest } id front
      (overwrite old values) rest := ⟨rfl, settled.found, first.first⟩
  have passed := accepted.again writes settled.belongs
  rw [← same] at passed
  have updated := after.update_of_accepts name id values _ front rest _ writes.written there passed
  rw [same] at updated
  have rewrites := after.setRows_writes name _ (front ++ overwrite old values :: rest) writes.written
  refine ⟨_, updated, fun other => ?_⟩
  by_cases here : other = name
  next =>
    subst here
    rw [rewrites.written, writes.written]
  next => exact rewrites.kept other here

theorem settled_of_again
    (writes : before.Writes name table (front ++ overwrite old values :: rest) after)
    (row : Row) (again : Store) (updated : after.update name id values = .ok (some row, again))
    (same : ∀ other, again.tables.get? other = after.tables.get? other) :
    after.Settled name table id (overwrite old values) := by
  rcases update_cases after again name id values _ updated with
    ⟨missed, _⟩ | ⟨found, front', stored, rest', written, placed, second, rfl, passed, rewrites⟩
  next => cases missed
  next =>
    cases writes.written.symm.trans rewrites.found
    have unchanged := rewrites.written.symm.trans ((same name).trans writes.written)
    simp only [Option.some.injEq, Table.mk.injEq, true_and] at unchanged
    -- The rows are the same, so the one that was found again had nothing to be written over.
    have settled : overwrite stored values = stored := by
      have rows := unchanged.trans second.rows_eq
      simpa using rows
    have matched := keyMatches_overwrite distinct stored first.matched second.matched settled
    have there : Table.FirstMatch { table with rows := front ++ overwrite old values :: rest } id front
        (overwrite old values) rest := ⟨rfl, matched, first.first⟩
    obtain ⟨-, here, -⟩ := there.unique second
    rw [settled, ← here] at passed
    refine ⟨matched, fun relation declared single self present => ?_⟩
    subst self
    exact ⟨_, writes.written, passed.belongs relation declared single _ writes.written present⟩

end

end Store

end RowGate
