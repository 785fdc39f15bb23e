import RowGate.Proofs.Store.Writes
import Mathlib.Logic.Relation

set_option autoImplicit false

namespace RowGate.Store

inductive Change where
  | define (schema : Schema)
  | seed (name : String) (rows : List Json)
  | insert (name : String) (values : Row)
  | update (name id : String) (values : Row)
  | delete (name id : String)

def apply (store : Store) : Change → Store
  | .define schema => store.define schema
  | .seed name rows => (store.seed name rows).2
  | .insert name values => (store.attempt (store.insert name values)).2
  | .update name id values => (store.attempt (store.update name id values)).2
  | .delete name id => (store.attempt (store.delete name id)).2

def applyAll (store : Store) (changes : List Change) : Store :=
  changes.foldl apply store

inductive Step (before after : Store) : Prop
  | unchanged (same : after.tables = before.tables)
  | defined (schema : Schema) (fresh : before.tables.get? schema.name = none)
      (written : after.tables.get? schema.name = some { schema })
      (kept : ∀ other, other ≠ schema.name → after.tables.get? other = before.tables.get? other)
  | inserted (name : String) (table : Table) (row : Row)
      (accepted : before.Accepts table.schema table.rows row)
      (writes : before.Writes name table (table.rows ++ [row]) after)
  | updated (name id : String) (table : Table) (front rest : List Row) (old row : Row)
      (first : table.FirstMatch id front old rest)
      (accepted : before.Accepts table.schema (front ++ rest) row)
      (writes : before.Writes name table (front ++ row :: rest) after)
  | deleted (name id : String) (table : Table) (front rest : List Row) (old : Row)
      (first : table.FirstMatch id front old rest)
      (writes : before.Writes name table (front ++ rest) after)

abbrev Steps : Store → Store → Prop :=
  Relation.ReflTransGen Step

theorem define_step (store : Store) (schema : Schema) : store.Step (store.define schema) := by
  cases found : store.tables.get? schema.name with
  | some table => exact .unchanged (by simp [define, Keyed.has, found])
  | none =>
    have added : store.define schema =
        { store with tables := store.tables.insert schema.name { schema } } := by
      simp [define, Keyed.has, found]
    refine .defined schema found (by simp [added]) ?_
    intro other differs
    simp [added, differs.symm]

theorem insert_step (store : Store) (name : String) (values : Row) :
    store.Step (store.attempt (store.insert name values)).2 := by
  cases inserted : store.insert name values with
  | error fault => exact .unchanged rfl
  | ok result =>
    obtain ⟨table, _, accepted, writes⟩ := insert_cases store result.2 name values result.1 inserted
    exact .inserted name table result.1 accepted writes

theorem update_step (store : Store) (name id : String) (values : Row) :
    store.Step (store.attempt (store.update name id values)).2 := by
  cases updated : store.update name id values with
  | error fault => exact .unchanged rfl
  | ok result =>
    rcases update_cases store result.2 name id values result.1 updated with
      ⟨_, same⟩ | ⟨table, front, old, rest, row, _, first, _, accepted, writes⟩
    next => exact .unchanged (by rw [attempt, same])
    next => exact .updated name id table front rest old row first accepted writes

theorem delete_step (store : Store) (name id : String) :
    store.Step (store.attempt (store.delete name id)).2 := by
  cases deleted : store.delete name id with
  | error fault => exact .unchanged rfl
  | ok result =>
    rcases delete_cases store result.2 name id result.1 deleted with
      ⟨_, same⟩ | ⟨table, front, old, rest, _, first, writes⟩
    next => exact .unchanged (by rw [attempt, same])
    next => exact .deleted name id table front rest old first writes

-- One insertion for each row, up to the first that fails.
theorem seed_steps (store : Store) (name : String) (rows : List Json) :
    store.Steps (store.seed name rows).2 := by
  induction rows generalizing store with
  | nil => exact .refl
  | cons first rest ih =>
    cases first with
    | object values =>
      have step := insert_step store name values
      rw [seed]
      split
      next done seeded inserted =>
        rw [inserted] at step
        exact .head step (ih seeded)
      next fault seeded inserted =>
        rw [inserted] at step
        exact .single step
    | _ => exact .refl

theorem apply_steps (store : Store) (change : Change) : store.Steps (store.apply change) := by
  cases change with
  | define schema => exact .single (define_step store schema)
  | seed name rows => exact seed_steps store name rows
  | insert name values => exact .single (insert_step store name values)
  | update name id values => exact .single (update_step store name id values)
  | delete name id => exact .single (delete_step store name id)

theorem applyAll_steps (store : Store) (changes : List Change) :
    store.Steps (store.applyAll changes) := by
  induction changes generalizing store with
  | nil => exact .refl
  | cons change rest ih => exact (apply_steps store change).trans (ih (store.apply change))

theorem holds_of_steps {before after : Store} (holds : Store → Prop)
    (kept : ∀ before after : Store, before.Step after → holds before → holds after)
    (steps : before.Steps after) (initial : holds before) : holds after := by
  induction steps with
  | refl => exact initial
  | tail _ step ih => exact kept _ _ step ih

end RowGate.Store
