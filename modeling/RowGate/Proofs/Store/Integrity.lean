import RowGate.Proofs.Store.History

set_option autoImplicit false

namespace RowGate

namespace Schema

theorem mem_uniqueColumns (schema : Schema) (column : String) :
    column ∈ schema.uniqueColumns ↔
      column = schema.primaryKey ∨
        ∃ declared ∈ schema.columns, declared.unique = true ∧ declared.name = column := by
  simp [uniqueColumns, and_assoc]

/-- What a schema asks of the rows of its table. -/
structure Governs (schema : Schema) (rows : List Row) : Prop where
  distinct : ∀ column ∈ schema.uniqueColumns,
    rows.Pairwise fun left right => sameValue (left.value column) (right.value column) = false
  admitted : ∀ row ∈ rows, ∀ key ∈ row.keys, schema.Admits key

theorem governs_nil (schema : Schema) : schema.Governs [] where
  distinct := by simp
  admitted := by simp

theorem Governs.sublist {schema : Schema} {rows kept : List Row} (governs : schema.Governs rows)
    (sublist : kept.Sublist rows) : schema.Governs kept where
  distinct column unique := (governs.distinct column unique).sublist sublist
  admitted row member := governs.admitted row (sublist.subset member)

theorem Governs.place {schema : Schema} {front rest : List Row} (governs : schema.Governs (front ++ rest))
    (store : Store) (row : Row) (accepted : store.Accepts schema (front ++ rest) row) :
    schema.Governs (front ++ row :: rest) := by
  constructor
  next =>
    intro column unique
    -- The row may stand anywhere, for what it is compared by is symmetric.
    refine (List.pairwise_middle ?_).mpr (List.pairwise_cons.mpr ⟨?_, governs.distinct column unique⟩)
    next =>
      intro left right differs
      rw [sameValue_comm, differs]
    next =>
      intro other member
      rw [sameValue_comm, accepted.distinct column unique other member]
  next =>
    intro placed member
    rcases List.mem_append.mp member with member | member
    next => exact governs.admitted placed (List.mem_append_left rest member)
    next =>
      rcases List.mem_cons.mp member with rfl | member
      next => exact accepted.admitted
      next => exact governs.admitted placed (List.mem_append_right front member)

theorem Governs.differ {schema : Schema} {rows : List Row} (governs : schema.Governs rows)
    (column : String) (unique : column ∈ schema.uniqueColumns) (i j : Nat) (left right : Row)
    (apart : i ≠ j) (here : rows[i]? = some left) (there : rows[j]? = some right) :
    sameValue (left.value column) (right.value column) = false := by
  have distinct := List.pairwise_iff_getElem.mp (governs.distinct column unique)
  obtain ⟨i_bound, rfl⟩ := List.getElem?_eq_some_iff.mp here
  obtain ⟨j_bound, rfl⟩ := List.getElem?_eq_some_iff.mp there
  rcases Nat.lt_or_gt_of_ne apart with before | before
  next => exact distinct i j i_bound j_bound before
  next => rw [sameValue_comm]; exact distinct j i j_bound i_bound before

end Schema

namespace Store

def Governed (store : Store) : Prop :=
  ∀ name table, store.tables.get? name = some table → table.schema.Governs table.rows

theorem Governed.writes {before after : Store} (governed : before.Governed) (name : String)
    (table : Table) (rows : List Row) (writes : before.Writes name table rows after)
    (governs : table.schema.Governs rows) : after.Governed := by
  intro other found there
  by_cases same : other = name
  next =>
    subst same
    rw [writes.written, Option.some.injEq] at there
    subst there
    exact governs
  next => exact governed other found (writes.kept other same ▸ there)

theorem Governed.step (before after : Store) (step : before.Step after)
    (governed : before.Governed) : after.Governed := by
  cases step with
  | unchanged same =>
    intro name table found
    exact governed name table (same ▸ found)
  | defined schema fresh written kept =>
    intro name table found
    by_cases same : name = schema.name
    next =>
      subst same
      rw [written, Option.some.injEq] at found
      subst found
      exact schema.governs_nil
    next => exact governed name table (kept name same ▸ found)
  | inserted name table row accepted writes =>
    have governs := governed name table writes.found
    refine governed.writes name table _ writes (Schema.Governs.place ?_ before row ?_)
    next => rwa [List.append_nil]
    next => rwa [List.append_nil]
  | updated name id table front rest old row first accepted writes =>
    have governs := governed name table writes.found
    rw [first.rows_eq] at governs
    have others := governs.sublist ((List.sublist_cons_self old rest).append_left front)
    exact governed.writes name table _ writes (others.place before row accepted)
  | deleted name id table front rest old first writes =>
    have governs := governed name table writes.found
    rw [first.rows_eq] at governs
    exact governed.writes name table _ writes
      (governs.sublist ((List.sublist_cons_self old rest).append_left front))

theorem governed_applyAll (newKey : Nat → String) (changes : List Change) :
    ((empty newKey).applyAll changes).Governed := by
  refine holds_of_steps Governed Governed.step (applyAll_steps (empty newKey) changes) ?_
  intro name table found
  cases found

/-- Two rows of a table never agree on its key or on a unique column, whatever was done to the store,
and every key of a row is declared where columns are. -/
theorem applyAll_integrity (newKey : Nat → String) (changes : List Change) (name : String)
    (table : Table) (found : ((empty newKey).applyAll changes).tables.get? name = some table) :
    (∀ column,
      (column = table.schema.primaryKey ∨
        ∃ declared ∈ table.schema.columns, declared.unique = true ∧ declared.name = column) →
      ∀ (i j : Nat) (left right : Row), i ≠ j → table.rows[i]? = some left →
        table.rows[j]? = some right → sameValue (left.value column) (right.value column) = false) ∧
    (table.schema.columns ≠ [] → ∀ row ∈ table.rows, ∀ key ∈ row.keys,
      key = table.schema.primaryKey ∨ ∃ declared ∈ table.schema.columns, declared.name = key) := by
  have governs := governed_applyAll newKey changes name table found
  constructor
  next =>
    intro column unique
    exact governs.differ column ((table.schema.mem_uniqueColumns column).mpr unique)
  next =>
    intro columns row member key known
    simpa using governs.admitted row member key known columns

def usersSchema : Schema where
  name := "users"
  columns := [{ name := "email", unique := true }]

-- The second row of the seed and the first update fail, each on an address that is taken.
def usersHistory : List Change :=
  [.define usersSchema,
    .seed "users"
      [.object [("email", .string "a@x"), ("id", .string "1")],
        .object [("email", .string "a@x"), ("id", .string "3")]],
    .insert "users" [("email", .string "b@x"), ("id", .string "2")],
    .update "users" "2" [("email", .string "a@x")],
    .update "users" "2" [("email", .string "c@x")]]

def usersTable : Table where
  schema := usersSchema
  rows :=
    [[("email", .string "a@x"), ("id", .string "1")],
      [("email", .string "c@x"), ("id", .string "2")]]

theorem applyAll_integrity_users :
    ((empty keyText).applyAll usersHistory).tables.get? "users" = some usersTable ∧
      sameValue (usersTable.rows[0].value "email") (usersTable.rows[1].value "email") = false ∧
      ∀ row ∈ usersTable.rows, ∀ key ∈ row.keys, key = "id" ∨ key = "email" := by
  have found : ((empty keyText).applyAll usersHistory).tables.get? "users" = some usersTable := rfl
  obtain ⟨distinct, declared⟩ := applyAll_integrity keyText usersHistory "users" usersTable found
  refine ⟨found, ?_, ?_⟩
  next =>
    exact distinct "email" (.inr ⟨_, List.mem_cons_self, rfl, rfl⟩) 0 1 _ _ (by decide) rfl rfl
  next =>
    intro row member key known
    simpa [usersTable, usersSchema, eq_comm] using declared (by decide) row member key known

end Store

end RowGate
