import RowGate.Proofs.Store.History

set_option autoImplicit false

namespace RowGate.Store

def Offers (store : Store) (relation : Relation) (value : Json) : Prop :=
  ∃ parent, store.tables.get? relation.table = some parent ∧
    ∃ other ∈ parent.rows, sameValue (other.value relation.foreignKey) value = true

/-- A row of the table belongs to a row of a related table, which is there and does not have it. -/
structure Dangles (store : Store) (name : String) (relation : Relation) (row : Row) : Prop where
  stored : ∃ table, store.tables.get? name = some table ∧ row ∈ table.rows ∧
    relation ∈ table.schema.relations
  single : relation.many = false
  keyed : (row.value relation.localKey).isNull = false
  related : ∃ parent, store.tables.get? relation.table = some parent
  unmatched : ¬ store.Offers relation (row.value relation.localKey)

-- The changes that may take rows of a table away.
inductive Change.Rewrites (name : String) : Change → Prop
  | update (id : String) (values : Row) : Rewrites name (.update name id values)
  | delete (id : String) : Rewrites name (.delete name id)

variable {before after : Store} {written : String} {table : Table} {rows : List Row}

theorem Offers.of_tables {relation : Relation} {value : Json} (offers : before.Offers relation value)
    (same : after.tables.get? relation.table = before.tables.get? relation.table) :
    after.Offers relation value := by
  obtain ⟨parent, found, matched⟩ := offers
  exact ⟨parent, same.trans found, matched⟩

theorem Offers.of_writes {relation : Relation} {value : Json} (offers : before.Offers relation value)
    (writes : before.Writes written table rows after) (kept : table.rows ⊆ rows) :
    after.Offers relation value := by
  by_cases same : relation.table = written
  next =>
    obtain ⟨parent, found, other, member, matched⟩ := offers
    obtain rfl : table = parent := by
      rw [same, writes.found] at found
      exact Option.some.inj found
    exact ⟨{ table with rows }, same ▸ writes.written, other, kept member, matched⟩
  next => exact offers.of_tables (writes.kept relation.table same)

theorem Writes.related_before (writes : before.Writes written table rows after) (name : String)
    (related : ∃ parent, after.tables.get? name = some parent) :
    ∃ parent, before.tables.get? name = some parent := by
  by_cases same : name = written
  next => exact ⟨table, same ▸ writes.found⟩
  next => rwa [writes.kept name same] at related

theorem Dangles.of_tables {name : String} {relation : Relation} {row : Row}
    (dangles : after.Dangles name relation row) (same : after.tables = before.tables) :
    before.Dangles name relation row where
  stored := same ▸ dangles.stored
  single := dangles.single
  keyed := dangles.keyed
  related := same ▸ dangles.related
  unmatched offers := dangles.unmatched (offers.of_tables (by rw [same]))

-- The row that is written has passed the check, so before the write its counterpart was there.
theorem Dangles.before_writes {name : String} {relation : Relation} {row : Row}
    (dangles : after.Dangles name relation row) (writes : before.Writes written table rows after)
    (checked : ∀ row ∈ rows, row ∈ table.rows ∨ ∃ others, before.Accepts table.schema others row) :
    before.Dangles name relation row ∨ before.Offers relation (row.value relation.localKey) := by
  by_cases offers : before.Offers relation (row.value relation.localKey)
  next => exact .inr offers
  next =>
    have related := writes.related_before relation.table dangles.related
    refine .inl ⟨?_, dangles.single, dangles.keyed, related, offers⟩
    obtain ⟨found, there, member, declared⟩ := dangles.stored
    by_cases same : name = written
    next =>
      obtain rfl : found = { table with rows } := by
        rw [same, writes.written] at there
        exact (Option.some.inj there).symm
      rcases checked row member with old | ⟨others, accepted⟩
      next => exact ⟨table, same ▸ writes.found, old, declared⟩
      next =>
        obtain ⟨parent, here⟩ := related
        exact absurd ⟨parent, here, accepted.belongs relation declared dangles.single parent here
          dangles.keyed⟩ offers
    next => exact ⟨found, writes.kept name same ▸ there, member, declared⟩

theorem insert_dangles {name : String} {relation : Relation} {row : Row} (store : Store)
    (target : String) (values : Row)
    (dangles : (store.attempt (store.insert target values)).2.Dangles name relation row) :
    store.Dangles name relation row := by
  cases inserted : store.insert target values with
  | error fault =>
    rw [inserted] at dangles
    exact dangles.of_tables rfl
  | ok result =>
    rw [inserted] at dangles
    obtain ⟨table, _, accepted, writes⟩ := insert_cases store result.2 target values result.1 inserted
    have checked : ∀ row ∈ table.rows ++ [result.1],
        row ∈ table.rows ∨ ∃ others, store.Accepts table.schema others row := by
      intro row member
      rcases List.mem_append.mp member with old | new
      next => exact .inl old
      next => exact .inr ⟨table.rows, List.mem_singleton.mp new ▸ accepted⟩
    rcases dangles.before_writes writes checked with earlier | offers
    next => exact earlier
    next => exact absurd (offers.of_writes writes (List.subset_append_left _ _)) dangles.unmatched

-- The induction is on the rows, each of them an insertion.
theorem seed_dangles {name : String} {relation : Relation} {row : Row} (store : Store)
    (target : String) (seeds : List Json)
    (dangles : (store.seed target seeds).2.Dangles name relation row) :
    store.Dangles name relation row := by
  induction seeds generalizing store with
  | nil => exact dangles
  | cons first rest ih =>
    cases first with
    | object values =>
      rw [seed] at dangles
      split at dangles
      next done seeded inserted =>
        have earlier := ih seeded dangles
        apply insert_dangles store target values
        rwa [inserted]
      next fault seeded inserted =>
        apply insert_dangles store target values
        rwa [inserted]
    | _ => exact dangles

theorem Dangles.before_rewrite {name : String} {relation : Relation} {row : Row} {change : Change}
    (dangles : after.Dangles name relation row) (writes : before.Writes written table rows after)
    (checked : ∀ row ∈ rows, row ∈ table.rows ∨ ∃ others, before.Accepts table.schema others row)
    (rewrites : change.Rewrites written) :
    before.Dangles name relation row ∨
      change.Rewrites relation.table ∧ before.Offers relation (row.value relation.localKey) := by
  rcases dangles.before_writes writes checked with earlier | offers
  next => exact .inl earlier
  next =>
    by_cases same : relation.table = written
    next => exact .inr ⟨same ▸ rewrites, offers⟩
    next => exact absurd (offers.of_tables (writes.kept relation.table same)) dangles.unmatched

theorem apply_dangles {name : String} {relation : Relation} {row : Row} (store : Store)
    (change : Change) (known : ∀ schema, change ≠ .define schema)
    (dangles : (store.apply change).Dangles name relation row) :
    store.Dangles name relation row ∨
      change.Rewrites relation.table ∧ store.Offers relation (row.value relation.localKey) := by
  cases change with
  | define schema => exact absurd rfl (known schema)
  | seed target seeds => exact .inl (seed_dangles store target seeds dangles)
  | insert target values => exact .inl (insert_dangles store target values dangles)
  | update target id values =>
    cases updated : store.update target id values with
    | error fault =>
      rw [apply, updated] at dangles
      exact .inl (dangles.of_tables rfl)
    | ok result =>
      rw [apply, updated] at dangles
      rcases update_cases store result.2 target id values result.1 updated with
        ⟨_, same⟩ | ⟨table, front, old, rest, placed, _, first, _, accepted, writes⟩
      next => exact .inl (same ▸ dangles)
      next =>
        refine dangles.before_rewrite writes ?_ (.update id values)
        intro row member
        rw [first.rows_eq]
        rcases List.mem_append.mp member with earlier | later
        next => exact .inl (List.mem_append_left _ earlier)
        next =>
          rcases List.mem_cons.mp later with rfl | later
          next => exact .inr ⟨front ++ rest, accepted⟩
          next => exact .inl (List.mem_append_right _ (List.mem_cons_of_mem _ later))
  | delete target id =>
    cases deleted : store.delete target id with
    | error fault =>
      rw [apply, deleted] at dangles
      exact .inl (dangles.of_tables rfl)
    | ok result =>
      rw [apply, deleted] at dangles
      rcases delete_cases store result.2 target id result.1 deleted with
        ⟨_, same⟩ | ⟨table, front, old, rest, _, first, writes⟩
      next => exact .inl (same ▸ dangles)
      next =>
        refine dangles.before_rewrite writes ?_ (.delete id)
        intro row member
        rw [first.rows_eq]
        exact .inl (((List.sublist_cons_self old rest).append_left front).subset member)

/-- The row had its counterpart until this change, which took it away. -/
structure LeftBy (store : Store) (front : List Change) (change : Change) (name : String)
    (relation : Relation) (row : Row) : Prop where
  rewrites : change.Rewrites relation.table
  offered : (store.applyAll front).Offers relation (row.value relation.localKey)
  dangles : ((store.applyAll front).apply change).Dangles name relation row

theorem applyAll_dangles {name : String} {relation : Relation} {row : Row} (store : Store)
    (changes : List Change) (known : ∀ schema, .define schema ∉ changes)
    (dangles : (store.applyAll changes).Dangles name relation row) :
    store.Dangles name relation row ∨
      ∃ front change rest, changes = front ++ change :: rest ∧
        store.LeftBy front change name relation row := by
  induction changes generalizing store with
  | nil => exact .inl dangles
  | cons change rest ih =>
    have later : ∀ schema, .define schema ∉ rest :=
      fun schema member => known schema (List.mem_cons_of_mem _ member)
    rcases ih (store.apply change) later dangles with now | ⟨front, next, tail, rfl, left⟩
    next =>
      have here : ∀ schema, change ≠ .define schema :=
        fun schema same => known schema (same ▸ List.mem_cons_self)
      rcases apply_dangles store change here now with earlier | ⟨rewrites, offered⟩
      next => exact .inl earlier
      next => exact .inr ⟨[], change, rest, rfl, rewrites, offered, now⟩
    next => exact .inr ⟨change :: front, next, tail, rfl, left.rewrites, left.offered, left.dangles⟩

theorem rows_defineAll (schemas : List Schema) (store : Store)
    (empty : ∀ name table, store.tables.get? name = some table → table.rows = []) (name : String)
    (table : Table) (found : (store.applyAll (schemas.map .define)).tables.get? name = some table) :
    table.rows = [] := by
  induction schemas generalizing store with
  | nil => exact empty name table found
  | cons schema rest ih =>
    refine ih (store.define schema) ?_ found
    intro other there here
    rw [define] at here
    split at here
    next => exact empty other there here
    next =>
      rw [Keyed.get?_insert] at here
      split at here
      next => rw [← Option.some.inj here]
      next => exact empty other there here

/-- A row has its counterpart in the related table, unless an update or a delete of that table took the
last one away from it. -/
theorem applyAll_references (newKey : Nat → String) (schemas : List Schema) (changes : List Change)
    (known : ∀ schema, .define schema ∉ changes) (name : String) (table parent : Table)
    (relation : Relation) (row : Row)
    (found : (((empty newKey).applyAll (schemas.map .define)).applyAll changes).tables.get? name =
      some table)
    (member : row ∈ table.rows) (declared : relation ∈ table.schema.relations)
    (single : relation.many = false)
    (related : (((empty newKey).applyAll (schemas.map .define)).applyAll changes).tables.get?
      relation.table = some parent)
    (keyed : (row.value relation.localKey).isNull = false) :
    (∃ other ∈ parent.rows,
        sameValue (other.value relation.foreignKey) (row.value relation.localKey) = true) ∨
      ∃ front change rest, changes = front ++ change :: rest ∧
        ((empty newKey).applyAll (schemas.map .define)).LeftBy front change name relation row := by
  by_cases matched : ∃ other ∈ parent.rows,
      sameValue (other.value relation.foreignKey) (row.value relation.localKey) = true
  next => exact .inl matched
  next =>
    have unmatched : ¬ (((empty newKey).applyAll (schemas.map .define)).applyAll changes).Offers relation
        (row.value relation.localKey) := by
      rintro ⟨other, there, offered⟩
      obtain rfl : other = parent := Option.some.inj (there.symm.trans related)
      exact matched offered
    rcases applyAll_dangles _ changes known
      ⟨⟨table, found, member, declared⟩, single, keyed, ⟨parent, related⟩, unmatched⟩ with early | left
    next =>
      obtain ⟨initial, there, present, _⟩ := early.stored
      have empty := rows_defineAll schemas (Store.empty newKey) (by rintro _ _ ⟨⟩) name initial there
      exact absurd (empty ▸ present) List.not_mem_nil
    next => exact .inr left

def memberOf : Relation where
  name := "team"
  table := "teams"
  localKey := "team_id"
  foreignKey := "id"

def teamSchemas : List Schema :=
  [{ name := "teams" }, { name := "users", relations := [memberOf] }]

def ann : Row := [("id", .string "u1"), ("team_id", .string "t1")]

-- The last insertion fails, for want of a team.
def teamChanges : List Change :=
  [.seed "teams" [.object [("id", .string "t1")], .object [("id", .string "t2")]],
    .insert "users" ann,
    .delete "teams" "t2",
    .insert "users" [("id", .string "u2"), ("team_id", .string "t2")]]

def teamsTable : Table where
  schema := { name := "teams" }
  rows := [[("id", .string "t1")]]

def membersTable : Table where
  schema := { name := "users", relations := [memberOf] }
  rows := [ann]

theorem applyAll_references_teams :
    (∃ other ∈ teamsTable.rows, sameValue (other.value "id") (ann.value "team_id") = true) ∨
      ∃ front change rest, teamChanges = front ++ change :: rest ∧
        ((empty keyText).applyAll (teamSchemas.map .define)).LeftBy front change "users" memberOf ann :=
  applyAll_references keyText teamSchemas teamChanges (by simp [teamChanges]) "users" membersTable teamsTable
    memberOf ann rfl List.mem_cons_self List.mem_cons_self rfl rfl rfl

theorem dangles_of_delete :
    (((empty keyText).applyAll (teamSchemas.map .define)).applyAll
      (teamChanges ++ [.delete "teams" "t1"])).Dangles "users" memberOf ann := by
  refine ⟨⟨membersTable, rfl, List.mem_cons_self, List.mem_cons_self⟩, rfl, rfl, ⟨_, rfl⟩, ?_⟩
  rintro ⟨parent, found, other, member, matched⟩
  obtain rfl : { teamsTable with rows := [] } = parent := Option.some.inj found
  cases member

end RowGate.Store
