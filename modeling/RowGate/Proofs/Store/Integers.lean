import RowGate.Plan
import RowGate.Proofs.Number.Integers
import RowGate.Proofs.Store.Addressing
import RowGate.Regex.Tabular

set_option autoImplicit false

namespace RowGate

theorem toList_integerText (n : Int) :
    (Decimal.integerText n).toList = Reading.signText (decide (n < 0)) ++ Decimal.write n.natAbs := by
  by_cases negative : n < 0 <;> simp [Decimal.integerText, Decimal.text, Reading.signText, negative]

namespace Json

theorem orderText?_integer (m n : Int) (bound : m.natAbs ≤ 2 ^ 64) :
    (Json.number (.integer n)).orderText? (Decimal.integerText m) =
      some ((Double.ofInt n).order (Double.ofInt m)) := by
  rw [orderText?, toList_integerText, Double.ofText?_signed_write m bound]
  rfl

theorem equalsText_integer (m n : Int) (bound : m.natAbs ≤ 2 ^ 64) :
    (Json.number (.integer n)).equalsText (Decimal.integerText m) = true ↔
      Double.ofInt m = Double.ofInt n := by
  rw [equalsText, orderText?_integer m n bound, beq_iff_eq, Option.some.injEq, Double.order,
    Std.LawfulEqOrd.compare_eq_iff_eq, Double.signed_ofInt_inj, eq_comm]

end Json

theorem sameValue_integer (m n : Int) (apart : Double.ofInt m ≠ Double.ofInt n) :
    sameValue (.number (.integer m)) (.number (.integer n)) = false := by
  have differ : (Double.ofInt m).order (Double.ofInt n) ≠ .eq := by
    rw [Double.order, ne_eq, Std.LawfulEqOrd.compare_eq_iff_eq, Double.signed_ofInt_inj]
    exact apart
  simpa [sameValue, compareValues, Json.isNull, Number.toDouble] using differ

namespace Table

def hasKey (table : Table) (n : Int) (row : Row) : Bool :=
  match row.value table.schema.primaryKey with
  | .number (.integer key) => key = n
  | _ => false

theorem hasKey_iff (table : Table) (n : Int) (row : Row) :
    table.hasKey n row = true ↔ row.value table.schema.primaryKey = .number (.integer n) := by
  unfold hasKey
  split
  next key shape => simp [shape]
  next other => simpa using fun shape => other n shape

theorem hasKey_of_keyMatches (table : Table) (m n : Int) (row : Row) (bound : m.natAbs ≤ 2 ^ 64)
    (apart : Double.ofInt m ≠ Double.ofInt n)
    (matched : table.keyMatches (Decimal.integerText m) row = true) : table.hasKey n row = false := by
  rw [keyMatches_eq] at matched
  rw [Bool.eq_false_iff, ne_eq, hasKey_iff]
  intro keyed
  rw [keyed, Json.equalsText_integer m n bound] at matched
  exact apart matched

end Table

namespace Store

def integerQuery (column : String) (operator : Operator) (n : Int) : Query where
  filters := [⟨column, operator, some (Decimal.integerText n)⟩]

/-- The text of `m` never reaches what holds `n`, and the two compare as integers do. -/
structure Distinguishes (m n : Int) : Prop where
  found : ∀ (store : Store) (name : String) (table : Table) (row : Row),
    store.tables.get? name = some table → store.find name (Decimal.integerText m) = .ok (some row) →
      table.hasKey n row = false
  updated : ∀ (store after : Store) (name : String) (table : Table) (values : Row) (row? : Option Row),
    store.tables.get? name = some table →
    store.update name (Decimal.integerText m) values = .ok (row?, after) →
      ∃ rows, after.tables.get? name = some { table with rows } ∧
        ∀ (i : Nat) (row : Row), table.rows[i]? = some row → table.hasKey n row = true →
          rows[i]? = some row
  deleted : ∀ (store after : Store) (name : String) (table : Table) (done : Bool),
    store.tables.get? name = some table →
    store.delete name (Decimal.integerText m) = .ok (done, after) →
      ∃ rows, after.tables.get? name = some { table with rows } ∧
        rows.filter (table.hasKey n) = table.rows.filter (table.hasKey n)
  filtered : ∀ (engine : Regex.Engine) (column : String) (row : Row),
    row.value column = .number (.integer n) →
    Selection.accepts engine (integerQuery column .eq m).conditions row = false ∧
      Selection.accepts engine (integerQuery column .gt m).conditions row = decide (m < n) ∧
      Selection.accepts engine (integerQuery column .lt m).conditions row = decide (n < m)
  inserted : ∀ (store : Store) (name : String) (table : Table) (old row : Row),
    store.tables.get? name = some table → table.rows = [old] → table.hasKey n old = true →
    table.hasKey m row = true → store.Accepts table.schema [] row →
    (∀ column ∈ table.schema.uniqueColumns, column ≠ table.schema.primaryKey →
      sameValue (old.value column) (row.value column) = false) →
      ∃ after, store.insert name row = .ok (row, after)

variable {m n : Int}

theorem hasKey_of_find (bound : m.natAbs ≤ 2 ^ 64) (apart : Double.ofInt m ≠ Double.ofInt n)
    (store : Store) (name : String) (table : Table) (row : Row)
    (found : store.tables.get? name = some table)
    (result : store.find name (Decimal.integerText m) = .ok (some row)) :
    table.hasKey n row = false := by
  rw [find_eq_ok store name _ table found, Except.ok.injEq] at result
  exact table.hasKey_of_keyMatches m n row bound apart (List.find?_some result)

theorem update_keeps (bound : m.natAbs ≤ 2 ^ 64) (apart : Double.ofInt m ≠ Double.ofInt n)
    (store after : Store) (name : String) (table : Table) (values : Row) (row? : Option Row)
    (found : store.tables.get? name = some table)
    (updated : store.update name (Decimal.integerText m) values = .ok (row?, after)) :
    ∃ rows, after.tables.get? name = some { table with rows } ∧
      ∀ (i : Nat) (row : Row), table.rows[i]? = some row → table.hasKey n row = true →
        rows[i]? = some row := by
  obtain ⟨-, rfl⟩ | ⟨other, front, old, rest, row, -, first, -, -, writes⟩ :=
    update_cases store after name _ values row? updated
  · exact ⟨table.rows, found, fun i row here _ => here⟩
  obtain rfl : other = table := Option.some.inj (writes.found.symm.trans found)
  have gone := other.hasKey_of_keyMatches m n old bound apart first.matched
  refine ⟨front ++ row :: rest, writes.written, ?_⟩
  intro i kept here keyed
  have elsewhere : i ≠ front.length := by
    rintro rfl
    obtain rfl : old = kept := by simpa [first.rows_eq] using here
    rw [gone] at keyed
    cases keyed
  rw [← first.set_rows row, List.getElem?_set_ne elsewhere.symm]
  exact here

theorem delete_keeps (bound : m.natAbs ≤ 2 ^ 64) (apart : Double.ofInt m ≠ Double.ofInt n)
    (store after : Store) (name : String) (table : Table) (done : Bool)
    (found : store.tables.get? name = some table)
    (deleted : store.delete name (Decimal.integerText m) = .ok (done, after)) :
    ∃ rows, after.tables.get? name = some { table with rows } ∧
      rows.filter (table.hasKey n) = table.rows.filter (table.hasKey n) := by
  obtain ⟨-, rfl⟩ | ⟨other, front, old, rest, -, first, writes⟩ :=
    delete_cases store after name _ done deleted
  · exact ⟨table.rows, found, rfl⟩
  obtain rfl : other = table := Option.some.inj (writes.found.symm.trans found)
  have gone := other.hasKey_of_keyMatches m n old bound apart first.matched
  refine ⟨front ++ rest, writes.written, ?_⟩
  rw [first.rows_eq, List.filter_append, List.filter_append, List.filter_cons_of_neg (by simp [gone])]

theorem accepts_integerQuery (bound : m.natAbs ≤ 2 ^ 64) (apart : Double.ofInt m ≠ Double.ofInt n)
    (engine : Regex.Engine) (column : String) (row : Row)
    (holds : row.value column = .number (.integer n)) :
    Selection.accepts engine (integerQuery column .eq m).conditions row = false ∧
      Selection.accepts engine (integerQuery column .gt m).conditions row = decide (m < n) ∧
      Selection.accepts engine (integerQuery column .lt m).conditions row = decide (n < m) := by
  have order := Json.orderText?_integer m n bound
  rw [Double.order_ofInt n m apart.symm] at order
  refine ⟨?_, ?_, ?_⟩
  · change (Predicate.compare .eq (Decimal.integerText m)).holds engine (row.value column) = false
    rw [holds, Bool.eq_false_iff, ne_eq]
    exact fun same => apart ((Json.equalsText_integer m n bound).1 same)
  · change (Predicate.compare .gt (Decimal.integerText m)).holds engine (row.value column) = _
    rw [holds]
    change FieldTest.orderIs _ _ _ = _
    rw [FieldTest.orderIs, order, Option.any_some, Bool.eq_iff_iff, beq_iff_eq, Int.compare_eq_gt,
      decide_eq_true_eq]
  · change (Predicate.compare .lt (Decimal.integerText m)).holds engine (row.value column) = _
    rw [holds]
    change FieldTest.orderIs _ _ _ = _
    rw [FieldTest.orderIs, order, Option.any_some, Bool.eq_iff_iff, beq_iff_eq, Int.compare_eq_lt,
      decide_eq_true_eq]

theorem insert_beside (apart : Double.ofInt m ≠ Double.ofInt n) (store : Store) (name : String)
    (table : Table) (old row : Row) (found : store.tables.get? name = some table)
    (rows : table.rows = [old]) (first : table.hasKey n old = true) (second : table.hasKey m row = true)
    (alone : store.Accepts table.schema [] row)
    (others : ∀ column ∈ table.schema.uniqueColumns, column ≠ table.schema.primaryKey →
      sameValue (old.value column) (row.value column) = false) :
    ∃ after, store.insert name row = .ok (row, after) := by
  rw [Table.hasKey_iff] at first second
  refine ⟨_, insert_of_accepts store name table row found (by simp [second, Json.isNull]) ?_⟩
  refine ⟨alone.admitted, ?_, alone.belongs⟩
  intro column unique other member
  rw [rows, List.mem_singleton] at member
  rw [member]
  by_cases key : column = table.schema.primaryKey
  · rw [key, first, second]
    exact sameValue_integer n m apart.symm
  · exact others column unique key

theorem distinguishes_of_ofInt_ne (bound : m.natAbs ≤ 2 ^ 64)
    (apart : Double.ofInt m ≠ Double.ofInt n) : Distinguishes m n where
  found := hasKey_of_find bound apart
  updated := update_keeps bound apart
  deleted := delete_keeps bound apart
  filtered := accepts_integerQuery bound apart
  inserted := insert_beside apart

/-- The store tells an integer from another exactly where they round to different doubles, and so it does
where one of them is below 2 ^ 53. -/
theorem distinguishes_iff (m n : Int) (low : -2 ^ 63 ≤ m) (high : m < 2 ^ 64) :
    (Distinguishes m n ↔ Double.ofInt m ≠ Double.ofInt n) ∧
      (m ≠ n → m.natAbs < 2 ^ 53 ∨ n.natAbs < 2 ^ 53 ∨ (m.natAbs ≤ 2 ^ 53 ∧ n.natAbs ≤ 2 ^ 53) →
        Distinguishes m n) := by
  have bound : m.natAbs ≤ 2 ^ 64 := by omega
  refine ⟨⟨?_, distinguishes_of_ofInt_ne bound⟩, ?_⟩
  · intro distinguishes same
    have rejected :=
      (distinguishes.filtered Regex.unlimited "id" [("id", .number (.integer n))] rfl).1
    have accepted : Selection.accepts Regex.unlimited (integerQuery "id" .eq m).conditions
        [("id", .number (.integer n))] = true :=
      (Json.equalsText_integer m n bound).2 same
    rw [accepted] at rejected
    cases rejected
  · exact fun differ small => distinguishes_of_ofInt_ne bound (Double.ofInt_ne m n differ small)

theorem distinguishes_iff_neighbours :
    Distinguishes (2 ^ 53 - 1) (2 ^ 53) ∧ ¬Distinguishes (2 ^ 53 + 1) (2 ^ 53) := by
  obtain ⟨-, near⟩ := distinguishes_iff (2 ^ 53 - 1) (2 ^ 53) (by decide) (by decide)
  obtain ⟨far, -⟩ := distinguishes_iff (2 ^ 53 + 1) (2 ^ 53) (by decide) (by decide)
  refine ⟨near (by decide) (.inl (by decide)), ?_⟩
  rw [far, not_not]
  decide +kernel

def largeTable : Table where
  schema := { name := "users" }
  rows := [[("id", .number (.integer (2 ^ 53)))]]

theorem find_neighbour :
    (2 ^ 53 + 1 : Int) ≠ 2 ^ 53 ∧
      ((empty keyText).applyAll [.define largeTable.schema,
        .insert "users" [("id", .number (.integer (2 ^ 53)))]]).find
        "users" (Decimal.integerText (2 ^ 53 + 1)) = .ok (some [("id", .number (.integer (2 ^ 53)))]) := by
  refine ⟨by decide, ?_⟩
  have matched : largeTable.keyMatches (Decimal.integerText (2 ^ 53 + 1))
      [("id", .number (.integer (2 ^ 53)))] = true := by
    decide +kernel
  rw [find_eq_ok _ "users" _ largeTable rfl]
  exact congrArg Except.ok (List.find?_cons_of_pos matched)

end Store

end RowGate
