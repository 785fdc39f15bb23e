import RowGate.Proofs.Number.Reading
import RowGate.Proofs.Store.Integrity

set_option autoImplicit false

namespace RowGate

def Number.Admissible : Number → Prop
  | .integer n => -2 ^ 63 ≤ n ∧ n < 2 ^ 64
  | .double x => x.isFinite = true ∧
      ∃ significand exponent, significand < 2 ^ 53 ∧ x.units = significand * 2 ^ exponent

namespace Json

-- Two kinds of values that one text may name.
def mayShareText : Json → Json → Bool
  | .string _, .string _ => false
  | .string _, _ | _, .string _ => true
  | .number _, .bool _ | .bool _, .number _ => true
  | _, _ => false

def isNested : Json → Bool
  | .array _ | .object _ => true
  | _ => false

-- The text of an array or an object starts with a bracket, and so does no number or boolean.
theorem bracket_of_isNested (value : Json) (nested : value.isNested = true) :
    ∃ c rest, (c = '[' ∨ c = '{') ∧ value.text.toList = c :: rest := by
  cases value with
  | array items =>
    refine ⟨'[', ?_⟩
    cases items <;> simp [text, write]
  | object fields =>
    refine ⟨'{', ?_⟩
    cases fields <;> simp [text, write]
  | _ => cases nested

theorem equalsText_of_isNested (value : Json) (nested : value.isNested = true) (id : String) :
    value.equalsText id = true ↔ value.text = id := by
  cases value <;> simp [isNested] at nested <;> simp [equalsText]

theorem unread_of_isNested (value : Json) (nested : value.isNested = true) (id : String)
    (named : value.equalsText id = true) :
    boolOfText? id = none ∧ Reading.ofText? (Text.trim id.toList) = none := by
  obtain ⟨c, rest, bracket, shape⟩ := bracket_of_isNested value nested
  rw [(equalsText_of_isNested value nested id).1 named] at shape
  have solid : Text.isBlank c = false := by
    obtain rfl | rfl := bracket <;> rfl
  have lower : c.toLower = c := by
    obtain rfl | rfl := bracket <;> rfl
  obtain ⟨more, trimmed⟩ := Text.trim_cons c rest solid
  rw [boolOfText?, shape, trimmed]
  constructor
  · obtain rfl | rfl := bracket <;> simp [lower]
  · obtain rfl | rfl := bracket <;>
      simp [Reading.ofText?, Reading.unsigned?, Reading.decimal?, Decimal.isDigit, lower]

theorem equalsText_number_iff (n : Number) (id : String) :
    (Json.number n).equalsText id = true ↔
      ∃ x, Reading.ofText? (Text.trim id.toList) = some (.finite x) ∧ n.toDouble.signed = x.signed := by
  rw [equalsText, orderText?, beq_iff_eq, Option.bind_eq_some_iff]
  constructor
  · rintro ⟨reading, read, order⟩
    cases reading with
    | finite x =>
      rw [Reading.order?, Option.some.injEq, Double.order, Std.LawfulEqOrd.compare_eq_iff_eq] at order
      exact ⟨x, read, order⟩
    | infinite negative => cases negative <;> cases order
    | nan => cases order
  · rintro ⟨x, read, same⟩
    exact ⟨.finite x, read, by simp [Reading.order?, Double.order, same]⟩

theorem equalsText_bool_iff (b : Bool) (id : String) :
    (Json.bool b).equalsText id = true ↔ boolOfText? id = some b := by
  rw [equalsText, beq_iff_eq]

theorem sameValue_of_text_eq (left right : Json) (nested : left.isNested = true ∧ right.isNested = true)
    (same : left.text = right.text) : sameValue left right = true := by
  obtain ⟨first, second⟩ := nested
  cases left <;> simp [isNested] at first <;> cases right <;> simp [isNested] at second <;>
    simp [sameValue, compareValues, compareTexts, isNull, same]

theorem mayShareText_comm (left right : Json) : mayShareText left right = mayShareText right left := by
  cases left <;> cases right <;> rfl

theorem isNested_of_equalsText (left right : Json) (id : String) (first : left.equalsText id = true)
    (second : right.equalsText id = true) (alike : mayShareText left right = false)
    (nested : left.isNested = true) : right.isNested = true := by
  obtain ⟨noBool, noNumber⟩ := unread_of_isNested left nested id first
  cases right with
  | null => cases second
  | bool b => rw [equalsText_bool_iff, noBool] at second; cases second
  | number n =>
    obtain ⟨x, read, -⟩ := (equalsText_number_iff n id).1 second
    rw [noNumber] at read
    cases read
  | string s => cases left <;> simp [isNested] at nested <;> cases alike
  | array | object => rfl

theorem sameValue_of_equalsText (left right : Json) (id : String) (first : left.equalsText id = true)
    (second : right.equalsText id = true) (alike : mayShareText left right = false) :
    sameValue left right = true := by
  by_cases nested : left.isNested = true ∨ right.isNested = true
  · have both : left.isNested = true ∧ right.isNested = true := by
      obtain nested | nested := nested
      · exact ⟨nested, isNested_of_equalsText left right id first second alike nested⟩
      · rw [mayShareText_comm] at alike
        exact ⟨isNested_of_equalsText right left id second first alike nested, nested⟩
    apply sameValue_of_text_eq left right both
    rw [(equalsText_of_isNested left both.1 id).1 first, (equalsText_of_isNested right both.2 id).1 second]
  · cases left with
    | null => cases first
    | bool b =>
      cases right with
      | bool c =>
        rw [equalsText_bool_iff] at first second
        rw [first, Option.some.injEq] at second
        simp [sameValue, compareValues, compareBools, isNull, second]
      | null => cases second
      | number | string => cases alike
      | array | object => simp [isNested] at nested
    | number n =>
      cases right with
      | number k =>
        obtain ⟨x, read, near⟩ := (equalsText_number_iff n id).1 first
        obtain ⟨y, again, far⟩ := (equalsText_number_iff k id).1 second
        rw [read, Option.some.injEq, Reading.finite.injEq] at again
        simp [sameValue, compareValues, isNull, Double.order, near, far, again]
      | null => cases second
      | bool | string => cases alike
      | array | object => simp [isNested] at nested
    | string s =>
      cases right with
      | string t =>
        have same : s = t := by simp_all [equalsText]
        simp [sameValue, compareValues, compareTexts, isNull, same]
      | null => cases second
      | bool | number => cases alike
      | array | object => simp [isNested] at nested
    | array | object => simp [isNested] at nested

theorem toList_plainText_number (n : Number) :
    (Json.number n).plainText.toList = writeNumber n := by
  simp [plainText, text, write]

theorem writeNumber_integer (n : Int) :
    writeNumber (.integer n) = Reading.signText (decide (n < 0)) ++ Decimal.write n.natAbs := by
  by_cases negative : n < 0 <;> simp [writeNumber, Reading.signText, negative]

theorem equalsText_plainText (value : Json) (some : value.isNull = false)
    (admissible : ∀ n, value = .number n → n.Admissible) : value.equalsText value.plainText = true := by
  cases value with
  | null => cases some
  | bool b => cases b <;> rfl
  | number n =>
    rw [equalsText_number_iff, toList_plainText_number]
    have admissible := admissible n rfl
    cases n with
    | integer n =>
      obtain ⟨low, high⟩ := admissible
      rw [writeNumber_integer]
      exact ⟨Double.ofInt n, Double.ofText?_signed_write n (by omega), rfl⟩
    | double x =>
      obtain ⟨finite, significand, exponent, bits, shape⟩ := admissible
      have whole := Double.gap_dvd significand exponent bits
      rw [← shape] at whole
      exact ⟨x, Double.ofText?_text doubleLayout x whole finite, rfl⟩
  | string s => simp [equalsText, plainText]
  | array items => simp [equalsText, plainText]
  | object fields => simp [equalsText, plainText]

end Json

namespace Table

theorem keyMatches_eq (table : Table) (id : String) (row : Row) :
    table.keyMatches id row = (row.value table.schema.primaryKey).equalsText id := by
  rw [keyMatches, Row.value]
  cases row.get? table.schema.primaryKey <;> rfl

theorem mayShareText_of_keyMatches (table : Table) (id : String) (left right : Row)
    (first : table.keyMatches id left = true) (second : table.keyMatches id right = true)
    (differ : sameValue (left.value table.schema.primaryKey) (right.value table.schema.primaryKey) =
      false) :
    Json.mayShareText (left.value table.schema.primaryKey) (right.value table.schema.primaryKey) =
      true := by
  rw [keyMatches_eq] at first second
  by_contra alike
  rw [Bool.not_eq_true] at alike
  rw [Json.sameValue_of_equalsText _ _ id first second alike] at differ
  cases differ

end Table

namespace Schema

theorem primaryKey_mem_uniqueColumns (schema : Schema) : schema.primaryKey ∈ schema.uniqueColumns :=
  List.mem_cons_self

end Schema

namespace Store

theorem find_eq_ok (store : Store) (name id : String) (table : Table)
    (found : store.tables.get? name = some table) :
    store.find name id = .ok (table.rows.find? (table.keyMatches id)) := by
  rw [find, (lookup_eq_ok_iff store name table).2 found]
  rfl

-- The table after a write matches as before, for the schema is the same.
theorem Writes.find_eq {before after : Store} {name : String} {table : Table} {rows : List Row}
    (writes : before.Writes name table rows after) (id : String) :
    after.find name id = .ok (rows.find? (table.keyMatches id)) :=
  find_eq_ok after name id _ writes.written

theorem find_delete (store after : Store) (name id : String) (governed : store.Governed)
    (deleted : store.delete name id = .ok (true, after)) :
    ∃ table old left?, store.tables.get? name = some table ∧ store.find name id = .ok (some old) ∧
      after.find name id = .ok left? ∧ ∀ row, left? = some row → row ∈ table.rows ∧
        Json.mayShareText (old.value table.schema.primaryKey) (row.value table.schema.primaryKey) =
          true := by
  obtain ⟨same, -⟩ | ⟨table, front, old, rest, -, first, writes⟩ :=
    delete_cases store after name id true deleted
  · cases same
  have unmatched : front.find? (table.keyMatches id) = none := by
    rw [List.find?_eq_none]
    intro row member matched
    rw [first.first row member] at matched
    cases matched
  refine ⟨table, old, rest.find? (table.keyMatches id), writes.found, ?_, ?_, ?_⟩
  · rw [find_eq_ok store name id table writes.found, first.rows_eq, List.find?_append, unmatched,
      List.find?_cons_of_pos first.matched]
    rfl
  · rw [writes.find_eq, List.find?_append, unmatched]
    rfl
  · intro row left
    have member := List.mem_of_find?_eq_some left
    have distinct := (governed name table writes.found).distinct _ table.schema.primaryKey_mem_uniqueColumns
    rw [first.rows_eq] at distinct ⊢
    refine ⟨List.mem_append_right _ (List.mem_cons_of_mem _ member), ?_⟩
    apply table.mayShareText_of_keyMatches id old row first.matched (List.find?_some left)
    exact (List.pairwise_cons.1 (List.pairwise_append.1 distinct).2.1).1 row member

theorem isNull_withKey (store : Store) (table : Table) (values : Row) :
    (((store.withKey table values).1).value table.schema.primaryKey).isNull = false := by
  cases missing : (values.value table.schema.primaryKey).isNull with
  | true =>
    rw [withKey, if_pos missing]
    simp [Row.value, Json.isNull]
  | false =>
    rw [withKey, if_neg (by simp [missing])]
    exact missing

theorem find_insert (store after : Store) (name : String) (values row : Row) (table : Table)
    (found : store.tables.get? name = some table) (inserted : store.insert name values = .ok (row, after))
    (admissible : ∀ n, row.value table.schema.primaryKey = .number n → n.Admissible) :
    ∃ first, after.find name (row.value table.schema.primaryKey).plainText = .ok (some first) ∧
      (first = row ∨ first ∈ table.rows ∧
        Json.mayShareText (first.value table.schema.primaryKey) (row.value table.schema.primaryKey) =
          true) := by
  obtain ⟨other, filled, accepted, writes⟩ := insert_cases store after name values row inserted
  obtain rfl : other = table := Option.some.inj (writes.found.symm.trans found)
  have some : (row.value other.schema.primaryKey).isNull = false := filled ▸ isNull_withKey store other values
  have matched : other.keyMatches (row.value other.schema.primaryKey).plainText row = true := by
    rw [Table.keyMatches_eq]
    exact Json.equalsText_plainText _ some admissible
  rw [writes.find_eq, List.find?_append, List.find?_cons_of_pos matched]
  cases earlier : other.rows.find? (other.keyMatches (row.value other.schema.primaryKey).plainText) with
  | none => exact ⟨row, rfl, .inl rfl⟩
  | some first =>
    have member := List.mem_of_find?_eq_some earlier
    refine ⟨first, rfl, .inr ⟨member, ?_⟩⟩
    apply other.mayShareText_of_keyMatches _ first row (List.find?_some earlier) matched
    exact accepted.distinct _ other.schema.primaryKey_mem_uniqueColumns first member

/-- How far an id addresses one row of a table. The row that an id finds where the record was deleted,
or in front of one that was inserted, has a key of another kind. -/
structure Addresses (store : Store) (name : String) (table : Table) : Prop where
  ambiguous : ∀ (id : String) (i j : Nat) (left right : Row), i ≠ j → table.rows[i]? = some left →
    table.rows[j]? = some right → table.keyMatches id left = true → table.keyMatches id right = true →
      Json.mayShareText (left.value table.schema.primaryKey) (right.value table.schema.primaryKey) = true
  deleted : ∀ (id : String) (after : Store), store.delete name id = .ok (true, after) →
    ∃ old left?, store.find name id = .ok (some old) ∧ after.find name id = .ok left? ∧
      ∀ row, left? = some row → row ∈ table.rows ∧
        Json.mayShareText (old.value table.schema.primaryKey) (row.value table.schema.primaryKey) = true
  inserted : ∀ (values row : Row) (after : Store), store.insert name values = .ok (row, after) →
    (∀ n, row.value table.schema.primaryKey = .number n → n.Admissible) →
      ∃ first, after.find name (row.value table.schema.primaryKey).plainText = .ok (some first) ∧
        (first = row ∨ first ∈ table.rows ∧
          Json.mayShareText (first.value table.schema.primaryKey) (row.value table.schema.primaryKey) =
            true)

theorem applyAll_addressing (newKey : Nat → String) (changes : List Change) (name : String)
    (table : Table) (found : ((empty newKey).applyAll changes).tables.get? name = some table) :
    ((empty newKey).applyAll changes).Addresses name table := by
  have governed := governed_applyAll newKey changes
  constructor
  next =>
    intro id i j left right apart here there first second
    apply table.mayShareText_of_keyMatches id left right first second
    exact (governed name table found).differ _ table.schema.primaryKey_mem_uniqueColumns i j left right
      apart here there
  next =>
    intro id after deleted
    obtain ⟨other, old, left?, there, before, afterwards, kept⟩ := find_delete _ after name id governed deleted
    obtain rfl : other = table := Option.some.inj (there.symm.trans found)
    exact ⟨old, left?, before, afterwards, kept⟩
  next =>
    intro values row after inserted admissible
    exact find_insert _ after name values row table found inserted admissible

-- A number and a string with the same text.
def mixedTable : Table where
  schema := { name := "users" }
  rows := [[("id", .number (.integer 1))], [("id", .string "1")]]

def mixedHistory : List Change :=
  [.define { name := "users" },
    .insert "users" [("id", .number (.integer 1))],
    .insert "users" [("id", .string "1")]]

theorem tables_mixedHistory :
    ((empty keyText).applyAll mixedHistory).tables.get? "users" = some mixedTable := by
  let before : Store := (empty keyText).define { name := "users" }
  let between := before.setRows "users" { schema := { name := "users" } } [[("id", .number (.integer 1))]]
  have first : before.insert "users" [("id", .number (.integer 1))] =
      .ok ([("id", .number (.integer 1))], between) :=
    insert_of_accepts before "users" { schema := { name := "users" } } _ rfl rfl
      ⟨by simp [Schema.Admits], by simp, by simp⟩
  have apart : sameValue (.number (.integer 1)) (.string "1") = false := by decide +kernel
  have distinct : ∀ column ∈ ({ name := "users" } : Schema).uniqueColumns,
      ∀ other ∈ [[("id", .number (.integer 1))]],
        sameValue (Row.value other column) (Row.value [("id", .string "1")] column) = false := by
    intro column unique other member
    obtain rfl : column = "id" := by simpa [Schema.uniqueColumns] using unique
    rw [List.mem_singleton.mp member]
    exact apart
  have second : between.insert "users" [("id", .string "1")] =
      .ok ([("id", .string "1")], between.setRows "users" mixedTable mixedTable.rows) :=
    insert_of_accepts between "users"
      { schema := { name := "users" }, rows := [[("id", .number (.integer 1))]] } _ rfl rfl
      ⟨by simp [Schema.Admits], distinct, by simp⟩
  have whole : (empty keyText).applyAll mixedHistory = between.setRows "users" mixedTable mixedTable.rows := by
    change ((before.attempt (before.insert _ _)).2.attempt ((before.attempt _).2.insert _ _)).2 = _
    rw [first]
    change (between.attempt (between.insert _ _)).2 = _
    rw [second]
    rfl
  rw [whole]
  rfl

theorem applyAll_addressing_mixed :
    ((empty keyText).applyAll mixedHistory).tables.get? "users" = some mixedTable ∧
      Json.mayShareText (.number (.integer 1)) (.string "1") = true := by
  have addresses := applyAll_addressing keyText mixedHistory "users" mixedTable tables_mixedHistory
  refine ⟨tables_mixedHistory, ?_⟩
  exact addresses.ambiguous "1" 0 1 _ _ (by decide) rfl rfl (by decide +kernel) (by decide +kernel)

theorem find_delete_mixed :
    ∃ after, ((empty keyText).applyAll mixedHistory).delete "users" "1" = .ok (true, after) ∧
      after.find "users" "1" = .ok (some [("id", .string "1")]) := by
  have position : mixedTable.position? "1" = some 0 := by decide +kernel
  have matched : mixedTable.keyMatches "1" [("id", .string "1")] = true := by decide
  have looked := (lookup_eq_ok_iff _ _ _).2 tables_mixedHistory
  refine ⟨((empty keyText).applyAll mixedHistory).setRows "users" mixedTable [[("id", .string "1")]], ?_, ?_⟩
  · rw [delete, looked]
    simp only [bind, Except.bind, position]
    rfl
  · rw [(setRows_writes _ _ _ _ tables_mixedHistory).find_eq, List.find?_cons_of_pos matched]

end Store

end RowGate
