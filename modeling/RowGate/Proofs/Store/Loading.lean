import RowGate.Proofs.Keyed
import RowGate.Proofs.Store.Addressing
import RowGate.Proofs.Store.Faults
import RowGate.Proofs.Store.Order
import RowGate.Proofs.Store.History
import RowGate.Proofs.Store.Paging
import RowGate.Regex.Tabular

set_option autoImplicit false

namespace RowGate.Store

-- The row with one relation loaded; one that cannot be loaded leaves it as it is.
def loadInto (store : Store) (schema : Schema) (row : Row) (name : String) : Row :=
  match schema.relation? name with
  | none => row
  | some relation =>
    match store.tables.get? relation.table with
    | none => row
    | some other =>
      row.insert name (related relation other.rows (row.value relation.localKey))

section

variable (store : Store) (schema : Schema)

theorem loadInto_eq (row : Row) (name : String) (relation : Relation) (other : Table)
    (declared : schema.relation? name = some relation)
    (found : store.tables.get? relation.table = some other) :
    store.loadInto schema row name =
      row.insert name (related relation other.rows (row.value relation.localKey)) := by
  simp only [loadInto, declared, found]

theorem get?_loadInto_of_ne (row : Row) (name column : String) (differs : column ≠ name) :
    (store.loadInto schema row name).get? column = row.get? column := by
  unfold loadInto
  split
  next => rfl
  next =>
    split
    next => rfl
    next => rw [Keyed.get?_insert, if_neg differs.symm]

theorem get?_foldl_loadInto_of_not_mem (load : List String) (row : Row) (column : String)
    (apart : column ∉ load) :
    (load.foldl (store.loadInto schema) row).get? column = row.get? column := by
  induction load generalizing row with
  | nil => rfl
  | cons name rest ih =>
    rw [List.mem_cons, not_or] at apart
    obtain ⟨differs, others⟩ := apart
    rw [List.foldl_cons, ih _ others, get?_loadInto_of_ne store schema row name column differs]

theorem value_foldl_loadInto_of_not_mem (load : List String) (row : Row) (column : String)
    (apart : column ∉ load) :
    (load.foldl (store.loadInto schema) row).value column = row.value column := by
  rw [Row.value, get?_foldl_loadInto_of_not_mem store schema load row column apart, Row.value]

theorem get?_foldl_loadInto (front back : List String) (row : Row) (name : String)
    (relation : Relation) (other : Table) (declared : schema.relation? name = some relation)
    (found : store.tables.get? relation.table = some other) (last : name ∉ back) :
    ((front ++ name :: back).foldl (store.loadInto schema) row).get? name =
      some (related relation other.rows
        ((front.foldl (store.loadInto schema) row).value relation.localKey)) := by
  rw [List.foldl_append, List.foldl_cons, get?_foldl_loadInto_of_not_mem store schema back _ name last,
    loadInto_eq store schema _ name relation other declared found, Keyed.get?_insert, if_pos rfl]

theorem loadRelation_eq_ok (rows loaded : List Row) (name : String)
    (done : store.loadRelation schema rows name = .ok loaded) :
    store.Loads schema name ∧ loaded = rows.map (store.loadInto schema · name) := by
  have loads := (store.loads_iff schema rows name).mpr ⟨loaded, done⟩
  refine ⟨loads, ?_⟩
  obtain ⟨relation, other, declared, found⟩ := loads
  have looked := (lookup_eq_ok_iff store relation.table other).mpr found
  simp only [loadRelation, declared, looked, bind, Except.bind, Except.ok.injEq] at done
  simp only [loadInto_eq store schema _ name relation other declared found, ← done]

theorem foldlM_loadRelation_eq_ok (load : List String) (rows loaded : List Row)
    (done : load.foldlM (store.loadRelation schema) rows = .ok loaded) :
    (∀ name ∈ load, store.Loads schema name) ∧
      loaded = rows.map (load.foldl (store.loadInto schema)) := by
  induction load generalizing rows with
  | nil =>
    cases done
    simp
  | cons name rest ih =>
    rw [List.foldlM_cons] at done
    obtain ⟨first, step, done⟩ := (bind_eq_ok_iff _ _ _).mp done
    obtain ⟨loads, rfl⟩ := loadRelation_eq_ok store schema rows first name step
    obtain ⟨others, rfl⟩ := ih _ done
    refine ⟨List.forall_mem_cons.mpr ⟨loads, others⟩, ?_⟩
    rw [List.map_map]
    rfl

theorem isNested_related (relation : Relation) (rows : List Row) (key : Json) :
    (related relation rows key).isNested = true ∨ related relation rows key = .null := by
  unfold related
  dsimp only
  split
  next => exact .inl rfl
  next =>
    cases (rows.filter fun row => sameValue (row.value relation.foreignKey) key).head? with
    | none => exact .inr rfl
    | some row => exact .inl rfl

-- No row has an array, an object or null for its key, so none is found by such a key.
theorem related_of_isNested (relation : Relation) (rows : List Row) (key : Json)
    (plain : ∀ row ∈ rows, (row.value relation.foreignKey).isNested = false)
    (nested : key.isNested = true ∨ key = .null) :
    related relation rows key = related relation [] .null := by
  have none : (rows.filter fun row => sameValue (row.value relation.foreignKey) key) = [] := by
    refine List.filter_eq_nil_iff.mpr fun row member same => ?_
    rcases nested with nested | rfl
    next =>
      have kinds := rank_eq_of_sameValue _ _ same
      have other := plain row member
      cases key <;> simp [Json.isNested] at nested <;>
        cases value : row.value relation.foreignKey <;> simp_all [Json.rank, Json.isNested]
    next => simp at same
  rw [related, none]
  rfl

theorem exists_last_mention (load : List String) (name : String) (member : name ∈ load) :
    ∃ front back, load = front ++ name :: back ∧ name ∉ back := by
  obtain ⟨back, front, cut, last⟩ := List.eq_append_cons_of_mem (List.mem_reverse.mpr member)
  refine ⟨front.reverse, back.reverse, ?_, by simpa using last⟩
  rw [← List.reverse_reverse load, cut]
  simp

theorem isNested_value_foldl_loadInto (load : List String) (row : Row) (column : String)
    (member : column ∈ load) (loads : ∀ name ∈ load, store.Loads schema name) :
    ((load.foldl (store.loadInto schema) row).value column).isNested = true ∨
      (load.foldl (store.loadInto schema) row).value column = .null := by
  obtain ⟨relation, other, declared, found⟩ := loads column member
  obtain ⟨front, back, rfl, last⟩ := exists_last_mention load column member
  rw [Row.value, get?_foldl_loadInto store schema front back row column relation other declared found
    last, Option.getD_some]
  exact isNested_related relation other.rows _

end

variable (engine : Regex.Engine)

def baseRows (table : Table) (query : Query) : List Row :=
  page (.ofPlan query.plan)
    (sortRows query.order (table.rows.filter (Selection.accepts engine query.conditions)))

theorem mem_of_mem_baseRows (table : Table) (query : Query) (row : Row)
    (member : row ∈ baseRows engine table query) : row ∈ table.rows := by
  rw [baseRows, page_eq] at member
  have sorted := List.mem_of_mem_drop (List.mem_of_mem_take member)
  exact (List.mem_filter.mp (List.mem_mergeSort.mp sorted)).1

theorem matching_unjoined (store : Store) (table : Table) (query : Query) (working : Working)
    (unjoined : query.joins = [])
    (matched : store.matching engine table (.ofPlan query.plan) = .ok working) :
    working.rows = table.rows.filter (Selection.accepts engine query.conditions) := by
  rw [Selection.ofPlan_plan, unjoined] at matched
  obtain ⟨joined, started, -, rfl⟩ := matching_cases engine store table _ working matched
  cases started
  rfl

-- The row that a query shows of a base row.
def shownRow (store : Store) (schema : Schema) (query : Query) (base : Row) : Row :=
  let loaded := query.load.foldl (store.loadInto schema) base
  if (Selection.ofPlan query.plan).selectsAll then loaded
  else project (.ofPlan query.plan) loaded

theorem get?_shownRow (store : Store) (schema : Schema) (query : Query) (base : Row) (name : String)
    (member : name ∈ query.load) :
    (store.shownRow schema query base).get? name =
      (query.load.foldl (store.loadInto schema) base).get? name := by
  unfold shownRow
  dsimp only
  split
  next => rfl
  next =>
    have kept : (query.select.contains name || query.load.contains name) = true := by simp [member]
    have filtered := Keyed.get?_filter (query.load.foldl (store.loadInto schema) base)
      (fun column => query.select.contains column || query.load.contains column) name
    rw [kept, if_pos rfl] at filtered
    rw [← filtered, Selection.ofPlan_plan]
    rfl

theorem select_unjoined (store : Store) (name : String) (query : Query) (rows : List Row)
    (unjoined : query.joins = []) (selected : store.select engine name query = .ok rows) :
    ∃ table, store.lookup name = .ok table ∧ (∀ name ∈ query.load, store.Loads table.schema name) ∧
      rows = (baseRows engine table query).map (store.shownRow table.schema query) := by
  obtain ⟨table, working, found, matched, arranged⟩ := select_cases engine store name query rows selected
  have accepted := matching_unjoined engine store table query working unjoined matched
  obtain ⟨loaded, -, loads, result⟩ := arrange_cases store table.schema _ working rows arranged
  obtain ⟨declared, rfl⟩ := foldlM_loadRelation_eq_ok store table.schema _ _ loaded loads
  have names : (Selection.ofPlan query.plan).relations = query.load := by rw [Selection.ofPlan_plan]
  have order : (Selection.ofPlan query.plan).order = query.order := by rw [Selection.ofPlan_plan]
  rw [names] at declared
  refine ⟨table, found, declared, ?_⟩
  rw [names, order, accepted] at result
  unfold shownRow
  rcases result with ⟨all, rfl⟩ | ⟨some, -, rfl⟩
  next =>
    simp only [all, if_true]
    rfl
  next =>
    simp only [some, Bool.false_eq_true, if_false, List.map_map]
    rfl

/-- What a row shows of a relation, given the names that the list has in front of its last mention: the
rows of the key that is stored in the base row, or none where one of these names is that of the key and
the key has been replaced. -/
structure ShowsRelation (front : List String) (name : String) (relation : Relation) (others : List Row)
    (base row : Row) : Prop where
  own : relation.localKey ∉ front →
    row.get? name = some (related relation others (base.value relation.localKey))
  replaced : relation.localKey ∈ front →
    (∀ other ∈ others, (other.value relation.foreignKey).isNested = false) →
      row.get? name = some (related relation [] .null)

theorem showsRelation_shownRow (store : Store) (schema : Schema) (query : Query) (base : Row)
    (front back : List String) (name : String) (relation : Relation) (other : Table)
    (loads : ∀ name ∈ query.load, store.Loads schema name) (cut : query.load = front ++ name :: back)
    (last : name ∉ back) (declared : schema.relation? name = some relation)
    (found : store.tables.get? relation.table = some other) :
    ShowsRelation front name relation other.rows base (store.shownRow schema query base) := by
  have shown : (store.shownRow schema query base).get? name = some (related relation other.rows
      ((front.foldl (store.loadInto schema) base).value relation.localKey)) := by
    rw [get?_shownRow store schema query base name (by simp [cut]), cut]
    exact get?_foldl_loadInto store schema front back base name relation other declared found last
  constructor
  next =>
    intro own
    rw [shown, value_foldl_loadInto_of_not_mem store schema front base _ own]
  next =>
    intro replaced plain
    have earlier : ∀ name ∈ front, store.Loads schema name := fun name member =>
      loads name (by simp [cut, member])
    have nested := isNested_value_foldl_loadInto store schema front base _ replaced earlier
    rw [shown, related_of_isNested relation other.rows _ plain nested]

/-- A query without joins shows each base row with its relations. One whose key no relation before it has
for its name shows the rows of the key that is stored. So the other relations, their order and their
repetitions do not matter to a relation whose key is the name of none. -/
theorem select_loads (store : Store) (name : String) (query : Query) (rows : List Row)
    (unjoined : query.joins = []) (selected : store.select engine name query = .ok rows) :
    ∃ table shown, store.lookup name = .ok table ∧ rows = (baseRows engine table query).map shown ∧
      (∀ base ∈ baseRows engine table query, base ∈ table.rows) ∧
      (∀ front loaded back, query.load = front ++ loaded :: back → loaded ∉ back →
        ∃ relation other, table.schema.relation? loaded = some relation ∧
          store.tables.get? relation.table = some other ∧
          ∀ base, ShowsRelation front loaded relation other.rows base (shown base)) ∧
      ∀ load others, store.select engine name { query with load } = .ok others →
        ∀ loaded relation, loaded ∈ query.load → loaded ∈ load →
          table.schema.relation? loaded = some relation →
          relation.localKey ∉ query.load → relation.localKey ∉ load →
            rows.map (·.get? loaded) = others.map (·.get? loaded) := by
  obtain ⟨table, found, loads, rfl⟩ := select_unjoined engine store name query rows unjoined selected
  refine ⟨table, store.shownRow table.schema query, found, rfl,
    mem_of_mem_baseRows engine table query, ?_, ?_⟩
  next =>
    intro front loaded back cut last
    obtain ⟨relation, other, declared, there⟩ := loads loaded (by simp [cut])
    exact ⟨relation, other, declared, there, fun base => showsRelation_shownRow store table.schema query
      base front back loaded relation other loads cut last declared there⟩
  next =>
    intro load others again loaded relation first second declared apart alike
    obtain ⟨same, looked, loads', rfl⟩ :=
      select_unjoined engine store name { query with load } others unjoined again
    obtain rfl : table = same := Except.ok.inj (found.symm.trans looked)
    have bases : baseRows engine table { query with load } = baseRows engine table query := by
      simp only [baseRows, Selection.ofPlan_plan]
      rfl
    obtain ⟨_, other, known, there⟩ := loads loaded first
    obtain rfl := Option.some.inj (declared.symm.trans known)
    obtain ⟨front, back, cut, last⟩ := exists_last_mention query.load loaded first
    obtain ⟨front', back', cut', last'⟩ := exists_last_mention load loaded second
    rw [bases, List.map_map, List.map_map]
    refine List.map_congr_left fun base _ => ?_
    have left := showsRelation_shownRow store table.schema query base front back loaded relation other
      loads cut last declared there
    have right := showsRelation_shownRow store table.schema { query with load } base front' back' loaded
      relation other loads' cut' last' declared there
    simp only [Function.comp_apply]
    rw [left.own (fun member => apart (by simp [cut, member])),
      right.own (fun member => alike (by simp [cut', member]))]

def teamOf : Relation where
  name := "team"
  table := "teams"
  localKey := "team"
  foreignKey := "id"

def matesOf : Relation where
  name := "mates"
  table := "players"
  localKey := "team"
  foreignKey := "team"
  many := true

def player : Row :=
  [("id", .string "p1"), ("team", .string "t1")]

def playersStore : Store :=
  (empty keyText).applyAll
    [.define { name := "teams" }, .define { name := "players", relations := [teamOf, matesOf] },
      .insert "teams" [("id", .string "t1")], .insert "players" player]

def loading (load : List String) : Query where
  select := ["*"]
  load := load

def playerWith (mates : List Json) : Row :=
  [("id", .string "p1"), ("mates", .array mates), ("team", .object [("id", .string "t1")])]

def playersSchema : Schema where
  name := "players"
  relations := [teamOf, matesOf]

-- One row is sorted and no column is left out, so a selection is the loads.
theorem select_players (load : List String) :
    playersStore.select engine "players" (loading load) =
      load.foldlM (playersStore.loadRelation playersSchema) [player] := by
  have sorted : sortRows [] [player] = [player] := List.mergeSort_singleton player
  have loaded : playersStore.select engine "players" (loading load) =
      load.foldlM (playersStore.loadRelation playersSchema) (sortRows [] [player]) >>= .ok := by
    unfold select
    simp only [Selection.ofPlan_plan]
    rfl
  rw [loaded, sorted]
  exact bind_pure _

theorem select_loads_mates :
    playersStore.select Regex.unlimited "players" (loading ["mates", "team"]) =
        .ok [playerWith [.object player]] ∧
      ∃ base, base ∈ [player] ∧
        ShowsRelation [] "mates" matesOf [player] base (playerWith [.object player]) := by
  have selected : playersStore.select Regex.unlimited "players" (loading ["mates", "team"]) =
      .ok [playerWith [.object player]] := by
    rw [select_players]
    rfl
  obtain ⟨table, shown, found, rows, stored, shows, -⟩ :=
    select_loads Regex.unlimited playersStore "players" (loading ["mates", "team"]) _ rfl selected
  cases found
  obtain ⟨relation, other, declared, there, mates⟩ := shows [] "mates" ["team"] rfl (by decide)
  cases declared
  cases there
  obtain ⟨base, member, row⟩ : ∃ base ∈ baseRows _ _ _, shown base = _ :=
    List.mem_map.mp (rows ▸ List.mem_cons_self)
  exact ⟨selected, base, stored base member, row ▸ mates base⟩

theorem mates_of_hidden_team :
    playersStore.select Regex.unlimited "players" (loading ["team", "mates"]) = .ok [playerWith []] ∧
      (playerWith []).get? "mates" ≠ some (related matesOf [player] (player.value "team")) ∧
      playersStore.select Regex.unlimited "players" (loading ["mates", "team"]) =
        .ok [playerWith [.object player]] := by
  simp only [select_players]
  refine ⟨rfl, ?_, rfl⟩
  intro same
  cases same

end RowGate.Store
