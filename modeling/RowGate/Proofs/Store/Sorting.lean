import RowGate.Proofs.Store.Order
import RowGate.Proofs.Store.Paging
import RowGate.Regex.Tabular

set_option autoImplicit false

namespace RowGate

-- The query asks for whole rows, all of them: it cuts no page, loads no relation, selects no
-- column.
structure Query.Whole (query : Query) : Prop where
  limit : query.limit = none
  offset : query.offset = none
  load : query.load = []
  select : query.select = [] ∨ "*" ∈ query.select

namespace Store

section

variable {α : Type}

def tiesWith (cmp : α → α → Ordering) (item other : α) : Bool :=
  cmp item other == .eq

/-- The same items in ascending order, where those that tie stay in the order they had. -/
structure StableSort (cmp : α → α → Ordering) (items sorted : List α) : Prop where
  perm : sorted.Perm items
  ascending : sorted.Pairwise fun earlier later => (cmp earlier later).isLE = true
  stable : ∀ item, sorted.filter (tiesWith cmp item) = items.filter (tiesWith cmp item)

variable {cmp : α → α → Ordering} [Std.TransCmp cmp]

theorem isLE_total (left right : α) : ((cmp left right).isLE || (cmp right left).isLE) = true := by
  have turned : cmp right left = (cmp left right).swap := Std.OrientedCmp.eq_swap
  rw [turned]
  cases cmp left right <;> rfl

theorem eq_of_isLE (left right : α) (first : (cmp left right).isLE = true)
    (second : (cmp right left).isLE = true) : cmp left right = .eq := by
  have turned : cmp right left = (cmp left right).swap := Std.OrientedCmp.eq_swap
  rw [turned] at second
  cases outcome : cmp left right <;> simp_all

theorem isLE_of_ties (item left right : α) (first : tiesWith cmp item left = true)
    (second : tiesWith cmp item right = true) : (cmp left right).isLE = true := by
  have turned : cmp left item = .eq := Std.OrientedCmp.eq_symm (eq_of_beq first)
  rw [Std.TransCmp.congr_left turned, eq_of_beq second]
  rfl

theorem stableSort_mergeSort (items : List α) :
    StableSort cmp items (items.mergeSort fun left right => (cmp left right).isLE) where
  perm := List.mergeSort_perm _ _
  ascending := List.pairwise_mergeSort (fun _ _ _ => Std.TransCmp.isLE_trans) isLE_total items
  stable item := by
    have ties : (items.filter (tiesWith cmp item)).Pairwise fun earlier later =>
        (cmp earlier later).isLE = true :=
      List.pairwise_of_forall_mem_list fun left first right second =>
        isLE_of_ties item left right (List.mem_filter.mp first).2 (List.mem_filter.mp second).2
    have kept := (List.sublist_mergeSort (fun _ _ _ => Std.TransCmp.isLE_trans) isLE_total ties
      List.filter_sublist).filter (tiesWith cmp item)
    rw [List.filter_filter] at kept
    simp only [Bool.and_self] at kept
    exact (kept.eq_of_length ((List.mergeSort_perm items _).filter _).length_eq.symm).symm

theorem head_isLE (least other : α) (rest : List α)
    (ascending : (least :: rest).Pairwise fun earlier later => (cmp earlier later).isLE = true)
    (member : other ∈ least :: rest) : (cmp least other).isLE = true := by
  rcases List.mem_cons.mp member with rfl | later
  next => exact Std.ReflCmp.isLE_rfl
  next => exact List.rel_of_pairwise_cons ascending later

-- The first items of both lists tie, and of the items that tie with them both lists have the same first.
theorem eq_of_ascending (first second : List α) (perm : first.Perm second)
    (left : first.Pairwise fun earlier later => (cmp earlier later).isLE = true)
    (right : second.Pairwise fun earlier later => (cmp earlier later).isLE = true)
    (ties : ∀ item, first.filter (tiesWith cmp item) = second.filter (tiesWith cmp item)) :
    first = second := by
  induction first generalizing second with
  | nil => exact perm.nil_eq
  | cons least rest ih =>
    cases second with
    | nil => exact perm.eq_nil
    | cons other others =>
      have tie : tiesWith cmp least other = true := by
        refine beq_iff_eq.mpr (eq_of_isLE least other ?_ ?_)
        next => exact head_isLE least other rest left (perm.mem_iff.mpr List.mem_cons_self)
        next => exact head_isLE other least others right (perm.mem_iff.mp List.mem_cons_self)
      have self : tiesWith cmp least least = true := beq_iff_eq.mpr Std.ReflCmp.compare_self
      obtain rfl : least = other := by
        have same := ties least
        rw [List.filter_cons_of_pos self, List.filter_cons_of_pos tie] at same
        exact (List.cons.inj same).1
      rw [ih others perm.cons_inv left.of_cons right.of_cons fun item => ?_]
      have same := ties item
      by_cases found : tiesWith cmp item least = true
      next =>
        rw [List.filter_cons_of_pos found, List.filter_cons_of_pos found] at same
        exact (List.cons.inj same).2
      next => rwa [List.filter_cons_of_neg found, List.filter_cons_of_neg found] at same

theorem StableSort.unique {items first second : List α} (left : StableSort cmp items first)
    (right : StableSort cmp items second) : first = second :=
  eq_of_ascending first second (left.perm.trans right.perm.symm) left.ascending right.ascending
    fun item => (left.stable item).trans (right.stable item).symm

end

theorem StableSort.nulls_last {before after : List Order} {column : String} {rows sorted : List Row}
    (order : StableSort (compareRows (before ++ ⟨column, .asc⟩ :: after)) rows sorted) :
    sorted.Pairwise fun earlier later => compareRows before earlier later = .eq →
      (earlier.value column).isNull = true → (later.value column).isNull = true := by
  refine order.ascending.imp fun {earlier later} ascending tie null => ?_
  rw [compareRows_append, tie, Ordering.eq_then, compareRows, compareBy] at ascending
  by_contra some
  rw [Bool.not_eq_true] at some
  have none : earlier.value column = .null := by
    cases shape : earlier.value column <;> simp_all [Json.isNull]
  rw [none, compareValues_null _ some] at ascending
  cases ascending

theorem arrange_whole (store : Store) (schema : Schema) (query : Query) (working : Working)
    (rows : List Row) (whole : query.Whole)
    (arranged : store.arrange schema (.ofPlan query.plan) working = .ok rows) :
    rows = sortRows query.order working.rows := by
  rw [Selection.ofPlan_plan] at arranged
  obtain ⟨loaded, -, loads, result⟩ := arrange_cases store schema _ working rows arranged
  simp only [whole.load, List.foldlM_nil, page, whole.limit, whole.offset] at loads
  cases loads
  rcases result with ⟨-, rfl⟩ | ⟨some, -, -⟩
  next => rfl
  next =>
    have all : (query.select.isEmpty || query.select.contains "*") = true := by
      simpa using whole.select
    cases all.symm.trans some

/-- The values are in a total preorder whatever their kinds, and so are the rows by any orders. A query
without page, relations and columns gives the stable sort of the rows that were joined and filtered, with
the nulls of an ascending column last. -/
theorem select_sorted :
    Std.TransCmp compareValues ∧ (∀ orders, Std.TransCmp (compareRows orders)) ∧
    ∀ (engine : Regex.Engine) (store : Store) (name : String) (query : Query) (rows : List Row),
      query.Whole →
      store.select engine name query = .ok rows →
      ∃ table working, store.lookup name = .ok table ∧
        store.matching engine table (.ofPlan query.plan) = .ok working ∧
        StableSort (compareRows query.order) working.rows rows ∧
        (∀ sorted, StableSort (compareRows query.order) working.rows sorted → sorted = rows) ∧
        ∀ before column after, query.order = before ++ ⟨column, .asc⟩ :: after →
          rows.Pairwise fun earlier later => compareRows before earlier later = .eq →
            (earlier.value column).isNull = true → (later.value column).isNull = true := by
  refine ⟨inferInstance, inferInstance, ?_⟩
  intro engine store name query rows whole selected
  obtain ⟨table, working, found, matched, arranged⟩ := select_cases engine store name query rows selected
  have sorted : StableSort (compareRows query.order) working.rows rows := by
    rw [store.arrange_whole table.schema query working rows whole arranged]
    exact stableSort_mergeSort working.rows
  refine ⟨table, working, found, matched, sorted, fun other same => same.unique sorted, ?_⟩
  intro before column after orders
  rw [orders] at sorted
  exact sorted.nulls_last

def scored (id group : String) (score : Json) : Row :=
  [("group", .string group), ("id", .string id), ("score", score)]

def unscored : Row :=
  [("group", .string "red"), ("id", .string "b")]

def scoresTable : Table where
  schema := { name := "scores" }
  rows :=
    [scored "a" "red" (.number (.integer 10)), unscored, scored "c" "blue" (.number (.integer 1)),
      scored "d" "grey" .null, scored "e" "red" (.string "9")]

def scoresStore : Store where
  newKey := keyText
  tables := [("scores", scoresTable)]

def byGroup : Query where
  select := ["*"]
  filters := [⟨"group", .neq, some "grey"⟩]
  order := [⟨"group", .desc⟩, ⟨"score", .asc⟩]

def scoresLeft : List Row :=
  [scored "a" "red" (.number (.integer 10)), unscored, scored "c" "blue" (.number (.integer 1)),
    scored "e" "red" (.string "9")]

def scoresInOrder : List Row :=
  [scored "e" "red" (.string "9"), scored "a" "red" (.number (.integer 10)), unscored,
    scored "c" "blue" (.number (.integer 1))]

theorem sortRows_scores : sortRows byGroup.order scoresLeft = scoresInOrder := by
  have first : (compareRows byGroup.order (scored "a" "red" (.number (.integer 10))) unscored).isLE =
      true := by decide +kernel
  have second : (compareRows byGroup.order (scored "c" "blue" (.number (.integer 1)))
      (scored "e" "red" (.string "9"))).isLE = false := by decide +kernel
  have third : (compareRows byGroup.order (scored "a" "red" (.number (.integer 10)))
      (scored "e" "red" (.string "9"))).isLE = false := by decide +kernel
  have fourth : (compareRows byGroup.order (scored "a" "red" (.number (.integer 10)))
      (scored "c" "blue" (.number (.integer 1)))).isLE = true := by decide +kernel
  have fifth : (compareRows byGroup.order unscored
      (scored "c" "blue" (.number (.integer 1)))).isLE = true := by decide +kernel
  simp [sortRows, scoresLeft, scoresInOrder, List.mergeSort, List.MergeSort.Internal.splitInTwo,
    first, second, third, fourth, fifth]

theorem matching_scores :
    scoresStore.matching Regex.unlimited scoresTable (.ofPlan byGroup.plan) = .ok ⟨none, scoresLeft⟩ :=
  rfl

theorem select_sorted_scores :
    byGroup.Whole ∧ scoresStore.select Regex.unlimited "scores" byGroup = .ok scoresInOrder ∧
      StableSort (compareRows byGroup.order) scoresLeft scoresInOrder ∧
      scoresInOrder.Pairwise fun earlier later =>
        compareRows [⟨"group", .desc⟩] earlier later = .eq →
          (earlier.value "score").isNull = true → (later.value "score").isNull = true := by
  have whole : byGroup.Whole := ⟨rfl, rfl, rfl, .inr List.mem_cons_self⟩
  have selected : scoresStore.select Regex.unlimited "scores" byGroup = .ok scoresInOrder := by
    have looked : scoresStore.lookup "scores" = .ok scoresTable := rfl
    simp only [select, looked, bind, Except.bind, matching_scores]
    exact congrArg Except.ok sortRows_scores
  obtain ⟨-, -, sorts⟩ := select_sorted
  obtain ⟨table, working, found, matched, sorted, -, nulls⟩ :=
    sorts Regex.unlimited scoresStore "scores" byGroup scoresInOrder whole selected
  cases found
  cases matching_scores.symm.trans matched
  exact ⟨whole, selected, sorted, nulls [⟨"group", .desc⟩] "score" [] rfl⟩

end Store

end RowGate
