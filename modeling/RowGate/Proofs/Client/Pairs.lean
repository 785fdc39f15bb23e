import Mathlib.Data.List.Basic
import RowGate.Client.Builder
import RowGate.Proofs.Grammar
import RowGate.Proofs.Query.Gather
import RowGate.Proofs.Query.Group

set_option autoImplicit false

namespace RowGate.Builder

def receivedValue (operator : Operator) (value : List Char) : List Char :=
  match operator with
  | .like | .ilike => value.map fun c => if c = '*' then '%' else c
  | .isIn | .notIn => withoutParentheses value
  | _ => value

def receivedClause (clause : Clause) : Clause :=
  { clause with
    value := clause.value.map fun value =>
      String.ofList (receivedValue clause.operator value.toList) }

theorem clauseValue_eq (operator : Operator) (value : List Char) :
    Query.clauseValue operator value = receivedValue operator value := by
  cases operator <;> simp [Query.clauseValue, receivedValue, likePattern, unwrapList_eq]

theorem value?_clauseFragment (column : List Char) (operator : Operator) (value : List Char)
    (valid : isIdentifierText column = true) :
    (Query.clauseFragment column operator value).value? =
      some ⟨.ofList column, operator, some (.ofList (receivedValue operator value))⟩ := by
  rw [Query.value?_clauseFragment column operator value valid, clauseValue_eq]

theorem filterFragment_filterPair (clause : Clause) (valid : isIdentifier clause.column = true) :
    Query.filterFragment (filterPair clause).1.toList (filterPair clause).2.toList =
      Query.clauseFragment clause.column.toList clause.operator (valueText clause).toList := by
  have dotless : '.' ∉ clause.column.toList := not_mem_of_isIdentifierText _ valid '.' (by decide)
  have key : (filterPair clause).1.toList =
      clause.column.toList ++ '.' :: clause.operator.token.toList := by
    simp [filterPair]
  rw [Query.filterFragment, key, Text.cut?_append '.' _ _ dotless]
  dsimp only
  rw [Operator.ofText?_token]
  rfl

theorem addPair_filterPair (clause : Clause) (valid : isIdentifier clause.column = true)
    (filled : clause.value.isSome = true) :
    Query.addPair {} {} (filterPair clause) = .ok { filters := [receivedClause clause] } := by
  obtain ⟨column, operator, value⟩ := clause
  obtain ⟨text, rfl⟩ := Option.isSome_iff_exists.1 filled
  have dotted : '.' ∈ (filterPair ⟨column, operator, some text⟩).1.toList := by simp [filterPair]
  have settled : Fragment.value? (Query.filterFragment
      (filterPair ⟨column, operator, some text⟩).1.toList
      (filterPair ⟨column, operator, some text⟩).2.toList) =
        some (receivedClause ⟨column, operator, some text⟩) := by
    rw [filterFragment_filterPair _ valid, value?_clauseFragment _ _ _ valid]
    simp [receivedClause, valueText]
  simp only [Query.addPair, Key.ofText_of_dot _ dotted, Fragment.settle_lenient, List.filterMap_cons,
    settled]
  rfl

def writtenValue (clause : Clause) : List Char :=
  let value := (valueText clause).toList
  if isMembership clause.operator && !isWrapped value then '(' :: value ++ [')'] else value

theorem memberText_eq (clause : Clause) :
    memberText clause =
      clause.column.toList ++ '.' :: (clause.operator.token.toList ++ '.' :: writtenValue clause) := by
  simp [memberText, writtenValue]

/-- A clause that a group can hold: its value keeps its ends, and no comma of it parts the group. -/
structure Groupable (clause : Clause) : Prop where
  column : isIdentifier clause.column = true
  filled : clause.value.isSome = true
  trimmed : Text.Trimmed (valueText clause).toList
  whole : Group.Whole ',' 0 (writtenValue clause)
  balanced : Group.depthFrom 0 (writtenValue clause) = 0

instance (clause : Clause) : Decidable (Groupable clause) :=
  decidable_of_iff
    (isIdentifier clause.column = true ∧ clause.value.isSome = true ∧
      Text.Trimmed (valueText clause).toList ∧ Group.Whole ',' 0 (writtenValue clause) ∧
      Group.depthFrom 0 (writtenValue clause) = 0)
    ⟨fun ⟨column, filled, trimmed, whole, balanced⟩ => ⟨column, filled, trimmed, whole, balanced⟩,
      fun ⟨column, filled, trimmed, whole, balanced⟩ => ⟨column, filled, trimmed, whole, balanced⟩⟩

theorem mark_not_mem_token (operator : Operator) (mark : Char)
    (special : mark ∈ ['(', ')', ',']) : mark ∉ operator.token.toList := by
  simp only [List.mem_cons, List.not_mem_nil, or_false] at special
  rcases special with rfl | rfl | rfl <;> cases operator <;> decide

theorem isPiece_memberText (clause : Clause) (fits : Groupable clause) :
    Group.IsPiece ',' (memberText clause) := by
  rw [memberText_eq]
  exact Query.isPiece_condition _ _ _ fits.column (mark_not_mem_token clause.operator) fits.whole
    fits.balanced

theorem trimmed_writtenValue (clause : Clause) (fits : Groupable clause) :
    Text.Trimmed (writtenValue clause) := by
  unfold writtenValue
  dsimp only
  split
  · exact trimmed_parentheses _
  · exact fits.trimmed

theorem trimmed_memberText (clause : Clause) (fits : Groupable clause) :
    Text.Trimmed (memberText clause) := by
  rw [memberText_eq]
  exact Query.trimmed_condition _ _ _ fits.column (trimmed_writtenValue clause fits).2

theorem parts?_memberText (clause : Clause) (valid : isIdentifier clause.column = true) :
    Group.parts? (memberText clause) =
      some ⟨clause.column.toList, clause.operator.token.toList, writtenValue clause⟩ := by
  have dotless : '.' ∉ clause.column.toList := not_mem_of_isIdentifierText _ valid '.' (by decide)
  rw [Group.parts?, memberText_eq, Text.cut?_append '.' _ _ dotless]
  generalize writtenValue clause = value
  -- Only `not.in` has two words, and only its token starts like it.
  cases clause.operator <;> simp [Operator.token, Group.negation, Text.cut?]

theorem receivedValue_of_isMembership (operator : Operator) (value : List Char)
    (membership : isMembership operator = true) :
    receivedValue operator value = withoutParentheses value := by
  cases operator with
  | isIn | notIn => rfl
  | _ => cases membership

theorem withoutParentheses_of_bare (value : List Char) (trimmed : Text.Trimmed value)
    (bare : isWrapped value = false) : withoutParentheses value = value := by
  simp only [isWrapped, Bool.and_eq_false_iff, decide_eq_false_iff_not] at bare
  rw [withoutParentheses, Text.trim_eq_self value trimmed, if_neg]
  rintro ⟨opens, closes⟩
  rcases bare with unopened | unclosed
  · exact unopened opens
  · exact unclosed closes

-- A list that gets its parentheses for the group loses them again.
theorem receivedValue_writtenValue (clause : Clause)
    (trimmed : Text.Trimmed (valueText clause).toList) :
    receivedValue clause.operator (writtenValue clause) =
      receivedValue clause.operator (valueText clause).toList := by
  unfold writtenValue
  dsimp only
  split
  · next wraps =>
    simp only [Bool.and_eq_true, Bool.not_eq_true'] at wraps
    rw [receivedValue_of_isMembership _ _ wraps.1, receivedValue_of_isMembership _ _ wraps.1,
      withoutParentheses_parentheses, withoutParentheses_of_bare _ trimmed wraps.2]
  · rfl

theorem groupFragment_memberText (clause : Clause) (fits : Groupable clause) :
    (Query.groupFragment (memberText clause)).value? = some (receivedClause clause) := by
  rw [Query.groupFragment, parts?_memberText clause fits.column]
  dsimp only
  rw [Operator.ofText?_token]
  dsimp only
  rw [value?_clauseFragment _ _ _ fits.column, receivedValue_writtenValue clause fits.trimmed]
  obtain ⟨value, filled⟩ := Option.isSome_iff_exists.1 fits.filled
  simp [receivedClause, valueText, filled]

theorem groupTokens_groupText (clauses : List Clause)
    (fits : ∀ clause ∈ clauses, Groupable clause) :
    Query.groupTokens (groupText clauses).toList = clauses.map memberText := by
  rw [groupText, String.toList_ofList]
  apply Query.groupTokens_join
  · intro text member
    obtain ⟨clause, inside, rfl⟩ := List.mem_map.1 member
    exact isPiece_memberText clause (fits clause inside)
  · intro text member
    obtain ⟨clause, inside, rfl⟩ := List.mem_map.1 member
    exact trimmed_memberText clause (fits clause inside)

theorem settle_groupText (clauses : List Clause) (fits : ∀ clause ∈ clauses, Groupable clause) :
    Fragment.settle .lenient (Query.groupFragments (groupText clauses).toList) =
      .ok (clauses.map receivedClause) := by
  have read : ∀ clause ∈ clauses,
      (Fragment.value? ∘ Query.groupFragment ∘ memberText) clause = (some ∘ receivedClause) clause :=
    fun clause member => groupFragment_memberText clause (fits clause member)
  rw [Fragment.settle_lenient, Query.groupFragments, groupTokens_groupText clauses fits,
    List.map_map, List.filterMap_map, List.filterMap_congr read, List.filterMap_eq_map]

def groupPart (connective : Connective) (clauses : List Clause) : Query :=
  addToGroup {} clauses connective

theorem gather_groupPair (connective : Connective) (clauses : List Clause)
    (fits : ∀ clause ∈ clauses, Groupable clause) :
    Query.gather {} (groupPair connective clauses) =
      .ok (groupPart connective (clauses.map receivedClause)) := by
  unfold groupPair
  split
  · next none =>
    subst none
    cases connective <;> rfl
  · have key : Key.ofText (Key.group connective).text = .group connective := Key.ofText_key connective
    apply Query.gather_singleton
    simp only [Query.addPair, pairOf, key, settle_groupText clauses fits]
    cases connective <;> rfl

theorem names_listText (items : List String)
    (proper : ∀ item ∈ items, Text.IsItem item.toList) : Query.names (listText items) = items := by
  have written : ∀ text ∈ items.map String.toList, Text.IsItem text := by
    intro text member
    obtain ⟨item, inside, rfl⟩ := List.mem_map.1 member
    exact proper item inside
  rw [Query.names, listText, String.toList_ofList, Text.tokens_join _ written, List.map_map]
  exact List.map_id'' (fun item => String.ofList_toList) items

theorem gather_listPair (key : Key) (part : List String → Query) (items : List String)
    (none : part [] = {})
    (read : ∀ value, Query.addPair {} {} (pairOf key value) = .ok (part (Query.names value)))
    (proper : ∀ item ∈ items, Text.IsItem item.toList) :
    Query.gather {} (listPair key items) = .ok (part items) := by
  by_cases empty : items = []
  next =>
    subst empty
    rw [none]
    rfl
  next =>
    rw [listPair, if_neg empty]
    apply Query.gather_singleton
    rw [read, names_listText items proper]

theorem gather_selectPair (columns : List String)
    (proper : ∀ column ∈ columns, Text.IsItem column.toList) :
    Query.gather {} (listPair .select columns) = .ok { select := columns } := by
  have key : Key.ofText Key.select.text = .select := by decide
  refine gather_listPair .select (fun columns => { select := columns }) columns rfl ?_ proper
  intro value
  simp [Query.addPair, pairOf, key]

theorem gather_loadPair (relations : List String)
    (proper : ∀ relation ∈ relations, Text.IsItem relation.toList) :
    Query.gather {} (listPair .load relations) = .ok { load := relations } := by
  have key : Key.ofText Key.load.text = .load := by decide
  refine gather_listPair .load (fun relations => { load := relations }) relations rfl ?_ proper
  intro value
  simp [Query.addPair, pairOf, key]

theorem gather_filterPairs (clauses : List Clause)
    (valid : ∀ clause ∈ clauses, isIdentifier clause.column = true)
    (filled : ∀ clause ∈ clauses, clause.value.isSome = true) :
    Query.gather {} (clauses.map filterPair) = .ok { filters := clauses.map receivedClause } := by
  apply Query.gather_map {} filterPair fun clauses => { filters := clauses.map receivedClause }
  · rfl
  · intro clause rest
    simp [Query.append]
  · intro clause member
    exact addPair_filterPair clause (valid clause member) (filled clause member)

structure ValidJoin (join : Join) : Prop where
  table : isIdentifier join.table = true
  leftKey : isIdentifier join.leftKey = true
  rightKey : isIdentifier join.rightKey = true

instance (join : Join) : Decidable (ValidJoin join) :=
  decidable_of_iff
    (isIdentifier join.table = true ∧ isIdentifier join.leftKey = true ∧
      isIdentifier join.rightKey = true)
    ⟨fun ⟨table, leftKey, rightKey⟩ => ⟨table, leftKey, rightKey⟩,
      fun ⟨table, leftKey, rightKey⟩ => ⟨table, leftKey, rightKey⟩⟩

theorem isItem_joinText (join : Join) (valid : ValidJoin join) :
    Text.IsItem (joinText join).toList := by
  have comma (name : String) (valid : isIdentifier name = true) : ',' ∉ name.toList :=
    not_mem_of_isIdentifierText _ valid ',' (by decide)
  refine ⟨by simp [joinText], ?_, Text.trimmed_of_forall _ ?_⟩
  · simp [joinText, comma _ valid.table, comma _ valid.leftKey, comma _ valid.rightKey]
  · intro c member
    simp only [joinText, String.toList_append, List.mem_append] at member
    rcases member with (((table | colon) | left) | equals) | right
    · exact isBlank_of_mem_identifier _ valid.table c table
    · rw [List.mem_singleton.1 colon]
      decide
    · exact isBlank_of_mem_identifier _ valid.leftKey c left
    · rw [List.mem_singleton.1 equals]
      decide
    · exact isBlank_of_mem_identifier _ valid.rightKey c right

theorem joinFragment_joinText (join : Join) (valid : ValidJoin join) :
    Query.joinFragment join.kind (joinText join).toList = .wellFormed join := by
  have colon : ':' ∉ join.table.toList := not_mem_of_isIdentifierText _ valid.table ':' (by decide)
  have equals : '=' ∉ join.leftKey.toList :=
    not_mem_of_isIdentifierText _ valid.leftKey '=' (by decide)
  have shape : (joinText join).toList = join.table.toList ++ ':' ::
      (join.leftKey.toList ++ '=' :: join.rightKey.toList) := by
    simp [joinText]
  have names : Query.joinNames? (joinText join).toList =
      some (join.table.toList, join.leftKey.toList, join.rightKey.toList) := by
    rw [Query.joinNames?, shape, Text.cut?_append ':' _ _ colon]
    simp only [Option.bind_eq_bind, Option.bind_some, Text.cut?_append '=' _ _ equals,
      trim_identifier _ valid.table, trim_identifier _ valid.leftKey,
      trim_identifier _ valid.rightKey]
  have table : isIdentifierText join.table.toList = true := valid.table
  have leftKey : isIdentifierText join.leftKey.toList = true := valid.leftKey
  have rightKey : isIdentifierText join.rightKey.toList = true := valid.rightKey
  rw [Query.joinFragment, names]
  simp [table, leftKey, rightKey]

theorem tokens_singleton (text : List Char) (proper : Text.IsItem text) :
    Text.tokens ',' text = [text] :=
  Text.tokens_join [text] fun _ member => List.mem_singleton.1 member ▸ proper

theorem gather_joinPairs (joins : List Join) (valid : ∀ join ∈ joins, ValidJoin join) :
    Query.gather {} (joins.map fun join => pairOf (.join join.kind) (joinText join)) =
      .ok { joins } := by
  apply Query.gather_map {} _ fun joins => { joins }
  · rfl
  · intro join rest
    simp [Query.append]
  · intro join member
    have key : Key.ofText (Key.join join.kind).text = .join join.kind := by
      cases join.kind <;> decide
    have fragments : Query.joinFragments join.kind (joinText join).toList = [.wellFormed join] := by
      rw [Query.joinFragments, tokens_singleton _ (isItem_joinText join (valid join member)),
        List.map_singleton, joinFragment_joinText join (valid join member)]
    simp only [Query.addPair, pairOf, key, fragments]
    rfl

theorem isItem_orderText (order : Order) (valid : isIdentifier order.column = true) :
    Text.IsItem (orderText order).toList := by
  have comma : ',' ∉ order.column.toList := not_mem_of_isIdentifierText _ valid ',' (by decide)
  have direction : ',' ∉ order.direction.token.toList := by
    cases order.direction <;> decide
  have bare : (order.direction.token.toList.all fun c => !Text.isBlank c) = true := by
    cases order.direction <;> decide
  refine ⟨by simp [orderText], ?_, Text.trimmed_of_forall _ ?_⟩
  · simp [orderText, comma, direction]
  · intro c member
    simp only [orderText, String.toList_append, List.mem_append] at member
    rcases member with (column | dot) | token
    · exact isBlank_of_mem_identifier _ valid c column
    · rw [List.mem_singleton.1 dot]
      decide
    · simpa using List.all_eq_true.mp bare c token

theorem orderFragment_orderText (order : Order) (valid : isIdentifier order.column = true) :
    Query.orderFragment (orderText order).toList = .wellFormed order := by
  have dotless : '.' ∉ order.column.toList := not_mem_of_isIdentifierText _ valid '.' (by decide)
  have shape : (orderText order).toList =
      order.column.toList ++ '.' :: order.direction.token.toList := by
    simp [orderText]
  have column : isIdentifierText order.column.toList = true := valid
  rw [Query.orderFragment, shape, Text.cut?_append '.' _ _ dotless]
  simp [column, Direction.ofText?_token]

theorem gather_orderPairs (orders : List Order)
    (valid : ∀ order ∈ orders, isIdentifier order.column = true) :
    Query.gather {} (orders.map fun order => pairOf .order (orderText order)) =
      .ok { order := orders } := by
  apply Query.gather_map {} _ fun orders => { order := orders }
  · rfl
  · intro order rest
    simp [Query.append]
  · intro order member
    have key : Key.ofText Key.order.text = .order := by decide
    have fragments : Query.orderFragments (orderText order).toList = [.wellFormed order] := by
      rw [Query.orderFragments, tokens_singleton _ (isItem_orderText order (valid order member)),
        List.map_singleton, orderFragment_orderText order (valid order member)]
    simp only [Query.addPair, pairOf, key, fragments]
    rfl

theorem gather_numberPair (key : Key) (part : Option Nat → Query) (number : Option Int)
    (none : part none = {})
    (read : ∀ value, Query.addPair {} {} (pairOf key value) =
      .ok (part (some (coerceInteger value.toList))))
    (bounded : ∀ n ∈ number, n ≤ maxInteger) :
    Query.gather {} (numberPair key number) = .ok (part (number.map Int.toNat)) := by
  cases number with
  | none =>
    rw [Option.map_none, none]
    rfl
  | some n =>
    apply Query.gather_singleton
    rw [read, coerceInteger_integerText n (bounded n rfl)]
    rfl

theorem gather_limitPair (rows : Option Int) (bounded : ∀ n ∈ rows, n ≤ maxInteger) :
    Query.gather {} (numberPair .limit rows) = .ok { limit := rows.map Int.toNat } := by
  have key : Key.ofText Key.limit.text = .limit := by decide
  refine gather_numberPair .limit (fun limit => { limit }) rows rfl ?_ bounded
  intro value
  simp only [Query.addPair, pairOf, key]
  rfl

theorem gather_offsetPair (rows : Option Int) (bounded : ∀ n ∈ rows, n ≤ maxInteger) :
    Query.gather {} (numberPair .offset rows) = .ok { offset := rows.map Int.toNat } := by
  have key : Key.ofText Key.offset.text = .offset := by decide
  refine gather_numberPair .offset (fun offset => { offset }) rows rfl ?_ bounded
  intro value
  simp only [Query.addPair, pairOf, key]
  rfl

theorem gather_countPair (count : Bool) :
    Query.gather {} (if count then [pairOf .count ""] else []) = .ok { count } := by
  cases count with
  | false => rfl
  | true =>
    have key : Key.ofText Key.count.text = .count := by decide
    apply Query.gather_singleton
    simp only [Query.addPair, pairOf, key]

end RowGate.Builder
