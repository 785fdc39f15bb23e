import RowGate.Proofs.Client.RoundTrip
import RowGate.Proofs.Query.Syntax

set_option autoImplicit false

namespace RowGate

theorem tokens_ne_of_shorter (items : List (List Char)) (text : List Char)
    (shorter : text.length < (Text.join ',' items).length) : Text.tokens ',' text ≠ items := by
  intro same
  have bound := Text.length_join_tokens_le ',' text
  rw [same] at bound
  omega

def looseItems (items : List (List Char)) : List (List Char) :=
  let text := Text.join ',' items
  if text.head? = some '(' then Text.tokens ',' text.tail
  else if text.getLast? = some ')' then Text.tokens ',' text.dropLast
  else items

theorem listItems_join (items : List (List Char)) (proper : ∀ item ∈ items, Text.IsItem item)
    (bare : Builder.isWrapped (Text.join ',' items) = false) :
    listItems (Text.join ',' items) = looseItems items := by
  have whole := Text.trim_eq_self _ (Text.trimmed_join items proper)
  have back := Text.tokens_join items proper
  simp only [Builder.isWrapped, Bool.and_eq_false_iff, decide_eq_false_iff_not] at bare
  unfold listItems looseItems
  dsimp only
  rw [whole]
  generalize Text.join ',' items = text at bare back
  cases text with
  | nil => exact back
  | cons c rest =>
    by_cases opens : c = '('
    next =>
      subst opens
      have open' : rest.getLast? ≠ some ')' := by
        intro closes
        have last : ('(' :: rest).getLast? = some ')' := by simp [List.getLast?_cons, closes]
        exact bare.elim (fun head => head rfl) fun unclosed => unclosed last
      simp [dropOpening, dropClosing, open']
    next =>
      have kept : dropOpening (c :: rest) = c :: rest := by
        unfold dropOpening
        split
        next more shape =>
          simp only [List.cons.injEq] at shape
          exact absurd shape.1 opens
        next => rfl
      rw [kept, dropClosing]
      simp only [List.head?_cons, Option.some.injEq, opens, if_false]
      split
      next => rfl
      next => exact back

theorem looseItems_eq_iff (items : List (List Char)) :
    looseItems items = items ↔
      (Text.join ',' items).head? ≠ some '(' ∧ (Text.join ',' items).getLast? ≠ some ')' := by
  unfold looseItems
  dsimp only
  split
  next opens =>
    have filled : Text.join ',' items ≠ [] := by
      intro none
      simp [none] at opens
    have shorter : (Text.join ',' items).tail.length < (Text.join ',' items).length := by
      have positive := List.length_pos_of_ne_nil filled
      rw [List.length_tail]
      omega
    simp [tokens_ne_of_shorter items _ shorter, opens]
  next unopened =>
    split
    next closes =>
      have filled : Text.join ',' items ≠ [] := by
        intro none
        simp [none] at closes
      have shorter : (Text.join ',' items).dropLast.length < (Text.join ',' items).length := by
        have positive := List.length_pos_of_ne_nil filled
        rw [List.length_dropLast]
        omega
      simp [tokens_ne_of_shorter items _ shorter, closes]
    next unclosed => simp [unopened, unclosed]

namespace Builder

theorem settle_filterPair (mode : Mode) (clause : Clause) (valid : isIdentifier clause.column = true)
    (membership : isMembership clause.operator = true) (filled : clause.value.isSome = true) :
    Fragment.settle mode [Query.filterFragment (filterPair clause).1.toList (filterPair clause).2.toList] =
      .ok [receivedClause clause] := by
  obtain ⟨column, operator, value⟩ := clause
  obtain ⟨text, rfl⟩ := Option.isSome_iff_exists.1 filled
  have known : operator ≠ .is := by
    rintro rfl
    cases membership
  have read : Query.clauseFragment column.toList operator text.toList =
      .wellFormed (receivedClause ⟨column, operator, some text⟩) := by
    rw [Query.clauseFragment_eq_wellFormed_iff]
    refine ⟨valid, fun is => absurd is known, ?_⟩
    simp [receivedClause, clauseValue_eq]
  rw [filterFragment_filterPair _ valid]
  change Fragment.settle mode [Query.clauseFragment column.toList operator text.toList] = _
  rw [read]
  rfl

theorem gather_filterPair (options : GrammarOptions) (clause : Clause)
    (valid : isIdentifier clause.column = true) (membership : isMembership clause.operator = true)
    (filled : clause.value.isSome = true) :
    Query.gather options [filterPair clause] = .ok { filters := [receivedClause clause] } := by
  have dotted : '.' ∈ (filterPair clause).1.toList := by simp [filterPair]
  apply Query.gather_singleton
  simp only [Query.addPair, Key.ofText_of_dot _ dotted,
    settle_filterPair options.mode clause valid membership filled]
  rfl

/-- Reading what a client sends for one edit makes this test on this column, and nothing else. -/
def Arrives (options : GrammarOptions) (client : Client) (resource : String) (edit : Edit)
    (column : String) (predicate : Predicate) : Prop :=
  ∃ clause, Query.ofText options (.ofList (client.queryText resource (ofEdits [edit]))) =
      .ok { select := ["*"], filters := [clause] } ∧
    clause.column = column ∧ Predicate.ofClause? clause = some predicate

theorem ofText_filter (options : GrammarOptions) (client : Client) (resource : String)
    (clean : client.base.query.getD [] = []) (column : String) (operator : Operator) (value : String)
    (valid : isIdentifier column = true) (membership : isMembership operator = true) :
    Query.ofText options (.ofList (client.queryText resource (ofEdits [.filter column operator value]))) =
      .ok { select := ["*"], filters := [receivedClause ⟨column, operator, some value⟩] } := by
  let clause : Clause := ⟨column, operator, some value⟩
  have pairs : Text.Percent.formPairs
      (client.queryText resource (ofEdits [.filter column operator value])) = [filterPair clause] := by
    rw [Client.formPairs_queryText, clean]
    rfl
  have gathered := gather_filterPair options clause valid membership rfl
  rw [Query.ofText, String.toList_ofList, pairs, Query.ofPairs_eq_gather, gathered]
  rfl

theorem receivedClause_listText (column : String) (operator : Operator) (items : List String)
    (membership : isMembership operator = true) (proper : ∀ item ∈ items, Text.IsItem item.toList)
    (bare : isWrapped (listText items).toList = false) :
    receivedClause ⟨column, operator, some (listText items)⟩ =
      ⟨column, operator, some (listText items)⟩ := by
  have written : ∀ text ∈ items.map String.toList, Text.IsItem text := by
    intro text member
    obtain ⟨item, inside, rfl⟩ := List.mem_map.1 member
    exact proper item inside
  have trimmed : Text.Trimmed (listText items).toList := by
    rw [listText, String.toList_ofList]
    exact Text.trimmed_join _ written
  simp only [receivedClause, Option.map_some, receivedValue_of_isMembership _ _ membership,
    withoutParentheses_of_bare _ trimmed bare, String.ofList_toList]

theorem map_ofList_toList (texts : List (List Char)) :
    (texts.map String.ofList).map String.toList = texts := by
  rw [List.map_map]
  exact List.map_id'' (fun text => String.toList_ofList) texts

/-- A list in neither parenthesis arrives item by item, whether it is asked for or against; one that
opens or ends with a single parenthesis arrives without it, and never as it was. -/
theorem arrives_membership (options : GrammarOptions) (client : Client) (resource column : String)
    (items : List String) (clean : client.base.query.getD [] = [])
    (valid : isIdentifier column = true) (proper : ∀ item ∈ items, Text.IsItem item.toList)
    (bare : isWrapped (listText items).toList = false) :
    ∃ kept : List String,
      Arrives options client resource (.isIn column items) column (.isIn kept) ∧
      Arrives options client resource (.notIn column items) column (.notIn kept) ∧
      kept.map String.toList = looseItems (items.map String.toList) ∧
      (kept = items ↔
        (listText items).toList.head? ≠ some '(' ∧ (listText items).toList.getLast? ≠ some ')') := by
  have written : ∀ text ∈ items.map String.toList, Text.IsItem text := by
    intro text member
    obtain ⟨item, inside, rfl⟩ := List.mem_map.1 member
    exact proper item inside
  have joined : (listText items).toList = Text.join ',' (items.map String.toList) := by
    rw [listText, String.toList_ofList]
  have read : listItems (listText items).toList = looseItems (items.map String.toList) := by
    rw [joined] at bare ⊢
    exact listItems_join _ written bare
  have isIn := ofText_filter options client resource clean column .isIn (listText items) valid rfl
  have notIn := ofText_filter options client resource clean column .notIn (listText items) valid rfl
  rw [receivedClause_listText column _ items rfl proper bare] at isIn notIn
  refine ⟨(looseItems (items.map String.toList)).map .ofList, ⟨_, isIn, rfl, ?_⟩, ⟨_, notIn, rfl, ?_⟩,
    map_ofList_toList _, ?_⟩
  next => rw [← read]; rfl
  next => rw [← read]; rfl
  next =>
    rw [joined, ← looseItems_eq_iff]
    constructor
    next =>
      intro same
      have lists := congrArg (List.map String.toList) same
      rwa [map_ofList_toList] at lists
    next =>
      intro same
      rw [same, List.map_map]
      exact List.map_id'' (fun item => String.ofList_toList) items

theorem arrives_membership_words :
    Arrives {} (localClient none) "users" (.isIn "status" ["on hold", "f(x)", "é"]) "status"
        (.isIn ["on hold", "f(x)", "é"]) ∧
      Arrives { mode := .strict } (localClient none) "users" (.notIn "status" ["on hold", "f(x)", "é"])
        "status" (.notIn ["on hold", "f(x)", "é"]) := by
  have proper : ∀ item ∈ ["on hold", "f(x)", "é"], Text.IsItem item.toList := by decide
  obtain ⟨kept, isIn, -, -, same⟩ := arrives_membership {} (localClient none) "users" "status"
    ["on hold", "f(x)", "é"] rfl (by decide) proper (by decide)
  obtain rfl := same.mpr (by decide)
  obtain ⟨kept, -, notIn, -, same⟩ := arrives_membership { mode := .strict } (localClient none) "users"
    "status" ["on hold", "f(x)", "é"] rfl (by decide) proper (by decide)
  obtain rfl := same.mpr (by decide)
  exact ⟨isIn, notIn⟩

theorem not_arrives_unclosed :
    (∀ item ∈ ["(a", "b"], Text.IsItem item.toList) ∧
      isWrapped (listText ["(a", "b"]).toList = false ∧
      ¬Arrives {} (localClient none) "users" (.isIn "status" ["(a", "b"]) "status"
        (.isIn ["(a", "b"]) := by
  refine ⟨by decide, by decide, ?_⟩
  rintro ⟨clause, read, -, predicate⟩
  have sent : Query.ofText {} (.ofList
      ((localClient none).queryText "users" (ofEdits [.isIn "status" ["(a", "b"]]))) =
        .ok { select := ["*"], filters := [⟨"status", .isIn, some "(a,b"⟩] } := by
    decide +kernel
  rw [sent] at read
  cases read
  exact absurd predicate (by decide)

end Builder

end RowGate
