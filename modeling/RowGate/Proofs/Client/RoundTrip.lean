import RowGate.Client.Basic
import RowGate.Proofs.Client.Pairs
import RowGate.Proofs.Text.Percent

set_option autoImplicit false

namespace RowGate.Client

def queryText (client : Client) (resource : String) (builder : Builder) : List Char :=
  (client.queryUrl resource builder).query.getD []

theorem query_push (url : Url) (segment : String) : (url.push segment).query = url.query := by
  unfold Url.push
  split <;> rfl

theorem formPairs_queryText (client : Client) (resource : String) (builder : Builder) :
    Text.Percent.formPairs (client.queryText resource builder) =
      Text.Percent.formPairs (client.base.query.getD []) ++ builder.pairs := by
  have kept : (client.resourceUrl resource none).query = client.base.query :=
    query_push client.base resource
  unfold queryText queryUrl
  dsimp only
  split
  · next none => rw [kept, none, List.append_nil]
  · unfold Url.appendPairs
    dsimp only
    split
    · next absent =>
      rw [← kept, absent]
      exact Text.Percent.formPairs_formText builder.pairs
    · next blank =>
      rw [← kept, blank]
      exact Text.Percent.formPairs_formText builder.pairs
    · next query _ present =>
      rw [← kept, present]
      simp only [Option.getD_some, Text.Percent.formPairs_append, Text.Percent.formPairs_formText]

end RowGate.Client

namespace RowGate.Builder

def Edit.InRange : Edit → Prop
  | .limit rows | .offset rows => leastInteger ≤ rows ∧ rows ≤ greatestInteger
  | .page number size =>
    (leastInteger ≤ number ∧ number ≤ greatestInteger) ∧ leastInteger ≤ size ∧ size ≤ greatestInteger
  | _ => True

instance : DecidablePred Edit.InRange
  | .limit _ | .offset _ | .page _ _ => inferInstanceAs (Decidable (_ ∧ _))
  | .select _ | .load _ | .filter _ _ _ | .group _ _ | .join _ | .order _ | .count =>
    inferInstanceAs (Decidable True)

structure Sound (builder : Builder) : Prop where
  filled : ∀ clause ∈ builder.query.filters, clause.value.isSome = true
  limit : ∀ n ∈ builder.limit, n ≤ greatestInteger
  offset : ∀ n ∈ builder.offset, n ≤ greatestInteger

theorem saturate_le (n : Int) : saturate n ≤ greatestInteger := by
  have order : leastInteger ≤ greatestInteger := by decide
  unfold saturate
  omega

theorem apply_sound (builder : Builder) (edit : Edit) (inRange : edit.InRange)
    (sound : builder.Sound) : (builder.apply edit).Sound := by
  obtain ⟨filled, limit, offset⟩ := sound
  cases edit with
  | select | load | join | order | count => exact ⟨filled, limit, offset⟩
  | group connective clauses => cases connective <;> exact ⟨filled, limit, offset⟩
  | filter column operator value =>
    refine ⟨?_, limit, offset⟩
    intro clause member
    rcases List.mem_append.1 member with old | new
    · exact filled clause old
    · rw [List.mem_singleton.1 new]
      rfl
  | limit rows =>
    refine ⟨filled, ?_, offset⟩
    rintro n ⟨⟩
    exact inRange.2
  | offset rows =>
    refine ⟨filled, limit, ?_⟩
    rintro n ⟨⟩
    exact inRange.2
  | page number size =>
    refine ⟨filled, ?_, ?_⟩
    · rintro n ⟨⟩
      exact inRange.2.2
    · rintro n ⟨⟩
      exact saturate_le _

theorem ofEdits_sound (edits : List Edit) (inRange : ∀ edit ∈ edits, edit.InRange) :
    (ofEdits edits).Sound := by
  have fold (builder : Builder) (sound : builder.Sound) : (edits.foldl apply builder).Sound := by
    induction edits generalizing builder with
    | nil => exact sound
    | cons edit rest ih =>
      apply ih fun other member => inRange other (List.mem_cons_of_mem _ member)
      exact apply_sound builder edit (inRange edit List.mem_cons_self) sound
  exact fold {} ⟨by simp, by simp, by simp⟩

-- A builder whose names stand between the marks of the grammar.
structure Writable (builder : Builder) : Prop where
  items : ∀ item ∈ builder.query.select ++ builder.query.load, Text.IsItem item.toList
  filters : ∀ clause ∈ builder.query.filters, isIdentifier clause.column = true
  groups : ∀ clause ∈ builder.query.andGroup ++ builder.query.orGroup, Groupable clause
  joins : ∀ join ∈ builder.query.joins, ValidJoin join
  order : ∀ order ∈ builder.query.order, isIdentifier order.column = true

instance (builder : Builder) : Decidable builder.Writable :=
  decidable_of_iff
    ((∀ item ∈ builder.query.select ++ builder.query.load, Text.IsItem item.toList) ∧
      (∀ clause ∈ builder.query.filters, isIdentifier clause.column = true) ∧
      (∀ clause ∈ builder.query.andGroup ++ builder.query.orGroup, Groupable clause) ∧
      (∀ join ∈ builder.query.joins, ValidJoin join) ∧
      ∀ order ∈ builder.query.order, isIdentifier order.column = true)
    ⟨fun ⟨items, filters, groups, joins, order⟩ => ⟨items, filters, groups, joins, order⟩,
      fun ⟨items, filters, groups, joins, order⟩ => ⟨items, filters, groups, joins, order⟩⟩

/-- The query of a builder with its values as they arrive; a negative limit or offset is zero. -/
def received (builder : Builder) : Query :=
  { builder.query with
    filters := builder.query.filters.map receivedClause
    andGroup := builder.query.andGroup.map receivedClause
    orGroup := builder.query.orGroup.map receivedClause
    limit := builder.limit.map Int.toNat
    offset := builder.offset.map Int.toNat }

theorem gather_pairs (builder : Builder) (sound : builder.Sound) (writable : builder.Writable) :
    Query.gather {} builder.pairs = .ok builder.received := by
  have most : greatestInteger ≤ maxInteger := by decide
  obtain ⟨items, filters, groups, joins, order⟩ := writable
  have select := gather_selectPair _ fun item member => items item (List.mem_append_left _ member)
  have load := gather_loadPair _ fun item member => items item (List.mem_append_right _ member)
  have andGroup := gather_groupPair .and _ fun clause member =>
    groups clause (List.mem_append_left _ member)
  have orGroup := gather_groupPair .or _ fun clause member =>
    groups clause (List.mem_append_right _ member)
  have limit := gather_limitPair builder.limit fun n member =>
    Int.le_trans (sound.limit n member) most
  have offset := gather_offsetPair builder.offset fun n member =>
    Int.le_trans (sound.offset n member) most
  have shape := Query.gather_append_ok {} select load
  have shape := Query.gather_append_ok {} shape (gather_filterPairs _ filters sound.filled)
  have shape := Query.gather_append_ok {} shape andGroup
  have shape := Query.gather_append_ok {} shape orGroup
  have shape := Query.gather_append_ok {} shape (gather_joinPairs _ joins)
  have shape := Query.gather_append_ok {} shape (gather_orderPairs _ order)
  have shape := Query.gather_append_ok {} shape limit
  have shape := Query.gather_append_ok {} shape offset
  have shape := Query.gather_append_ok {} shape (gather_countPair builder.query.count)
  rw [pairs, shape]
  simp [Query.append, groupPart, addToGroup, received]

theorem ofText_queryText (client : Client) (resource : String) (edits : List Edit)
    (inRange : ∀ edit ∈ edits, edit.InRange) (writable : (ofEdits edits).Writable) :
    (client.base.query.getD [] = [] →
      Query.ofText {} (.ofList (client.queryText resource (ofEdits edits))) =
        .ok (ofEdits edits).received.withDefaultSelect) ∧
    ∃ standing, Query.gather {} (Text.Percent.formPairs (client.base.query.getD [])) = .ok standing ∧
      Query.ofText {} (.ofList (client.queryText resource (ofEdits edits))) =
        .ok (standing.append (ofEdits edits).received).withDefaultSelect := by
  have sent := gather_pairs (ofEdits edits) (ofEdits_sound edits inRange) writable
  obtain ⟨standing, gathered⟩ := Query.gather_lenient {} rfl
    (Text.Percent.formPairs (client.base.query.getD []))
  have read : Query.ofText {} (.ofList (client.queryText resource (ofEdits edits))) =
      .ok (standing.append (ofEdits edits).received).withDefaultSelect := by
    rw [Query.ofText, String.toList_ofList, Client.formPairs_queryText, Query.ofPairs_eq_gather,
      Query.gather_append_ok {} gathered sent]
    rfl
  refine ⟨?_, standing, gathered, read⟩
  intro clean
  rw [clean] at gathered
  cases gathered
  rw [read, Query.empty_append]

def localClient (query : Option String) : Client where
  base :=
    { scheme := "http".toList
      authority := some { host := "localhost".toList, port := some 3000 }
      segments := ["api".toList]
      query := query.map String.toList }

def nestedEdits : List Edit :=
  [.select ["id", "name"], .filter "name" .like "A*, &=(%", .isIn "id" ["(a", "b)"],
    .group .or [⟨"tag", .notIn, some "x,(y,z)"⟩, ⟨"note", .eq, some "f(a,b).é"⟩],
    .join ⟨.left, "teams", "team_id", "id"⟩, .orderBy "name" "DESC", .page 0 10, .count]

theorem ofText_queryText_nested :
    (∀ edit ∈ nestedEdits, edit.InRange) ∧ (ofEdits nestedEdits).Writable ∧
      Query.ofText {} (.ofList ((localClient none).queryText "users" (ofEdits nestedEdits))) =
        .ok (ofEdits nestedEdits).received.withDefaultSelect ∧
      ∃ standing,
        Query.gather {} (Text.Percent.formPairs "limit=5".toList) = .ok standing ∧
          Query.ofText {} (.ofList
              ((localClient (some "limit=5")).queryText "users" (ofEdits nestedEdits))) =
            .ok (standing.append (ofEdits nestedEdits).received).withDefaultSelect :=
  have inRange : ∀ edit ∈ nestedEdits, edit.InRange := by decide
  have writable : (ofEdits nestedEdits).Writable := by decide
  ⟨inRange, writable,
    (ofText_queryText (localClient none) "users" nestedEdits inRange writable).1 rfl,
    (ofText_queryText (localClient (some "limit=5")) "users" nestedEdits inRange writable).2⟩

-- A base URL may carry pairs of its own, and a list loses the blanks outside its parentheses.
theorem ofText_queryText_ne_description :
    (Client.connect "http://localhost:3000?limit=5" = .ok (localClient (some "limit=5")) ∧
      (ofEdits []).Writable ∧ (ofEdits []).limit = none ∧
      Query.ofText {} (.ofList ((localClient (some "limit=5")).queryText "users" (ofEdits []))) =
        .ok { select := ["*"], limit := some 5 }) ∧
    Client.connect "http://localhost:3000" = .ok (localClient none) ∧
      (ofEdits [.isIn "id" [" (a) "]]).Writable ∧
      (ofEdits [.isIn "id" [" (a) "]]).query.filters = [⟨"id", .isIn, some " (a) "⟩] ∧
      Query.ofText {} (.ofList
          ((localClient none).queryText "users" (ofEdits [.isIn "id" [" (a) "]]))) =
        .ok { select := ["*"], filters := [⟨"id", .isIn, some "a"⟩] } := by
  decide +kernel

end RowGate.Builder
