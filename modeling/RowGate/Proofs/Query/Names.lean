import RowGate.Proofs.Outcome
import RowGate.Proofs.Query.Gather

set_option autoImplicit false

namespace RowGate

def IsPlainChar (c : Char) : Prop :=
  ('0' ≤ c ∧ c ≤ '9') ∨ ('A' ≤ c ∧ c ≤ 'Z') ∨ ('a' ≤ c ∧ c ≤ 'z') ∨ c = '_'

def IsPlainName (name : String) : Prop :=
  name ≠ "" ∧ ∀ c ∈ name.toList, IsPlainChar c

theorem isPlainChar_of_isIdentifierChar (c : Char) (valid : isIdentifierChar c = true) :
    IsPlainChar c := by
  delta isIdentifierChar Char.isAlphanum Char.isAlpha Char.isUpper Char.isLower Char.isDigit at valid
  simp only [Bool.or_eq_true, Bool.and_eq_true, decide_eq_true_eq, ge_iff_le] at valid
  rcases valid with ((upper | lower) | digit) | underscore
  next => exact .inr (.inl upper)
  next => exact .inr (.inr (.inl lower))
  next => exact .inl digit
  next => exact .inr (.inr (.inr underscore))

theorem isPlainName_ofList (text : List Char) (valid : isIdentifierText text = true) :
    IsPlainName (.ofList text) := by
  simp only [isIdentifierText, Bool.and_eq_true, List.all_eq_true] at valid
  constructor
  next => simpa using valid.1
  next =>
    intro c member
    rw [String.toList_ofList] at member
    exact isPlainChar_of_isIdentifierChar c (valid.2 c member)

theorem Fragment.eq_of_settle {α : Type} (mode : Mode) (fragments : List (Fragment α))
    (values : List α) (settled : settle mode fragments = .ok values) :
    values = fragments.filterMap value? := by
  cases mode with
  | lenient =>
    rw [settle_lenient] at settled
    exact (Except.ok.inj settled).symm
  | strict =>
    have proper := wellFormed_of_settle_strict fragments values settled
    rw [settle_strict_of_wellFormed fragments proper] at settled
    exact (Except.ok.inj settled).symm

-- A repaired fragment counts as well as one that is well formed.
theorem Fragment.forall_of_settle {α τ : Type} (mode : Mode) (read : τ → Fragment α) (tokens : List τ)
    (values : List α) (settled : settle mode (tokens.map read) = .ok values) (holds : α → Prop)
    (sound : ∀ token value, (read token).value? = some value → holds value) :
    ∀ value ∈ values, holds value := by
  intro value member
  rw [eq_of_settle mode _ values settled, List.mem_filterMap] at member
  obtain ⟨fragment, there, found⟩ := member
  obtain ⟨token, -, rfl⟩ := List.mem_map.mp there
  exact sound token value found

namespace Query

theorem column_of_orderFragment (token : List Char) (order : Order)
    (read : (orderFragment token).value? = some order) : IsPlainName order.column := by
  cases found : Text.cut? '.' token with
  | none =>
    simp only [orderFragment, found] at read
    split at read
    next valid =>
      cases read
      exact isPlainName_ofList token valid
    next => cases read
  | some parts =>
    simp only [orderFragment, found] at read
    split at read
    next valid =>
      split at read <;>
        cases read <;> exact isPlainName_ofList parts.1 valid
    next => cases read

theorem column_of_clauseFragment (column value : List Char) (operator : Operator) (clause : Clause)
    (read : (clauseFragment column operator value).value? = some clause) :
    IsPlainName clause.column := by
  simp only [clauseFragment] at read
  split at read
  next valid =>
    split at read <;>
      cases read <;> exact isPlainName_ofList column valid
  next => cases read

theorem column_of_filterFragment (key value : List Char) (clause : Clause)
    (read : (filterFragment key value).value? = some clause) : IsPlainName clause.column := by
  simp only [filterFragment] at read
  split at read
  next => exact column_of_clauseFragment _ _ _ clause read
  next =>
    split at read
    next => exact column_of_clauseFragment _ _ _ clause read
    next => cases read

theorem column_of_groupFragment (token : List Char) (clause : Clause)
    (read : (groupFragment token).value? = some clause) : IsPlainName clause.column := by
  simp only [groupFragment] at read
  split at read
  next => cases read
  next =>
    split at read
    next => exact column_of_clauseFragment _ _ _ clause read
    next => cases read

theorem names_of_joinFragment (kind : JoinKind) (token : List Char) (join : Join)
    (read : (joinFragment kind token).value? = some join) :
    IsPlainName join.table ∧ IsPlainName join.leftKey ∧ IsPlainName join.rightKey := by
  simp only [joinFragment] at read
  split at read
  next => cases read
  next =>
    split at read
    next => cases read
    next valid =>
      cases read
      simp only [List.find?_eq_none, List.forall_mem_cons, Bool.not_eq_true', Bool.not_eq_false] at valid
      exact ⟨isPlainName_ofList _ valid.1, isPlainName_ofList _ valid.2.1,
        isPlainName_ofList _ valid.2.2.1⟩

structure PlainNames (query : Query) : Prop where
  filters : ∀ clause ∈ query.filters, IsPlainName clause.column
  andGroup : ∀ clause ∈ query.andGroup, IsPlainName clause.column
  orGroup : ∀ clause ∈ query.orGroup, IsPlainName clause.column
  order : ∀ order ∈ query.order, IsPlainName order.column
  joins : ∀ join ∈ query.joins,
    IsPlainName join.table ∧ IsPlainName join.leftKey ∧ IsPlainName join.rightKey

theorem plainNames_empty : ({} : Query).PlainNames := by
  constructor <;> simp

theorem PlainNames.append {first second : Query} (before : first.PlainNames)
    (after : second.PlainNames) : (first.append second).PlainNames where
  filters := List.forall_mem_append.mpr ⟨before.filters, after.filters⟩
  andGroup := List.forall_mem_append.mpr ⟨before.andGroup, after.andGroup⟩
  orGroup := List.forall_mem_append.mpr ⟨before.orGroup, after.orGroup⟩
  order := List.forall_mem_append.mpr ⟨before.order, after.order⟩
  joins := List.forall_mem_append.mpr ⟨before.joins, after.joins⟩

theorem PlainNames.withDefaultSelect {query : Query} (plain : query.PlainNames) :
    query.withDefaultSelect.PlainNames := by
  unfold Query.withDefaultSelect
  split
  next => exact ⟨plain.filters, plain.andGroup, plain.orGroup, plain.order, plain.joins⟩
  next => exact plain

theorem filters_withDefaultSelect (query : Query) :
    query.withDefaultSelect.filters = query.filters := by
  unfold Query.withDefaultSelect
  split <;> rfl

theorem ofText_ne_filter (text key : String) (reserved : isReserved text = true) :
    Key.ofText text ≠ .filter key := by
  obtain ⟨known, member, spelled⟩ := List.any_eq_true.mp reserved
  have finite : ∀ known ∈ Key.reserved, known ≠ .filter key := by simp [Key.reserved]
  cases found : Key.reserved.find? (·.text = text) with
  | none => exact absurd spelled (List.find?_eq_none.mp found known member)
  | some first =>
    rw [Key.ofText, found]
    exact finite first (List.mem_of_find?_eq_some found)

section

variable (options : GrammarOptions) (text value : String)

theorem names_of_group (connective : Connective) (part : Query)
    (key : Key.ofText text = .group connective)
    (added : addPair options {} (text, value) = .ok part) :
    part.PlainNames ∧ part.filters = [] := by
  simp only [addPair, key] at added
  split at added
  next =>
    obtain ⟨clauses, settled, put⟩ := (bind_eq_ok_iff _ _ _).mp added
    have names : ∀ clause ∈ clauses, IsPlainName clause.column :=
      Fragment.forall_of_settle _ _ _ clauses settled _ column_of_groupFragment
    cases connective with
    | and =>
      cases put
      exact ⟨{ plainNames_empty with andGroup := names }, rfl⟩
    | or =>
      cases put
      exact ⟨{ plainNames_empty with orGroup := names }, rfl⟩
  next =>
    cases added
    exact ⟨{ plainNames_empty with }, rfl⟩

theorem names_of_join (kind : JoinKind) (part : Query) (key : Key.ofText text = .join kind)
    (added : addPair options {} (text, value) = .ok part) :
    part.PlainNames ∧ part.filters = [] := by
  simp only [addPair, key] at added
  split at added
  next =>
    obtain ⟨joins, settled, put⟩ := (bind_eq_ok_iff _ _ _).mp added
    cases put
    have names : ∀ join ∈ joins,
        IsPlainName join.table ∧ IsPlainName join.leftKey ∧ IsPlainName join.rightKey :=
      Fragment.forall_of_settle _ _ _ joins settled _ (names_of_joinFragment kind)
    exact ⟨{ plainNames_empty with joins := names }, rfl⟩
  next =>
    cases added
    exact ⟨{ plainNames_empty with }, rfl⟩

end

-- What one pair adds to a query, key by key.
theorem addPair_names (options : GrammarOptions) (pair : String × String) (part : Query)
    (added : addPair options {} pair = .ok part) :
    part.PlainNames ∧ (isReserved pair.1 = true → part.filters = []) := by
  obtain ⟨text, value⟩ := pair
  have read := added
  simp only [addPair] at read
  cases key : Key.ofText text with
  | select | load | count =>
    rw [key] at read
    cases read
    exact ⟨{ plainNames_empty with }, fun _ => rfl⟩
  | limit | offset =>
    rw [key] at read
    obtain ⟨number, -, put⟩ := (bind_eq_ok_iff _ _ _).mp read
    cases put
    exact ⟨{ plainNames_empty with }, fun _ => rfl⟩
  | order =>
    rw [key] at read
    obtain ⟨orders, settled, put⟩ := (bind_eq_ok_iff _ _ _).mp read
    cases put
    have names : ∀ order ∈ orders, IsPlainName order.column :=
      Fragment.forall_of_settle _ _ _ orders settled _ column_of_orderFragment
    exact ⟨{ plainNames_empty with order := names }, fun _ => rfl⟩
  | group connective =>
    obtain ⟨names, silent⟩ := names_of_group options text value connective part key added
    exact ⟨names, fun _ => silent⟩
  | join kind =>
    obtain ⟨names, silent⟩ := names_of_join options text value kind part key added
    exact ⟨names, fun _ => silent⟩
  | filter name =>
    rw [key] at read
    obtain ⟨clauses, settled, put⟩ := (bind_eq_ok_iff _ _ _).mp read
    cases put
    have names : ∀ clause ∈ clauses, IsPlainName clause.column :=
      Fragment.forall_of_settle _ (filterFragment name.toList) [value.toList] clauses settled _
        (column_of_filterFragment name.toList)
    exact ⟨{ plainNames_empty with filters := names },
      fun reserved => absurd key (ofText_ne_filter text name reserved)⟩

def unreserved (pairs : List (String × String)) : List (String × String) :=
  pairs.filter fun pair => !isReserved pair.1

theorem gather_names (options : GrammarOptions) (pairs : List (String × String)) (query : Query)
    (gathered : gather options pairs = .ok query) :
    query.PlainNames ∧ ∃ plain, gather options (unreserved pairs) = .ok plain ∧
      plain.filters = query.filters := by
  induction pairs generalizing query with
  | nil =>
    cases gathered
    exact ⟨plainNames_empty, {}, rfl, rfl⟩
  | cons pair rest ih =>
    obtain ⟨part, others, added, more, rfl⟩ := (gather_cons_eq_ok_iff _ _ _ _).mp gathered
    obtain ⟨named, silent⟩ := addPair_names options pair part added
    obtain ⟨names, plain, taken, same⟩ := ih others more
    refine ⟨named.append names, ?_⟩
    cases reserved : isReserved pair.1 with
    | true =>
      have skipped : unreserved (pair :: rest) = unreserved rest := by simp [unreserved, reserved]
      exact ⟨plain, skipped ▸ taken, by simp [append, silent reserved, same]⟩
    | false =>
      have kept : unreserved (pair :: rest) = pair :: unreserved rest := by simp [unreserved, reserved]
      refine ⟨part.append plain, ?_, by simp [append, same]⟩
      exact kept ▸ (gather_cons_eq_ok_iff _ _ _ _).mpr ⟨part, plain, added, taken, rfl⟩

structure Vetted (options : GrammarOptions) (pairs : List (String × String)) (query : Query) : Prop where
  names : query.PlainNames
  filters : ∃ plain, ofPairs options (unreserved pairs) = .ok plain ∧ plain.filters = query.filters

theorem ofPairs_vetted (options : GrammarOptions) (pairs : List (String × String)) (query : Query)
    (parsed : ofPairs options pairs = .ok query) : Vetted options pairs query := by
  rw [ofPairs_eq_gather] at parsed
  cases gathered : gather options pairs with
  | error fault => simp [gathered, Except.map] at parsed
  | ok found =>
    rw [gathered] at parsed
    cases parsed
    obtain ⟨names, plain, taken, same⟩ := gather_names options pairs found gathered
    refine ⟨names.withDefaultSelect, plain.withDefaultSelect, ?_, ?_⟩
    next =>
      rw [ofPairs_eq_gather, taken]
      rfl
    next => simp only [filters_withDefaultSelect, same]

/-- Parsing lets no other names through, from decoded pairs or from a query string, whatever the options
are, and takes no filter from a pair with a reserved key. -/
theorem parsed_names (options : GrammarOptions) :
    (∀ pairs query, ofPairs options pairs = .ok query → Vetted options pairs query) ∧
    ∀ text query, ofText options text = .ok query →
      Vetted options (Text.Percent.formPairs text.toList) query := by
  constructor
  next => exact ofPairs_vetted options
  next =>
    intro text query parsed
    exact ofPairs_vetted options (Text.Percent.formPairs text.toList) query parsed

-- Each list names a column or a table that is no identifier, beside one that is.
def hostileText : String :=
  "a%3B.eq=1&order=b-c,age.DESC&or=(d%20.eq.1,age.gt.3)&select.like=x*&join=p q:a=b,t:+a=b"

def hostileQuery : Query where
  select := ["*"]
  filters := [⟨"select", .like, some "x%"⟩]
  orGroup := [⟨"age", .gt, some "3"⟩]
  joins := [⟨.inner, "t", "a", "b"⟩]
  order := [⟨"age", .desc⟩]

theorem parsed_names_hostile :
    ofText {} hostileText = .ok hostileQuery ∧ hostileQuery.PlainNames ∧
      ofPairs { mode := .strict } [("limit", "5"), ("age.is", "Null")] =
        .ok { select := ["*"], filters := [⟨"age", .is, some "Null"⟩], limit := some 5 } ∧
      Vetted { mode := .strict } [("limit", "5"), ("age.is", "Null")]
        { select := ["*"], filters := [⟨"age", .is, some "Null"⟩], limit := some 5 } := by
  have read : ofText {} hostileText = .ok hostileQuery := by rfl
  exact ⟨read, ((parsed_names {}).2 hostileText hostileQuery read).names, rfl,
    (parsed_names { mode := .strict }).1 _ _ rfl⟩

end Query

end RowGate
