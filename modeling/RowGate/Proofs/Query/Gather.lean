import RowGate.Query.Parse

set_option autoImplicit false

namespace RowGate.Query

def append (first second : Query) : Query where
  select := first.select ++ second.select
  load := first.load ++ second.load
  filters := first.filters ++ second.filters
  andGroup := first.andGroup ++ second.andGroup
  orGroup := first.orGroup ++ second.orGroup
  joins := first.joins ++ second.joins
  order := first.order ++ second.order
  limit := second.limit.or first.limit
  offset := second.offset.or first.offset
  count := first.count || second.count

@[simp] theorem append_empty (query : Query) : query.append {} = query := by
  simp [append]

@[simp] theorem empty_append (query : Query) : append {} query = query := by
  simp [append]

theorem append_assoc (first second third : Query) :
    (first.append second).append third = first.append (second.append third) := by
  simp [append, Bool.or_assoc, Option.or_assoc]

def gather (options : GrammarOptions) (pairs : List (String × String)) : Except Error Query :=
  pairs.foldlM (addPair options) {}

theorem ofPairs_eq_gather (options : GrammarOptions) (pairs : List (String × String)) :
    ofPairs options pairs = (gather options pairs).map withDefaultSelect := rfl

theorem addPair_eq (options : GrammarOptions) (query : Query) (pair : String × String) :
    addPair options query pair = (addPair options {} pair).map query.append := by
  obtain ⟨text, value⟩ := pair
  simp only [addPair]
  cases Key.ofText text with
  | select | load | count => simp [append, Except.map]
  | order =>
    generalize Fragment.settle options.mode (orderFragments value.toList) = settled
    cases settled <;> simp [append, Except.map, bind, Except.bind]
  | limit | offset =>
    generalize readInteger options.mode text value = number
    cases number <;> simp [append, Except.map, bind, Except.bind]
  | group connective =>
    dsimp only
    split
    · generalize Fragment.settle options.mode (groupFragments value.toList) = settled
      cases connective <;> cases settled <;> simp [append, Except.map, bind, Except.bind]
    · simp [Except.map]
  | join kind =>
    dsimp only
    split
    · generalize Fragment.settle options.mode (joinFragments kind value.toList) = settled
      cases settled <;> simp [append, Except.map, bind, Except.bind]
    · simp [Except.map]
  | filter key =>
    dsimp only
    generalize Fragment.settle options.mode [filterFragment key.toList value.toList] = settled
    cases settled <;> simp [append, Except.map, bind, Except.bind]

theorem foldlM_addPair (options : GrammarOptions) (query : Query) (pairs : List (String × String)) :
    pairs.foldlM (addPair options) query = (gather options pairs).map query.append := by
  unfold gather
  induction pairs generalizing query with
  | nil => simp [pure, Except.pure, Except.map]
  | cons pair rest ih =>
    rw [List.foldlM_cons, List.foldlM_cons, addPair_eq options query pair]
    cases addPair options {} pair with
    | error fault => rfl
    | ok part =>
      change rest.foldlM (addPair options) (query.append part) =
        (rest.foldlM (addPair options) part).map query.append
      rw [ih (query.append part), ih part]
      cases rest.foldlM (addPair options) {} with
      | error fault => rfl
      | ok others => simp [Except.map, append_assoc]

theorem gather_append (options : GrammarOptions) (front back : List (String × String))
    (first : Query) (gathered : gather options front = .ok first) :
    gather options (front ++ back) = (gather options back).map first.append := by
  unfold gather at gathered ⊢
  rw [List.foldlM_append, gathered]
  exact foldlM_addPair options first back

theorem gather_append_ok (options : GrammarOptions) {front back : List (String × String)}
    {first second : Query} (before : gather options front = .ok first)
    (after : gather options back = .ok second) :
    gather options (front ++ back) = .ok (first.append second) := by
  rw [gather_append options front back first before, after]
  rfl

theorem gather_cons (options : GrammarOptions) (pair : String × String)
    (rest : List (String × String)) (part : Query) (added : addPair options {} pair = .ok part) :
    gather options (pair :: rest) = (gather options rest).map part.append := by
  unfold gather
  rw [List.foldlM_cons, added]
  exact foldlM_addPair options part rest

theorem gather_cons_eq_ok_iff (options : GrammarOptions) (pair : String × String)
    (rest : List (String × String)) (query : Query) :
    gather options (pair :: rest) = .ok query ↔
      ∃ part others, addPair options {} pair = .ok part ∧ gather options rest = .ok others ∧
        part.append others = query := by
  cases added : addPair options {} pair with
  | error fault =>
    have refused : gather options (pair :: rest) = .error fault := by
      rw [gather, List.foldlM_cons, added]
      rfl
    simp [refused]
  | ok part =>
    rw [gather_cons options pair rest part added]
    cases gather options rest <;> simp [Except.map]

theorem gather_singleton (options : GrammarOptions) (pair : String × String) (part : Query)
    (added : addPair options {} pair = .ok part) : gather options [pair] = .ok part := by
  rw [gather_cons options pair [] part added]
  change Except.ok (part.append {}) = _
  rw [append_empty]

-- `part` is the part of a list of items that are written one pair each.
theorem gather_map {α : Type} (options : GrammarOptions) (pair : α → String × String)
    (part : List α → Query) (none : part [] = {})
    (more : ∀ item rest, (part [item]).append (part rest) = part (item :: rest)) (items : List α)
    (added : ∀ item ∈ items, addPair options {} (pair item) = .ok (part [item])) :
    gather options (items.map pair) = .ok (part items) := by
  induction items with
  | nil => rw [none]; rfl
  | cons item rest ih =>
    have others := ih fun other member => added other (List.mem_cons_of_mem _ member)
    have first := added item List.mem_cons_self
    rw [List.map_cons, gather_cons options (pair item) _ _ first, others]
    exact congrArg Except.ok (more item rest)

theorem addPair_lenient (options : GrammarOptions) (lenient : options.mode = .lenient)
    (query : Query) (pair : String × String) : ∃ next, addPair options query pair = .ok next := by
  obtain ⟨text, value⟩ := pair
  simp only [addPair, lenient, Fragment.settle_lenient]
  cases Key.ofText text with
  | select | load | count | order | limit | offset | filter => exact ⟨_, rfl⟩
  | group connective =>
    dsimp only
    split
    · cases connective <;> exact ⟨_, rfl⟩
    · exact ⟨_, rfl⟩
  | join kind =>
    dsimp only
    split <;> exact ⟨_, rfl⟩

theorem gather_lenient (options : GrammarOptions) (lenient : options.mode = .lenient)
    (pairs : List (String × String)) : ∃ query, gather options pairs = .ok query := by
  induction pairs with
  | nil => exact ⟨{}, rfl⟩
  | cons pair rest ih =>
    obtain ⟨part, added⟩ := addPair_lenient options lenient {} pair
    obtain ⟨others, gathered⟩ := ih
    refine ⟨part.append others, ?_⟩
    rw [gather_cons options pair rest part added, gathered]
    rfl

end RowGate.Query
