import Mathlib.Data.List.Forall2
import RowGate.Proofs.Query.Gather
import RowGate.Proofs.Query.Group
import RowGate.Proofs.Query.Syntax

set_option autoImplicit false

namespace RowGate

namespace Fragment

variable {α τ : Type}

theorem eq_map_of_wellFormed (fragments : List (Fragment α))
    (wellFormed : ∀ fragment ∈ fragments, fragment.WellFormed) :
    fragments = (fragments.filterMap value?).map .wellFormed := by
  induction fragments with
  | nil => rfl
  | cons fragment rest ih =>
    have first := wellFormed fragment List.mem_cons_self
    have others := ih fun other member => wellFormed other (List.mem_cons_of_mem _ member)
    cases fragment with
    | wellFormed value => simpa [value?] using others
    | repaired value fault => exact first.elim
    | broken fault => exact first.elim

theorem settle_map_wellFormed (mode : Mode) (values : List α) :
    settle mode (values.map .wellFormed) = .ok values := by
  induction values with
  | nil => rfl
  | cons value rest ih => simp [settle, ih, Except.map]

theorem settle_strict_eq_ok_iff (fragments : List (Fragment α)) (values : List α) :
    settle .strict fragments = .ok values ↔ fragments = values.map .wellFormed := by
  constructor
  next =>
    intro settled
    have proper := wellFormed_of_settle_strict fragments values settled
    rw [settle_strict_of_wellFormed fragments proper, Except.ok.injEq] at settled
    rw [← settled]
    exact eq_map_of_wellFormed fragments proper
  next =>
    rintro rfl
    exact settle_map_wellFormed .strict values

theorem settle_strict_map (read : τ → Fragment α) (Reads : τ → α → Prop)
    (exact : ∀ token value, read token = .wellFormed value ↔ Reads token value)
    (tokens : List τ) (values : List α) :
    settle .strict (tokens.map read) = .ok values ↔ List.Forall₂ Reads tokens values := by
  rw [settle_strict_eq_ok_iff]
  constructor
  next =>
    intro same
    induction tokens generalizing values with
    | nil =>
      cases values with
      | nil => exact .nil
      | cons _ _ => cases same
    | cons token rest ih =>
      cases values with
      | nil => cases same
      | cons value others =>
        simp only [List.map_cons, List.cons.injEq] at same
        exact .cons ((exact token value).mp same.1) (ih others same.2)
  next =>
    intro reads
    induction reads with
    | nil => rfl
    | cons first _ ih => rw [List.map_cons, List.map_cons, ih, (exact _ _).mpr first]

end Fragment

namespace Query

inductive Part where
  | order (token : List Char)
  | number (value : List Char)
  | join (kind : JoinKind) (token : List Char)
  | group (connective : Connective) (token : List Char)
  | filter (key value : List Char)

namespace Part

def WellFormed : Part → Prop
  | .order token => ∃ order, OrderToken token order
  | .number value => ∃ n, IntegerText value n
  | .join kind token => ∃ join, JoinToken kind token join
  | .group _ token => ∃ clause, GroupToken token clause
  | .filter key value => ∃ clause, FilterPair key value clause

@[simp] def order? : Part → Option (List Char)
  | .order token => some token
  | _ => none

@[simp] def join? : Part → Option (JoinKind × List Char)
  | .join kind token => some (kind, token)
  | _ => none

@[simp] def group? (connective : Connective) : Part → Option (List Char)
  | .group attached token => if attached = connective then some token else none
  | _ => none

@[simp] def filter? : Part → Option (List Char × List Char)
  | .filter key value => some (key, value)
  | _ => none

end Part

def nonblank (texts : List (List Char)) : List (List Char) :=
  (texts.map Text.trim).filter (· ≠ [])

/-- The parts of a pair. A group is cut at the commas outside parentheses, after one parenthesis on
either side is dropped; a switched-off key has no parts. -/
def parts (options : GrammarOptions) (pair : String × String) : List Part :=
  let value := pair.2.toList
  match Key.ofText pair.1 with
  | .select | .load | .count => []
  | .order => (nonblank (value.splitOn ',')).map .order
  | .limit | .offset => [.number value]
  | .join kind => if options.joins then (nonblank (value.splitOn ',')).map (.join kind) else []
  | .group connective =>
    if options.groups then
      let inner := dropClosing (dropOpening (Text.trim value))
      (nonblank (Group.segments ',' inner)).map (.group connective)
    else []
  | .filter key => [.filter key.toList value]

structure Entries (parts : List Part) (query : Query) : Prop where
  filters : List.Forall₂ (fun pair clause => FilterPair pair.1 pair.2 clause)
    (parts.filterMap Part.filter?) query.filters
  andGroup : List.Forall₂ GroupToken (parts.filterMap (Part.group? .and)) query.andGroup
  orGroup : List.Forall₂ GroupToken (parts.filterMap (Part.group? .or)) query.orGroup
  joins : List.Forall₂ (fun part join => JoinToken part.1 part.2 join)
    (parts.filterMap Part.join?) query.joins
  order : List.Forall₂ OrderToken (parts.filterMap Part.order?) query.order

theorem Entries.append {front back : List Part} {first second : Query} (before : first.Entries front)
    (after : second.Entries back) : (first.append second).Entries (front ++ back) := by
  constructor <;> rw [List.filterMap_append]
  · exact List.rel_append before.filters after.filters
  · exact List.rel_append before.andGroup after.andGroup
  · exact List.rel_append before.orGroup after.orGroup
  · exact List.rel_append before.joins after.joins
  · exact List.rel_append before.order after.order

theorem tokens_eq_nonblank (separator : Char) (text : List Char) :
    Text.tokens separator text = nonblank (text.splitOn separator) := by
  rw [Text.tokens, Text.pieces_eq_splitOn, nonblank]

theorem groupTokens_eq_nonblank (value : List Char) :
    groupTokens value =
      nonblank (Group.segments ',' (dropClosing (dropOpening (Text.trim value)))) := by
  rw [groupTokens, nonblank, Group.pieces_eq_segments ',' rfl, List.filter_map,
    List.filter_map, Group.filter_withoutEmptyEnd _ (by decide)]

structure Settled (options : GrammarOptions) (pair : String × String) : Prop where
  accepted : (∃ query, addPair { options with mode := .strict } {} pair = .ok query) ↔
    ∀ part ∈ parts options pair, part.WellFormed
  sound : ∀ query, addPair { options with mode := .strict } {} pair = .ok query →
    addPair { options with mode := .lenient } {} pair = .ok query ∧ query.Entries (parts options pair)

theorem exists_forall₂_iff {α β : Type} (Reads : α → β → Prop) (tokens : List α) :
    (∃ values, List.Forall₂ Reads tokens values) ↔ ∀ token ∈ tokens, ∃ value, Reads token value := by
  induction tokens with
  | nil => simp
  | cons token rest ih =>
    rw [List.forall_mem_cons, ← ih]
    constructor
    · rintro ⟨_, reads⟩
      cases reads with
      | cons first others => exact ⟨⟨_, first⟩, ⟨_, others⟩⟩
    · rintro ⟨⟨value, first⟩, ⟨values, others⟩⟩
      exact ⟨value :: values, .cons first others⟩

theorem settled_of_tokens {α τ : Type} (options : GrammarOptions) (pair : String × String)
    (tokens : List τ) (part : τ → Part) (read : τ → Fragment α) (Reads : τ → α → Prop)
    (put : List α → Query) (cut : parts options pair = tokens.map part)
    (added : ∀ mode, addPair { options with mode } {} pair =
      (Fragment.settle mode (tokens.map read)).map put)
    (exact : ∀ token value, read token = .wellFormed value ↔ Reads token value)
    (proper : ∀ token, (part token).WellFormed ↔ ∃ value, Reads token value)
    (entries : ∀ values, List.Forall₂ Reads tokens values → (put values).Entries (tokens.map part)) :
    Settled options pair := by
  have strict (values : List α) := Fragment.settle_strict_map read Reads exact tokens values
  constructor
  next =>
    rw [cut, List.forall_mem_map]
    simp only [proper]
    rw [← exists_forall₂_iff, added]
    simp only [← strict]
    cases Fragment.settle .strict (tokens.map read) <;> simp [Except.map]
  next =>
    intro query taken
    rw [added] at taken
    cases settled : Fragment.settle .strict (tokens.map read) with
    | error fault => simp [settled, Except.map] at taken
    | ok values =>
      rw [settled] at taken
      cases taken
      refine ⟨?_, cut ▸ entries values ((strict values).mp settled)⟩
      rw [added, (Fragment.settle_strict_eq_ok_iff _ values).mp settled,
        Fragment.settle_map_wellFormed]
      rfl

-- The part of a query that conditions of a group make.
def groupPart (connective : Connective) (clauses : List Clause) : Query :=
  match connective with
  | .and => { andGroup := clauses }
  | .or => { orGroup := clauses }

theorem ofPairs_group (options : GrammarOptions) (enabled : options.groups = true)
    (connective : Connective) (value : String) :
    ofPairs options [(connective.key, value)] =
      (Fragment.settle options.mode (groupFragments value.toList)).map fun clauses =>
        { groupPart connective clauses with select := ["*"] } := by
  rw [ofPairs, List.foldlM_cons]
  simp only [addPair, Key.ofText_key, enabled, if_true]
  cases Fragment.settle options.mode (groupFragments value.toList) <;> cases connective <;> rfl

theorem settled_of_nothing (options : GrammarOptions) (pair : String × String) (query : Query)
    (cut : parts options pair = [])
    (added : ∀ mode, addPair { options with mode } {} pair = .ok query)
    (entries : query.Entries []) : Settled options pair := by
  constructor
  next => simp [cut, added]
  next =>
    intro taken same
    rw [added, Except.ok.injEq] at same
    exact ⟨same ▸ added _, same ▸ cut ▸ entries⟩

-- The two modes read a number apart, and agree where the strict reader takes it.
theorem settled_of_number (options : GrammarOptions) (text value : String) (put : Nat → Query)
    (cut : parts options (text, value) = [.number value.toList])
    (added : ∀ mode, addPair { options with mode } {} (text, value) =
      (readInteger mode text value).map put)
    (entries : ∀ n, (put n).Entries [.number value.toList]) :
    Settled options (text, value) := by
  have strict := readInteger_strict_eq_ok_iff text value
  constructor
  next =>
    rw [cut, List.forall_mem_singleton, Part.WellFormed]
    simp only [added, ← strict]
    cases readInteger .strict text value <;> simp [Except.map]
  next =>
    intro query taken
    rw [added] at taken
    cases read : readInteger .strict text value with
    | error fault => simp [read, Except.map] at taken
    | ok n =>
      rw [read] at taken
      cases taken
      have proper : integer? value.toList = some n :=
        (integer?_eq_some_iff _ n).mpr ((strict n).mp read)
      refine ⟨?_, cut ▸ entries n⟩
      rw [added, readInteger, coerceInteger_of_integer? _ n proper]
      rfl

theorem map_eq_bind {α β : Type} (put : α → β) (result : Except Error α) :
    result.map put = result >>= fun value => .ok (put value) := by
  cases result <;> rfl

theorem settled_of_join (options : GrammarOptions) (text value : String) (kind : JoinKind)
    (key : Key.ofText text = .join kind) : Settled options (text, value) := by
  by_cases enabled : options.joins = true
  next =>
    apply settled_of_tokens options (text, value) (nonblank (value.toList.splitOn ',')) (.join kind)
      (joinFragment kind) (JoinToken kind) fun joins => { joins }
    · simp [parts, key, enabled]
    · simp [addPair, key, enabled, map_eq_bind, joinFragments, tokens_eq_nonblank]
    · exact joinFragment_eq_wellFormed_iff kind
    · exact fun _ => Iff.rfl
    · intro values reads
      constructor <;> simp [List.filterMap_map, Function.comp_def, reads]
  next =>
    apply settled_of_nothing options (text, value) {} _ _ ⟨.nil, .nil, .nil, .nil, .nil⟩ <;>
      simp [parts, addPair, key, enabled]

theorem settled_of_group (options : GrammarOptions) (text value : String) (connective : Connective)
    (key : Key.ofText text = .group connective) : Settled options (text, value) := by
  by_cases enabled : options.groups = true
  next =>
    apply settled_of_tokens options (text, value)
      (nonblank (Group.segments ',' (dropClosing (dropOpening (Text.trim value.toList)))))
      (.group connective) groupFragment GroupToken fun clauses => groupPart connective clauses
    · simp [parts, key, enabled]
    · cases connective <;>
        simp [addPair, key, enabled, map_eq_bind, groupFragments, groupTokens_eq_nonblank, groupPart]
    · exact groupFragment_eq_wellFormed_iff
    · exact fun _ => Iff.rfl
    · intro values reads
      cases connective <;> constructor <;>
        simp [List.filterMap_map, Function.comp_def, reads, groupPart]
  next =>
    apply settled_of_nothing options (text, value) {} _ _ ⟨.nil, .nil, .nil, .nil, .nil⟩ <;>
      simp [parts, addPair, key, enabled]

theorem addPair_settled (options : GrammarOptions) (pair : String × String) :
    Settled options pair := by
  obtain ⟨text, value⟩ := pair
  have nothing (query : Query) (entries : query.Entries []) (cut : parts options (text, value) = [])
      (added : ∀ mode, addPair { options with mode } {} (text, value) = .ok query) :=
    settled_of_nothing options (text, value) query cut added entries
  cases key : Key.ofText text with
  | select =>
    apply nothing { select := names value } ⟨.nil, .nil, .nil, .nil, .nil⟩ <;> simp [parts, addPair, key]
  | load =>
    apply nothing { load := names value } ⟨.nil, .nil, .nil, .nil, .nil⟩ <;> simp [parts, addPair, key]
  | count =>
    apply nothing { count := true } ⟨.nil, .nil, .nil, .nil, .nil⟩ <;> simp [parts, addPair, key]
  | order =>
    apply settled_of_tokens options (text, value) (nonblank (value.toList.splitOn ',')) .order
      orderFragment OrderToken fun order => { order }
    · simp [parts, key]
    · simp [addPair, key, map_eq_bind, orderFragments, tokens_eq_nonblank]
    · exact orderFragment_eq_wellFormed_iff
    · exact fun _ => Iff.rfl
    · intro values reads
      constructor <;> simp [List.filterMap_map, Function.comp_def, reads]
  | limit =>
    apply settled_of_number options text value (fun n => { limit := some n })
    · simp [parts, key]
    · simp [addPair, key, map_eq_bind]
    · exact fun n => ⟨.nil, .nil, .nil, .nil, .nil⟩
  | offset =>
    apply settled_of_number options text value (fun n => { offset := some n })
    · simp [parts, key]
    · simp [addPair, key, map_eq_bind]
    · exact fun n => ⟨.nil, .nil, .nil, .nil, .nil⟩
  | join kind => exact settled_of_join options text value kind key
  | group connective => exact settled_of_group options text value connective key
  | filter key' =>
    apply settled_of_tokens options (text, value) [(key'.toList, value.toList)]
      (fun pair => .filter pair.1 pair.2) (fun pair => filterFragment pair.1 pair.2)
      (fun pair clause => FilterPair pair.1 pair.2 clause) fun filters => { filters }
    · simp [parts, key]
    · simp [addPair, key, map_eq_bind]
    · exact fun pair => filterFragment_eq_wellFormed_iff pair.1 pair.2
    · exact fun _ => Iff.rfl
    · intro values reads
      constructor <;> simp [reads]

theorem gather_strict (options : GrammarOptions) (pairs : List (String × String)) :
    ((∃ query, gather { options with mode := .strict } pairs = .ok query) ↔
        ∀ part ∈ pairs.flatMap (parts options), part.WellFormed) ∧
      ∀ query, gather { options with mode := .strict } pairs = .ok query →
        gather { options with mode := .lenient } pairs = .ok query ∧
          query.Entries (pairs.flatMap (parts options)) := by
  induction pairs with
  | nil =>
    constructor
    · simp [gather, pure, Except.pure]
    · rintro query ⟨⟩
      exact ⟨rfl, .nil, .nil, .nil, .nil, .nil⟩
  | cons pair rest ih =>
    have first := addPair_settled options pair
    constructor
    next =>
      rw [List.flatMap_cons, List.forall_mem_append, ← first.accepted, ← ih.1]
      constructor
      · rintro ⟨query, gathered⟩
        obtain ⟨part, others, added, more, -⟩ := (gather_cons_eq_ok_iff _ _ _ _).mp gathered
        exact ⟨⟨part, added⟩, ⟨others, more⟩⟩
      · rintro ⟨⟨part, added⟩, ⟨others, more⟩⟩
        exact ⟨part.append others, (gather_cons_eq_ok_iff _ _ _ _).mpr ⟨part, others, added, more, rfl⟩⟩
    next =>
      intro query gathered
      obtain ⟨part, others, added, more, rfl⟩ := (gather_cons_eq_ok_iff _ _ _ _).mp gathered
      obtain ⟨addedLenient, entry⟩ := first.sound part added
      obtain ⟨moreLenient, entries⟩ := ih.2 others more
      refine ⟨(gather_cons_eq_ok_iff _ _ _ _).mpr ⟨part, others, addedLenient, moreLenient, rfl⟩, ?_⟩
      rw [List.flatMap_cons]
      exact entry.append entries

theorem Entries.withDefaultSelect {parts : List Part} {query : Query} (entries : query.Entries parts) :
    query.withDefaultSelect.Entries parts := by
  unfold Query.withDefaultSelect
  split
  · exact ⟨entries.filters, entries.andGroup, entries.orGroup, entries.joins, entries.order⟩
  · exact entries

/-- Lenient reading never fails, and strict reading is its restriction to the grammar: it succeeds when
every part is well formed, with the same query, which has one entry for each part. -/
theorem ofPairs_strict (options : GrammarOptions) (pairs : List (String × String)) :
    ∃ query, ofPairs { options with mode := .lenient } pairs = .ok query ∧
      ((∃ accepted, ofPairs { options with mode := .strict } pairs = .ok accepted) ↔
        ∀ part ∈ pairs.flatMap (parts options), part.WellFormed) ∧
      ∀ accepted, ofPairs { options with mode := .strict } pairs = .ok accepted →
        accepted = query ∧ accepted.Entries (pairs.flatMap (parts options)) := by
  obtain ⟨lenient, gathered⟩ := gather_lenient { options with mode := .lenient } rfl pairs
  obtain ⟨accepts, sound⟩ := gather_strict options pairs
  refine ⟨lenient.withDefaultSelect, by rw [ofPairs_eq_gather, gathered]; rfl, ?_, ?_⟩
  next =>
    rw [← accepts, ofPairs_eq_gather]
    cases gather { options with mode := .strict } pairs <;> simp [Except.map]
  next =>
    intro accepted taken
    rw [ofPairs_eq_gather] at taken
    cases strict : gather { options with mode := .strict } pairs with
    | error fault => simp [strict, Except.map] at taken
    | ok query =>
      rw [strict] at taken
      cases taken
      obtain ⟨same, entries⟩ := sound query strict
      rw [gathered, Except.ok.injEq] at same
      exact ⟨same ▸ rfl, entries.withDefaultSelect⟩

def mixedPairs : List (String × String) :=
  [("order", "name.DESC, id,"), ("limit", " +20 "), ("leftJoin", "posts : id=user_id"),
    ("and", "(id.gt.1,name.NOT.in.(a,b),city.is.Null)"), ("age.GTE", "18")]

def mixedQuery : Query where
  select := ["*"]
  filters := [⟨"age", .gte, some "18"⟩]
  andGroup := [⟨"id", .gt, some "1"⟩, ⟨"name", .notIn, some "a,b"⟩, ⟨"city", .is, some "Null"⟩]
  joins := [⟨.left, "posts", "id", "user_id"⟩]
  order := [⟨"name", .desc⟩, ⟨"id", .asc⟩]
  limit := some 20

theorem ofPairs_strict_mixed :
    ofPairs { mode := .strict } mixedPairs = .ok mixedQuery ∧
      (∀ part ∈ mixedPairs.flatMap (parts {}), part.WellFormed) ∧
      ofPairs {} mixedPairs = .ok mixedQuery ∧
      mixedQuery.Entries (mixedPairs.flatMap (parts {})) := by
  have taken : ofPairs { mode := .strict } mixedPairs = .ok mixedQuery := rfl
  obtain ⟨query, lenient, accepts, sound⟩ := ofPairs_strict {} mixedPairs
  obtain ⟨rfl, entries⟩ := sound mixedQuery taken
  exact ⟨taken, accepts.mp ⟨_, taken⟩, lenient, entries⟩

end Query

end RowGate
