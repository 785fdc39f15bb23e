import RowGate.Proofs.Query.Gather
import RowGate.Proofs.Query.Group
import RowGate.Proofs.Query.Strict
import RowGate.Proofs.Query.Syntax

set_option autoImplicit false

namespace RowGate

theorem Fragment.settle_cons {α : Type} (mode : Mode) (fragment : Fragment α)
    (rest : List (Fragment α)) :
    settle mode (fragment :: rest) =
      settle mode [fragment] >>= fun first => (settle mode rest).map (first ++ ·) := by
  cases fragment with
  | wellFormed value => rfl
  | repaired value fault => cases mode <;> rfl
  | broken fault =>
    cases mode with
    | lenient => cases others : settle .lenient rest <;> simp [settle, others, bind, Except.bind, Except.map]
    | strict => rfl

namespace Query

structure Triple where
  column : String
  word : String
  value : String
  deriving DecidableEq

namespace Triple

def pair (triple : Triple) : String × String :=
  (triple.column ++ "." ++ triple.word, triple.value)

def text (triple : Triple) : List Char :=
  triple.column.toList ++ '.' :: (triple.word.toList ++ '.' :: triple.value.toList)

def groupText (triples : List Triple) : String :=
  .ofList ('(' :: Text.join ',' (triples.map text) ++ [')'])

structure Fits (triple : Triple) : Prop where
  column : isIdentifier triple.column = true
  word : (Operator.ofText? triple.word.toList).isSome = true
  ends : ∀ c ∈ triple.value.toList.getLast?, Text.isBlank c = false
  whole : Group.Whole ',' 0 triple.value.toList
  balanced : Group.depthFrom 0 triple.value.toList = 0

instance (triple : Triple) : Decidable triple.Fits :=
  decidable_of_iff
    (isIdentifier triple.column = true ∧ (Operator.ofText? triple.word.toList).isSome = true ∧
      (triple.value.toList.getLast?.all fun c => !Text.isBlank c) = true ∧
      Group.Whole ',' 0 triple.value.toList ∧ Group.depthFrom 0 triple.value.toList = 0)
    ⟨fun ⟨column, word, ends, whole, balanced⟩ =>
        ⟨column, word, by simpa [Option.all_eq_true] using ends, whole, balanced⟩,
      fun ⟨column, word, ends, whole, balanced⟩ =>
        ⟨column, word, by simpa [Option.all_eq_true] using ends, whole, balanced⟩⟩

def fragment (triple : Triple) : Fragment Clause :=
  clauseFragment triple.column.toList ((Operator.ofText? triple.word.toList).getD .eq)
    triple.value.toList

end Triple

open Triple

theorem mark_not_mem_of_spells (operator : Operator) (word : List Char)
    (spelled : operator.Spells word) : ∀ mark ∈ ['(', ')', ','], mark ∉ word := by
  obtain ⟨spelling, known, same⟩ := spelled
  intro mark special member
  have lowered : mark.toLower ∈ spelling.toList := same ▸ List.mem_map_of_mem member
  have finite : operator.spellings.all (fun spelling =>
      ['(', ')', ','].all fun mark => !spelling.toList.contains mark.toLower) = true := by
    cases operator <;> rfl
  simp only [List.all_eq_true, Bool.not_eq_true', List.contains_eq_mem,
    decide_eq_false_iff_not] at finite
  exact finite spelling known mark special lowered

theorem spells_of_fits (triple : Triple) (fits : triple.Fits) :
    ((Operator.ofText? triple.word.toList).getD .eq).Spells triple.word.toList := by
  obtain ⟨operator, read⟩ := Option.isSome_iff_exists.mp fits.word
  rw [read]
  exact (Operator.ofText?_eq_some_iff _ operator).mp read

theorem filterFragment_pair (triple : Triple) (fits : triple.Fits) :
    filterFragment triple.pair.1.toList triple.pair.2.toList = triple.fragment := by
  have dotless := not_mem_of_isIdentifierText triple.column.toList fits.column '.' (by decide)
  have key : triple.pair.1.toList = triple.column.toList ++ '.' :: triple.word.toList := by
    simp [pair]
  rw [key]
  exact filterFragment_of_spells _ _ _ _ dotless (spells_of_fits triple fits)

theorem groupFragment_text (triple : Triple) (fits : triple.Fits) :
    groupFragment triple.text = triple.fragment :=
  groupFragment_of_spells _ _ _ _
    (not_mem_of_isIdentifierText triple.column.toList fits.column '.' (by decide))
    (spells_of_fits triple fits)

theorem groupFragments_groupText (triples : List Triple) (fits : ∀ triple ∈ triples, triple.Fits) :
    groupFragments (groupText triples).toList = triples.map fragment := by
  have cut : groupTokens (groupText triples).toList = triples.map text := by
    rw [groupText, String.toList_ofList]
    apply groupTokens_join
    · intro text member
      obtain ⟨triple, inside, rfl⟩ := List.mem_map.mp member
      have fit := fits triple inside
      exact isPiece_condition _ _ _ fit.column
        (mark_not_mem_of_spells _ _ (spells_of_fits triple fit)) fit.whole fit.balanced
    · intro text member
      obtain ⟨triple, inside, rfl⟩ := List.mem_map.mp member
      exact trimmed_condition _ _ _ (fits triple inside).column (fits triple inside).ends
  rw [groupFragments, cut, List.map_map]
  exact List.map_congr_left fun triple member => groupFragment_text triple (fits triple member)

theorem addPair_pair (options : GrammarOptions) (triple : Triple) (fits : triple.Fits) :
    addPair options {} triple.pair =
      (Fragment.settle options.mode [triple.fragment]).map fun clauses => { filters := clauses } := by
  have key : Key.ofText triple.pair.1 = .filter triple.pair.1 := Key.ofText_of_dot _ (by simp [pair])
  simp only [addPair, key, filterFragment_pair triple fits, map_eq_bind]
  rfl

theorem gather_pairs (options : GrammarOptions) (triples : List Triple)
    (fits : ∀ triple ∈ triples, triple.Fits) :
    gather options (triples.map pair) =
      (Fragment.settle options.mode (triples.map fragment)).map fun clauses =>
        { filters := clauses } := by
  induction triples with
  | nil => rfl
  | cons triple rest ih =>
    have further := ih fun other member => fits other (List.mem_cons_of_mem _ member)
    have added := addPair_pair options triple (fits triple List.mem_cons_self)
    rw [List.map_cons, List.map_cons, Fragment.settle_cons]
    cases first : Fragment.settle options.mode [triple.fragment] with
    | error fault =>
      rw [first] at added
      rw [gather, List.foldlM_cons, added]
      rfl
    | ok clauses =>
      rw [first] at added
      rw [gather_cons options _ _ _ added, further]
      cases Fragment.settle options.mode (rest.map fragment) <;>
        simp [append, Except.map, bind, Except.bind]

/-- Conditions make the same clauses as pairs of their own and inside a group, or the same fault. -/
theorem ofPairs_triples (joins : Bool) (mode : Mode) (triples : List Triple)
    (fits : ∀ triple ∈ triples, triple.Fits) :
    ∃ outcome : Except Error (List Clause),
      ofPairs { groups := true, joins, mode } (triples.map pair) =
        outcome.map (fun clauses => { select := ["*"], filters := clauses }) ∧
      ∀ connective, ofPairs { groups := true, joins, mode } [(connective.key, groupText triples)] =
        outcome.map fun clauses => { groupPart connective clauses with select := ["*"] } := by
  refine ⟨Fragment.settle mode (triples.map fragment), ?_, ?_⟩
  next =>
    rw [ofPairs_eq_gather, gather_pairs _ triples fits]
    cases Fragment.settle mode (triples.map fragment) <;> rfl
  next =>
    intro connective
    rw [ofPairs_group _ rfl, groupFragments_groupText triples fits]

def nestedTriples : List Triple :=
  [⟨"price", "GT", "9.99"⟩, ⟨"status", "Not.In", "(a,b.(c))"⟩, ⟨"name", "like", " x)*"⟩,
    ⟨"city", "is", "NOT.null"⟩]

def nestedClauses : List Clause :=
  [⟨"price", .gt, some "9.99"⟩, ⟨"status", .notIn, some "a,b.(c)"⟩, ⟨"name", .like, some " x)%"⟩,
    ⟨"city", .is, some "NOT.null"⟩]

theorem ofPairs_triples_nested :
    (∀ triple ∈ nestedTriples, triple.Fits) ∧
      ofPairs { mode := .strict } (nestedTriples.map pair) =
        .ok { select := ["*"], filters := nestedClauses } ∧
      ofPairs { mode := .strict } [("or", groupText nestedTriples)] =
        .ok { select := ["*"], orGroup := nestedClauses } := by
  have fits : ∀ triple ∈ nestedTriples, triple.Fits := by decide
  have plain : ofPairs { mode := .strict } (nestedTriples.map pair) =
      .ok { select := ["*"], filters := nestedClauses } := rfl
  obtain ⟨outcome, pairs, groups⟩ := ofPairs_triples true .strict nestedTriples fits
  refine ⟨fits, plain, ?_⟩
  rw [plain] at pairs
  cases outcome with
  | error fault => cases pairs
  | ok clauses =>
    cases pairs
    exact groups .or

end Query

end RowGate
