import Mathlib.Data.List.Perm.Basic
import RowGate.Proofs.Outcome
import RowGate.Proofs.Query.Gather

set_option autoImplicit false

namespace RowGate

-- Keys whose pairs write the same part of a query.
inductive KeyClass where
  | select
  | load
  | order
  | limit
  | offset
  | count
  | group (connective : Connective)
  | join
  | filter
  deriving DecidableEq

def Key.keyClass : Key → KeyClass
  | .select => .select
  | .load => .load
  | .order => .order
  | .limit => .limit
  | .offset => .offset
  | .count => .count
  | .group connective => .group connective
  | .join _ => .join
  | .filter _ => .filter

namespace Query

def classOf (pair : String × String) : KeyClass :=
  (Key.ofText pair.1).keyClass

def classPairs (keyClass : KeyClass) (pairs : List (String × String)) : List (String × String) :=
  pairs.filter fun pair => classOf pair = keyClass

-- The part of a query that the pairs of one class write.
def classPart (keyClass : KeyClass) (query : Query) : Query :=
  match keyClass with
  | .select => { select := query.select }
  | .load => { load := query.load }
  | .order => { order := query.order }
  | .limit => { limit := query.limit }
  | .offset => { offset := query.offset }
  | .count => { count := query.count }
  | .group .and => { andGroup := query.andGroup }
  | .group .or => { orGroup := query.orGroup }
  | .join => { joins := query.joins }
  | .filter => { filters := query.filters }

@[simp] theorem classPart_empty (keyClass : KeyClass) : classPart keyClass {} = {} := by
  cases keyClass with
  | group connective => cases connective <;> rfl
  | _ => rfl

theorem classPart_append (keyClass : KeyClass) (first second : Query) :
    classPart keyClass (first.append second) =
      (classPart keyClass first).append (classPart keyClass second) := by
  cases keyClass with
  | group connective => cases connective <;> rfl
  | _ => rfl

theorem classPart_other (keyClass other : KeyClass) (different : other ≠ keyClass) (query : Query) :
    classPart keyClass (classPart other query) = {} := by
  cases other with
  | group attached =>
    cases keyClass with
    | group connective =>
      cases attached <;> cases connective <;> first | rfl | exact absurd rfl different
    | _ => cases attached <;> rfl
  | _ =>
    cases keyClass with
    | group connective => cases connective <;> rfl
    | _ => first | rfl | exact absurd rfl different

theorem eq_of_classPart (first second : Query)
    (same : ∀ keyClass, classPart keyClass first = classPart keyClass second) : first = second := by
  cases first
  cases second
  rw [mk.injEq]
  exact ⟨congrArg Query.select (same .select), congrArg load (same .load),
    congrArg filters (same .filter), congrArg andGroup (same (.group .and)),
    congrArg orGroup (same (.group .or)), congrArg joins (same .join), congrArg order (same .order),
    congrArg limit (same .limit), congrArg offset (same .offset), congrArg count (same .count)⟩

theorem classPart_addPair (options : GrammarOptions) (pair : String × String) (part : Query)
    (added : addPair options {} pair = .ok part) : classPart (classOf pair) part = part := by
  obtain ⟨text, value⟩ := pair
  rw [classOf]
  simp only [addPair] at added
  cases key : Key.ofText text with
  | select | load | count =>
    rw [key] at added
    cases added
    rfl
  | order =>
    simp only [key, bind_eq_ok_iff] at added
    obtain ⟨order, -, ⟨⟩⟩ := added
    rfl
  | limit =>
    simp only [key, bind_eq_ok_iff] at added
    obtain ⟨limit, -, ⟨⟩⟩ := added
    rfl
  | offset =>
    simp only [key, bind_eq_ok_iff] at added
    obtain ⟨offset, -, ⟨⟩⟩ := added
    rfl
  | group connective =>
    simp only [key] at added
    split at added
    · obtain ⟨clauses, -, added⟩ := (bind_eq_ok_iff _ _ _).mp added
      cases connective <;> cases added <;> rfl
    · cases added
      exact classPart_empty _
  | join kind =>
    simp only [key] at added
    split at added
    · obtain ⟨joins, -, ⟨⟩⟩ := (bind_eq_ok_iff _ _ _).mp added
      rfl
    · cases added
      rfl
  | filter key' =>
    simp only [key, bind_eq_ok_iff] at added
    obtain ⟨clauses, -, ⟨⟩⟩ := added
    rfl

theorem gather_ok_iff (options : GrammarOptions) (pairs : List (String × String)) :
    (∃ query, gather options pairs = .ok query) ↔
      ∀ pair ∈ pairs, ∃ part, addPair options {} pair = .ok part := by
  induction pairs with
  | nil =>
    have empty : gather options [] = .ok {} := rfl
    simp [empty]
  | cons pair rest ih =>
    rw [List.forall_mem_cons, ← ih]
    constructor
    next =>
      rintro ⟨query, gathered⟩
      obtain ⟨part, others, added, more, -⟩ := (gather_cons_eq_ok_iff _ _ _ _).mp gathered
      exact ⟨⟨part, added⟩, ⟨others, more⟩⟩
    next =>
      rintro ⟨⟨part, added⟩, ⟨others, more⟩⟩
      exact ⟨part.append others, (gather_cons_eq_ok_iff _ _ _ _).mpr ⟨part, others, added, more, rfl⟩⟩

theorem gather_classPairs (options : GrammarOptions) (keyClass : KeyClass)
    (pairs : List (String × String)) (query : Query) (gathered : gather options pairs = .ok query) :
    gather options (classPairs keyClass pairs) = .ok (classPart keyClass query) := by
  induction pairs generalizing query with
  | nil =>
    cases gathered
    rw [classPart_empty]
    rfl
  | cons pair rest ih =>
    obtain ⟨part, others, added, more, rfl⟩ := (gather_cons_eq_ok_iff _ _ _ _).mp gathered
    have further := ih others more
    have whole := classPart_addPair options pair part added
    rw [classPart_append]
    by_cases same : classOf pair = keyClass
    · rw [same] at whole
      have kept : classPairs keyClass (pair :: rest) = pair :: classPairs keyClass rest :=
        List.filter_cons_of_pos (by simpa using same)
      rw [kept, whole]
      exact (gather_cons_eq_ok_iff _ _ _ _).mpr ⟨part, _, added, further, rfl⟩
    · have dropped : classPairs keyClass (pair :: rest) = classPairs keyClass rest :=
        List.filter_cons_of_neg (by simpa using same)
      rw [dropped, further, ← whole, classPart_other _ _ same, empty_append]

/-- The pairs of each class stand in the same order; how the classes are mixed is left open. -/
def Rearranged (pairs others : List (String × String)) : Prop :=
  ∀ keyClass, classPairs keyClass pairs = classPairs keyClass others

theorem Rearranged.symm {pairs others : List (String × String)} (rearranged : Rearranged pairs others) :
    Rearranged others pairs :=
  fun keyClass => (rearranged keyClass).symm

theorem Rearranged.perm {pairs others : List (String × String)} (rearranged : Rearranged pairs others) :
    pairs.Perm others := by
  rw [List.perm_iff_count]
  intro pair
  have inClass (list : List (String × String)) :
      (classPairs (classOf pair) list).count pair = list.count pair :=
    List.count_filter (by simp)
  rw [← inClass pairs, ← inClass others, rearranged]

theorem gather_of_rearranged (options : GrammarOptions) (pairs others : List (String × String))
    (rearranged : Rearranged pairs others) (query : Query) (gathered : gather options pairs = .ok query) :
    gather options others = .ok query := by
  have each := (gather_ok_iff options pairs).mp ⟨query, gathered⟩
  obtain ⟨found, gatheredOthers⟩ := (gather_ok_iff options others).mpr fun pair member =>
    each pair (rearranged.perm.mem_iff.mpr member)
  have same : found = query := by
    apply eq_of_classPart
    intro keyClass
    have first := gather_classPairs options keyClass pairs query gathered
    have second := gather_classPairs options keyClass others found gatheredOthers
    rw [rearranged keyClass, second] at first
    exact Except.ok.inj first
  rw [gatheredOthers, same]

-- `other` passes over some items and otherwise does what `step` does.
theorem foldlM_filter {α β : Type} (step other : β → α → Except Error β) (keeps : α → Bool)
    (agrees : ∀ value item, keeps item = true → other value item = step value item)
    (passes : ∀ value item, keeps item = false → other value item = .ok value)
    (start : β) (items : List α) :
    items.foldlM other start = (items.filter keeps).foldlM step start := by
  induction items generalizing start with
  | nil => rfl
  | cons item rest ih =>
    cases kept : keeps item with
    | true =>
      rw [List.filter_cons_of_pos kept, List.foldlM_cons, List.foldlM_cons, agrees start item kept]
      exact congrArg (step start item >>= ·) (funext ih)
    | false =>
      rw [List.filter_cons_of_neg (by simp [kept]), List.foldlM_cons, passes start item kept, ← ih]
      rfl

def isGroupPair (pair : String × String) : Bool :=
  classOf pair = .group .and || classOf pair = .group .or

def isJoinPair (pair : String × String) : Bool :=
  classOf pair = .join

theorem ofPairs_withoutGroups (options : GrammarOptions) (pairs : List (String × String)) :
    ofPairs { options with groups := false } pairs =
      ofPairs { options with groups := true } (pairs.filter fun pair => !isGroupPair pair) := by
  unfold ofPairs
  congr 1
  apply foldlM_filter
  · rintro query ⟨text, value⟩ kept
    simp only [isGroupPair, classOf] at kept
    simp only [addPair]
    cases key : Key.ofText text with
    | group connective => cases connective <;> simp [key, Key.keyClass] at kept
    | _ => rfl
  · rintro query ⟨text, value⟩ dropped
    simp only [isGroupPair, classOf] at dropped
    simp only [addPair]
    cases key : Key.ofText text with
    | group connective => simp
    | _ => simp [key, Key.keyClass] at dropped

theorem ofPairs_withoutJoins (options : GrammarOptions) (pairs : List (String × String)) :
    ofPairs { options with joins := false } pairs =
      ofPairs { options with joins := true } (pairs.filter fun pair => !isJoinPair pair) := by
  unfold ofPairs
  congr 1
  apply foldlM_filter
  · rintro query ⟨text, value⟩ kept
    simp only [isJoinPair, classOf] at kept
    simp only [addPair]
    cases key : Key.ofText text with
    | join kind => simp [key, Key.keyClass] at kept
    | _ => rfl
  · rintro query ⟨text, value⟩ dropped
    simp only [isJoinPair, classOf] at dropped
    simp only [addPair]
    cases key : Key.ofText text with
    | join kind => simp
    | _ => simp [key, Key.keyClass] at dropped

/-- Only the order within each class of pairs counts, and a switched-off key might as well not be
there. -/
theorem ofPairs_rearranged (options : GrammarOptions) (pairs : List (String × String)) :
    (∀ others, Rearranged pairs others → ∀ query,
      ofPairs options pairs = .ok query ↔ ofPairs options others = .ok query) ∧
    ofPairs { options with groups := false } pairs =
      ofPairs { options with groups := true } (pairs.filter fun pair => !isGroupPair pair) ∧
    ofPairs { options with joins := false } pairs =
      ofPairs { options with joins := true } (pairs.filter fun pair => !isJoinPair pair) := by
  have onlyIf (pairs others : List (String × String)) (rearranged : Rearranged pairs others)
      (query : Query) (read : ofPairs options pairs = .ok query) : ofPairs options others = .ok query := by
    rw [ofPairs_eq_gather] at read ⊢
    cases gathered : gather options pairs with
    | error fault => simp [gathered, Except.map] at read
    | ok found => rw [gather_of_rearranged options pairs others rearranged found gathered, ← gathered, read]
  refine ⟨?_, ofPairs_withoutGroups options pairs, ofPairs_withoutJoins options pairs⟩
  intro others rearranged query
  exact ⟨onlyIf pairs others rearranged query, onlyIf others pairs rearranged.symm query⟩

def mixedOrder : List (String × String) :=
  [("limit", "5"), ("name", "Ann"), ("or", "(age.gt.3)"), ("limit", "7"), ("age.lt", "9"),
    ("leftJoin", "teams:team_id=id")]

def sortedOrder : List (String × String) :=
  [("leftJoin", "teams:team_id=id"), ("name", "Ann"), ("age.lt", "9"), ("limit", "5"), ("limit", "7"),
    ("or", "(age.gt.3)")]

def mixedOrderQuery : Query where
  select := ["*"]
  filters := [⟨"name", .eq, some "Ann"⟩, ⟨"age", .lt, some "9"⟩]
  orGroup := [⟨"age", .gt, some "3"⟩]
  joins := [⟨.left, "teams", "team_id", "id"⟩]
  limit := some 7

theorem ofPairs_rearranged_mixedOrder :
    Rearranged mixedOrder sortedOrder ∧
      ofPairs { mode := .strict } mixedOrder = .ok mixedOrderQuery ∧
      ofPairs { mode := .strict } sortedOrder = .ok mixedOrderQuery := by
  have rearranged : Rearranged mixedOrder sortedOrder := by
    intro keyClass
    cases keyClass with
    | group connective => cases connective <;> decide
    | _ => decide
  have read : ofPairs { mode := .strict } mixedOrder = .ok mixedOrderQuery := rfl
  exact ⟨rearranged, read,
    ((ofPairs_rearranged { mode := .strict } mixedOrder).1 sortedOrder rearranged _).mp read⟩

end Query

end RowGate
