import RowGate.Proofs.Query.Group
import RowGate.Proofs.Query.Strict
import RowGate.Proofs.Query.Syntax

set_option autoImplicit false

/-!
# Parentheses around a group

A group may stand in parentheses. Its reader drops one parenthesis at either end, each on its own
account, so a parenthesis that stands at one end only is taken from the condition it belongs to. Texts
with none at their ends read the same in parentheses, and for the others `ofPairs_parentheses` says when
they do.
-/

namespace RowGate.Query

theorem nonblank_append (front back : List (List Char)) :
    nonblank (front ++ back) = nonblank front ++ nonblank back := by
  simp [nonblank]

theorem nonblank_modifyHead (c : Char) (texts : List (List Char)) (blank : Text.isBlank c = true) :
    nonblank (texts.modifyHead (c :: ·)) = nonblank texts := by
  cases texts with
  | nil => rfl
  | cons first rest =>
    rw [nonblank, List.modifyHead_cons, List.map_cons, Text.trim_blank_cons c first blank]
    rfl

theorem nonblank_segments_blanks (before text : List Char)
    (blank : ∀ c ∈ before, Text.isBlank c = true) :
    nonblank (Group.segments ',' (before ++ text)) = nonblank (Group.segments ',' text) := by
  induction before with
  | nil => rfl
  | cons c before ih =>
    have further := ih fun d member => blank d (List.mem_cons_of_mem c member)
    have first := blank c List.mem_cons_self
    have plain (mark : Char) (solid : Text.isBlank mark = false) : c ≠ mark := by
      rintro rfl
      rw [solid] at first
      cases first
    have level : Group.depthAfter 0 c = 0 := by
      rw [Group.depthAfter, if_neg (plain '(' (by decide)), if_neg (plain ')' (by decide))]
    rw [Group.segments, List.cons_append, Group.segmentsFrom_cons, level,
      if_neg fun cut => plain ',' (by decide) cut.1, nonblank_modifyHead c _ first]
    exact further

theorem nonblank_segments_trim (text : List Char) :
    nonblank (Group.segments ',' text) = nonblank (Group.segments ',' (Text.trim text)) := by
  obtain ⟨before, after, shape, blank⟩ := Text.exists_append_trim text
  obtain ⟨front, back⟩ := List.forall_mem_append.mp blank
  have comma : ',' ∉ after := fun member => absurd (back ',' member) (by decide)
  obtain ⟨others, last, alone, extended⟩ := Group.segmentsFrom_append ',' 0 (Text.trim text) after comma
  have same : nonblank [last ++ after] = nonblank [last] := by
    rw [nonblank, List.map_singleton, Text.trim_append_blanks last after back]
    rfl
  calc nonblank (Group.segments ',' text)
      = nonblank (Group.segments ',' (before ++ (Text.trim text ++ after))) := by
        rw [← List.append_assoc, ← shape]
    _ = nonblank (Group.segments ',' (Text.trim text ++ after)) :=
        nonblank_segments_blanks before _ front
    _ = nonblank (Group.segments ',' (Text.trim text)) := by
        rw [Group.segments, Group.segments, alone, extended, nonblank_append, nonblank_append, same]

def Opens (text : List Char) : Prop :=
  (Text.trim text).head? = some '('

def Closes (text : List Char) : Prop :=
  (Text.trim text).getLast? = some ')'

instance (text : List Char) : Decidable (Opens text) :=
  inferInstanceAs (Decidable (_ = _))

instance (text : List Char) : Decidable (Closes text) :=
  inferInstanceAs (Decidable (_ = _))

theorem dropOpening_eq_self (text : List Char) (unopened : text.head? ≠ some '(') :
    dropOpening text = text := by
  unfold dropOpening
  split
  · exact absurd rfl unopened
  · rfl

theorem dropClosing_eq_self (text : List Char) (unclosed : text.getLast? ≠ some ')') :
    dropClosing text = text :=
  if_neg unclosed

theorem groupTokens_parenthesized (text : List Char) :
    groupTokens ('(' :: text ++ [')']) = nonblank (Group.segments ',' (Text.trim text)) := by
  rw [groupTokens_eq_nonblank, Text.trim_eq_self _ (trimmed_parentheses text), ← nonblank_segments_trim]
  simp [dropOpening, dropClosing]

theorem groupTokens_bare (text : List Char) (unopened : ¬Opens text) (unclosed : ¬Closes text) :
    groupTokens text = groupTokens ('(' :: text ++ [')']) := by
  rw [groupTokens_parenthesized, groupTokens_eq_nonblank, dropOpening_eq_self _ unopened,
    dropClosing_eq_self _ unclosed]

/-- The tokens that lose a parenthesis which stands at one end only: those up to the comma at depth
zero where an opening one is closed again, or the last one for a closing one. -/
def strayTokens (text : List Char) : List (List Char) :=
  let segments := Group.segments ',' (Text.trim text)
  if Opens text then
    nonblank (Group.segments ',' (segments.head?.getD []).tail)
  else nonblank [(segments.getLast?.getD []).dropLast]

theorem tokens_of_opens (text : List Char) (opens : Opens text) (unclosed : ¬Closes text) :
    ∃ token rest, groupTokens text = strayTokens text ++ rest ∧
      groupTokens ('(' :: text ++ [')']) = ('(' :: token) :: rest := by
  rw [groupTokens_parenthesized, groupTokens_eq_nonblank, strayTokens, if_pos opens]
  cases shape : Text.trim text with
  | nil => simp [Opens, shape] at opens
  | cons c inner =>
    rw [Opens, shape] at opens
    rw [Closes, shape] at unclosed
    cases opens
    have kept : dropClosing inner = inner := by
      apply dropClosing_eq_self
      intro last
      cases inner with
      | nil => cases last
      | cons d more => exact unclosed (by rwa [List.getLast?_cons_cons])
    cases deeper : Group.segmentsFrom ',' 1 inner with
    | nil => exact absurd deeper (Group.segmentsFrom_ne_nil _ _ _)
    | cons first rest =>
      have split := Group.segmentsFrom_shallower ',' 0 1 (by decide) inner first rest deeper
      have whole : Group.segments ',' ('(' :: inner) = ('(' :: first) :: rest := by
        rw [Group.segments, Group.segmentsFrom_cons, if_neg (by decide)]
        exact congrArg (List.modifyHead ('(' :: ·)) deeper
      obtain ⟨more, trimmed⟩ := Text.trim_cons '(' first (by decide)
      refine ⟨more, nonblank rest, ?_, ?_⟩
      · rw [whole]
        change nonblank (Group.segments ',' (dropClosing inner)) = _
        rw [kept, Group.segments, split, nonblank_append]
        rfl
      · rw [whole, nonblank, List.map_cons, trimmed]
        rfl

theorem tokens_of_closes (text : List Char) (unopened : ¬Opens text) (closes : Closes text) :
    ∃ front last, groupTokens text = front ++ strayTokens text ∧ strayTokens text = nonblank [last] ∧
      groupTokens ('(' :: text ++ [')']) = front ++ [Text.trim (last ++ [')'])] := by
  rw [groupTokens_parenthesized, groupTokens_eq_nonblank, strayTokens, if_neg unopened,
    dropOpening_eq_self _ unopened]
  obtain ⟨inner, shape⟩ := List.getLast?_eq_some_iff.mp closes
  obtain ⟨others, last, alone, extended⟩ := Group.segmentsFrom_append ',' 0 inner [')'] (by decide)
  have cut : dropClosing (Text.trim text) = inner := by simp [dropClosing, shape]
  obtain ⟨blanks, token, -⟩ := Text.exists_trim_concat last ')' (by decide)
  refine ⟨nonblank others, last, ?_, ?_, ?_⟩
  · rw [cut, shape, Group.segments, Group.segments, alone, extended, nonblank_append]
    simp
  · rw [shape, Group.segments, extended]
    simp
  · rw [shape, Group.segments, extended, nonblank_append]
    simp [nonblank, token]

theorem exists_broken_of_opening (token : List Char) :
    ∃ fault, groupFragment ('(' :: token) = .broken fault := by
  cases found : Group.parts? ('(' :: token) with
  | none => exact ⟨_, by rw [groupFragment, found]⟩
  | some parts =>
    obtain ⟨word, shape, -⟩ := shape_of_parts? _ parts found
    have invalid : isIdentifierText parts.column = false := by
      cases column : parts.column with
      | nil => rfl
      | cons c rest =>
        rw [column] at shape
        obtain rfl : '(' = c := (List.cons.inj shape).1
        rfl
    rw [groupFragment, found]
    dsimp only
    cases Operator.ofText? parts.operator with
    | none => exact ⟨_, rfl⟩
    | some operator => exact ⟨_, if_neg (by simp [invalid])⟩

theorem cut?_append_back (separator : Char) (text more : List Char) (absent : separator ∉ more) :
    Text.cut? separator (text ++ more) =
      (Text.cut? separator text).map fun (before, after) => (before, after ++ more) := by
  induction text with
  | nil => exact (Text.cut?_eq_none_iff separator more).mpr absent
  | cons c rest ih =>
    rw [List.cons_append, Text.cut?, Text.cut?, ih]
    split
    · rfl
    · cases Text.cut? separator rest <;> rfl

-- `not.` ends in its only dot.
theorem negates_append (rest more : List Char) (dotted : '.' ∈ rest)
    (negates : lowerAscii ((rest ++ more).take 4) = Group.negation) : 4 ≤ rest.length := by
  by_contra short
  have front : lowerAscii rest = Group.negation.take rest.length := by
    rw [← negates, lowerAscii, lowerAscii, ← List.map_take, List.take_take,
      Nat.min_eq_left (by omega), List.take_left]
  have lowered : '.' ∈ lowerAscii rest := List.mem_map_of_mem dotted
  rw [front] at lowered
  have room : rest.length ≤ 3 := by omega
  exact absurd (List.take_subset_take_left _ room lowered) (by decide)

theorem parts?_append (token more : List Char) (dotless : '.' ∉ more) :
    Group.parts? (token ++ more) =
      (Group.parts? token).map fun parts => { parts with value := parts.value ++ more } := by
  rw [Group.parts?, Group.parts?, cut?_append_back '.' token more dotless]
  cases Text.cut? '.' token with
  | none => rfl
  | some found =>
    obtain ⟨column, rest⟩ := found
    simp only [Option.map_some, Option.bind_eq_bind, Option.bind_some]
    by_cases dotted : '.' ∈ rest
    next =>
      by_cases negates : lowerAscii (rest.take 4) = Group.negation
      next =>
        have long := negates_append rest [] dotted (by rwa [List.append_nil])
        rw [List.take_append_of_le_length long, List.drop_append_of_le_length long,
          if_pos (by exact negates), if_pos (by exact negates), cut?_append_back '.' _ more dotless]
        cases Text.cut? '.' (rest.drop 4) <;> rfl
      next =>
        have positive : lowerAscii ((rest ++ more).take 4) ≠ Group.negation := by
          intro same
          rw [List.take_append_of_le_length (negates_append rest more dotted same)] at same
          exact negates same
        rw [if_neg (by exact positive), if_neg (by exact negates), cut?_append_back '.' rest more dotless]
        cases Text.cut? '.' rest <;> rfl
    next =>
      -- Whichever way the operator starts, no dot follows it.
      have uncut (text : List Char) (inside : ∀ c ∈ text, c ∈ rest ++ more) :
          Text.cut? '.' text = none ∧ Text.cut? '.' (text.drop 4) = none := by
        rw [Text.cut?_eq_none_iff, Text.cut?_eq_none_iff]
        have absent : '.' ∉ text := fun member =>
          (List.mem_append.mp (inside '.' member)).elim dotted dotless
        exact ⟨absent, fun member => absent (List.mem_of_mem_drop member)⟩
      have alone := uncut rest fun c member => List.mem_append_left more member
      have extended := uncut (rest ++ more) fun c member => member
      simp [alone, extended]

theorem groupFragment_append (token more : List Char) (dotless : '.' ∉ more) :
    (∃ fault other, groupFragment token = .broken fault ∧
      groupFragment (token ++ more) = .broken other) ∨
    ∃ column operator value, isIdentifierText column = true ∧
      groupFragment token = clauseFragment column operator value ∧
      groupFragment (token ++ more) = clauseFragment column operator (value ++ more) := by
  rw [groupFragment, groupFragment, parts?_append token more dotless]
  cases Group.parts? token with
  | none => exact .inl ⟨_, _, rfl, rfl⟩
  | some parts =>
    simp only [Option.map_some]
    cases Operator.ofText? parts.operator with
    | none => exact .inl ⟨_, _, rfl, rfl⟩
    | some operator =>
      by_cases valid : isIdentifierText parts.column = true
      · exact .inr ⟨parts.column, operator, parts.value, valid, rfl, rfl⟩
      · exact .inl ⟨_, _, if_neg valid, if_neg valid⟩

def balance (text : List Char) : Int :=
  text.count '(' - text.count ')'

@[simp] theorem balance_append (front back : List Char) :
    balance (front ++ back) = balance front + balance back := by
  simp only [balance, List.count_append]
  omega

theorem balance_of_blanks (text : List Char) (blank : ∀ c ∈ text, Text.isBlank c = true) :
    balance text = 0 := by
  have none (mark : Char) (solid : Text.isBlank mark = false) : text.count mark = 0 :=
    List.count_eq_zero.mpr fun member => by simp [blank mark member] at solid
  rw [balance, none '(' (by decide), none ')' (by decide)]
  rfl

theorem balance_trim (text : List Char) : balance (Text.trim text) = balance text := by
  obtain ⟨before, after, shape, blank⟩ := Text.exists_append_trim text
  obtain ⟨front, back⟩ := List.forall_mem_append.mp blank
  have whole := congrArg balance shape
  rw [balance_append, balance_append, balance_of_blanks before front, balance_of_blanks after back] at whole
  omega

theorem balance_likePattern (text : List Char) : balance (likePattern text) = balance text := by
  induction text with
  | nil => rfl
  | cons c rest ih =>
    have first : balance [if c = '*' then '%' else c] = balance [c] := by
      split
      next star => rw [star]; decide
      next => rfl
    rw [likePattern, List.map_cons, ← List.singleton_append, balance_append, first,
      ← List.singleton_append (l := rest), balance_append]
    exact congrArg _ ih

theorem balance_unwrapList (text : List Char) : balance (unwrapList text) = balance text := by
  rw [unwrapList_eq, withoutParentheses]
  split
  next ends =>
    obtain ⟨opens, closes⟩ := ends
    cases shape : Text.trim text with
    | nil => simp [shape] at opens
    | cons c inner =>
      rw [shape] at opens closes
      cases opens
      have filled : inner ≠ [] := by
        rintro rfl
        cases closes
      obtain ⟨inside, rfl⟩ : ∃ inside, inner = inside ++ [')'] := by
        rw [List.getLast?_cons_of_ne_nil filled] at closes
        exact List.getLast?_eq_some_iff.mp closes
      have whole : balance ('(' :: (inside ++ [')'])) = balance inside := by
        rw [← List.singleton_append, balance_append, balance_append]
        change 1 + (balance inside + -1) = _
        omega
      rw [← balance_trim text, shape, whole, List.tail_cons, List.dropLast_concat]
  next => rfl

theorem balance_clauseValue (operator : Operator) (value : List Char) :
    balance (clauseValue operator value) = balance value := by
  cases operator with
  | like | ilike => exact balance_likePattern value
  | isIn | notIn => exact balance_unwrapList value
  | _ => rfl

-- How the token that keeps a parenthesis stands to the ones that have lost it: where it is well
-- formed so are they, but never as the same clauses.
structure Spoils (token : List Char) (stray : List (List Char)) : Prop where
  wellFormed : (groupFragment token).WellFormed → ∀ other ∈ stray, (groupFragment other).WellFormed
  differs : (groupFragment token).WellFormed → stray.map groupFragment ≠ [groupFragment token]
  values : stray.filterMap (fun other => (groupFragment other).value?) =
      (groupFragment token).value?.toList ↔ ∀ other ∈ stray, (groupFragment other).value? = none

theorem spoils_of_broken (token : List Char) (stray : List (List Char)) (fault : Error)
    (broken : groupFragment token = .broken fault) : Spoils token stray := by
  constructor
  · rw [broken]
    exact False.elim
  · rw [broken]
    exact False.elim
  · rw [broken]
    exact List.filterMap_eq_nil_iff

theorem not_wellFormed_is (column value more : List Char) (closes : ')' ∈ more) :
    ¬(clauseFragment column .is (value ++ more)).WellFormed := by
  intro proper
  cases made : clauseFragment column .is (value ++ more) with
  | wellFormed clause =>
    have known := ((clauseFragment_eq_wellFormed_iff _ _ _ clause).mp made).known rfl
    have kept := Text.mem_of_mem_trim (value ++ more) ')' (by decide) (List.mem_append_right value closes)
    have lowered : ')' ∈ lowerAscii (Text.trim (value ++ more)) := List.mem_map_of_mem kept
    rcases known with null | filled
    · rw [null] at lowered
      exact absurd lowered (by decide)
    · rw [filled] at lowered
      exact absurd lowered (by decide)
  | repaired clause fault =>
    rw [made] at proper
    exact proper
  | broken fault =>
    rw [made] at proper
    exact proper

theorem wellFormed_clauseFragment (column : List Char) (operator : Operator) (value : List Char)
    (valid : isIdentifierText column = true) (other : operator ≠ .is) :
    (clauseFragment column operator value).WellFormed := by
  have read := (clauseFragment_eq_wellFormed_iff column operator value _).mpr
    ⟨valid, fun is => absurd is other, rfl⟩
  rw [read]
  trivial

theorem clauseValue_closing_ne (operator : Operator) (value blanks : List Char)
    (blank : ∀ c ∈ blanks, Text.isBlank c = true) :
    clauseValue operator (value ++ (blanks ++ [')'])) ≠ clauseValue operator value := by
  intro same
  have equal := congrArg balance same
  rw [balance_clauseValue, balance_clauseValue, balance_append, balance_append,
    balance_of_blanks blanks blank] at equal
  change balance value + (0 + -1) = balance value at equal
  omega

theorem spoils_of_clause (column : List Char) (operator : Operator) (value blanks token other : List Char)
    (valid : isIdentifierText column = true) (blank : ∀ c ∈ blanks, Text.isBlank c = true)
    (kept : groupFragment token = clauseFragment column operator (value ++ (blanks ++ [')'])))
    (bare : groupFragment other = clauseFragment column operator value) : Spoils token [other] := by
  have values (text : List Char) := value?_clauseFragment column operator text valid
  have different : (groupFragment other).value? ≠ (groupFragment token).value? := by
    rw [bare, kept, values, values]
    simpa [String.ofList_inj] using (clauseValue_closing_ne operator value blanks blank).symm
  constructor
  next =>
    intro proper member inside
    rw [List.mem_singleton.mp inside, bare]
    apply wellFormed_clauseFragment _ _ _ valid
    rintro rfl
    rw [kept] at proper
    exact not_wellFormed_is column value _ (by simp) proper
  next =>
    intro _ same
    exact different (congrArg Fragment.value? (List.singleton_inj.mp same))
  next =>
    apply iff_of_false
    · intro same
      apply different
      simpa [bare, kept, values] using same
    · simp [bare, values]

theorem spoils_of_closing (last : List Char) :
    Spoils (Text.trim (last ++ [')'])) (nonblank [last]) := by
  obtain ⟨blanks, token, blank⟩ := Text.exists_trim_concat last ')' (by decide)
  have dotless : '.' ∉ blanks ++ [')'] := by
    have solid : '.' ∉ blanks := fun member => absurd (blank '.' member) (by decide)
    simp [solid]
  rw [token]
  by_cases empty : Text.trim last = []
  next =>
    have uncut : Group.parts? ([] ++ (blanks ++ [')'])) = none := by
      rw [parts?_append [] _ dotless]
      rfl
    rw [empty]
    exact spoils_of_broken _ _ _ (by rw [groupFragment, uncut])
  next =>
    have stray : nonblank [last] = [Text.trim last] := by simp [nonblank, empty]
    rw [stray]
    obtain ⟨fault, other, -, broken⟩ | ⟨column, operator, value, valid, bare, kept⟩ :=
      groupFragment_append (Text.trim last) _ dotless
    · exact spoils_of_broken _ _ other broken
    · exact spoils_of_clause column operator value blanks _ _ valid blank kept bare

-- One token of the group in parentheses stands in the place of those that lose one without.
theorem exists_spoils (text : List Char) (one : Opens text ∨ Closes text)
    (apart : ¬(Opens text ∧ Closes text)) :
    ∃ front token back, groupTokens text = front ++ (strayTokens text ++ back) ∧
      groupTokens ('(' :: text ++ [')']) = front ++ ([token] ++ back) ∧
      Spoils token (strayTokens text) := by
  by_cases opens : Opens text
  next =>
    obtain ⟨token, rest, bare, wrapped⟩ := tokens_of_opens text opens fun closes => apart ⟨opens, closes⟩
    obtain ⟨fault, broken⟩ := exists_broken_of_opening token
    exact ⟨[], '(' :: token, rest, bare, wrapped, spoils_of_broken _ _ fault broken⟩
  next =>
    obtain ⟨front, last, bare, stray, wrapped⟩ := tokens_of_closes text opens (one.resolve_left opens)
    refine ⟨front, _, [], ?_, ?_, stray ▸ spoils_of_closing last⟩
    · rw [bare, List.append_nil]
    · rw [wrapped, List.append_nil]

/-- Both are refused, or both are accepted as the same. -/
def Agree {α : Type} (first second : Except Error α) : Prop :=
  ∀ value, first = .ok value ↔ second = .ok value

theorem agree_map_iff {α β : Type} (put : α → β) (injective : ∀ a b, put a = put b → a = b)
    (first second : Except Error α) :
    Agree (first.map put) (second.map put) ↔ Agree first second := by
  have lift (outcome : Except Error α) (value : α) :
      outcome.map put = .ok (put value) ↔ outcome = .ok value := by
    cases outcome with
    | error fault => simp [Except.map]
    | ok found => simpa [Except.map] using ⟨injective found value, congrArg put⟩
  constructor
  next =>
    intro agree value
    rw [← lift first, ← lift second]
    exact agree (put value)
  next =>
    intro agree value
    cases first with
    | error fault =>
      cases second with
      | error other => simp [Except.map]
      | ok found => cases (agree found).mpr rfl
    | ok found =>
      rw [(agree found).mp rfl]

theorem agree_lenient_iff (front back : List (List Char)) (token : List Char) (stray : List (List Char))
    (spoils : Spoils token stray) :
    Agree (Fragment.settle .lenient ((front ++ (stray ++ back)).map groupFragment))
        (Fragment.settle .lenient ((front ++ ([token] ++ back)).map groupFragment)) ↔
      ∀ other ∈ stray, (groupFragment other).value? = none := by
  have values (texts : List (List Char)) :
      Fragment.settle .lenient (texts.map groupFragment) =
        .ok (texts.filterMap fun text => (groupFragment text).value?) := by
    rw [Fragment.settle_lenient, List.filterMap_map]
    rfl
  have same (first second : List Clause) :
      Agree (.ok first : Except Error (List Clause)) (.ok second) ↔ first = second := by
    constructor
    · exact fun agree => (Except.ok.inj ((agree first).mp rfl)).symm
    · rintro rfl
      exact fun _ => Iff.rfl
  have single : [token].filterMap (fun text => (groupFragment text).value?) =
      (groupFragment token).value?.toList := by
    cases found : (groupFragment token).value? <;> simp [found]
  rw [values, values, same, List.filterMap_append, List.filterMap_append, List.filterMap_append,
    List.filterMap_append, single, List.append_cancel_left_eq, List.append_cancel_right_eq, spoils.values]

theorem agree_strict_iff (front back : List (List Char)) (token : List Char) (stray : List (List Char))
    (spoils : Spoils token stray) :
    Agree (Fragment.settle .strict ((front ++ (stray ++ back)).map groupFragment))
        (Fragment.settle .strict ((front ++ ([token] ++ back)).map groupFragment)) ↔
      ∀ clauses, Fragment.settle .strict ((front ++ (stray ++ back)).map groupFragment) ≠ .ok clauses := by
  constructor
  next =>
    intro agree clauses bare
    have wrapped := (agree clauses).mp bare
    have proper := Fragment.wellFormed_of_settle_strict _ _ wrapped (groupFragment token)
      (List.mem_map_of_mem (by simp))
    have same := ((Fragment.settle_strict_eq_ok_iff _ _).mp bare).trans
      ((Fragment.settle_strict_eq_ok_iff _ _).mp wrapped).symm
    rw [List.map_append, List.map_append, List.map_append, List.map_append, List.append_cancel_left_eq,
      List.append_cancel_right_eq] at same
    exact spoils.differs proper same
  next =>
    intro refused clauses
    refine ⟨fun bare => absurd bare (refused clauses), fun wrapped => ?_⟩
    have proper := List.forall_mem_map.mp (Fragment.wellFormed_of_settle_strict _ _ wrapped)
    obtain ⟨first, rest⟩ := List.forall_mem_append.mp proper
    obtain ⟨kept, last⟩ := List.forall_mem_append.mp rest
    have others := spoils.wellFormed (kept token (List.mem_singleton_self token))
    have accepted := Fragment.settle_strict_of_wellFormed _ (List.forall_mem_map.mpr
      (List.forall_mem_append.mpr ⟨first, List.forall_mem_append.mpr ⟨others, last⟩⟩))
    exact absurd accepted (refused _)

theorem toList_parenthesized (text : String) :
    ("(" ++ text ++ ")").toList = '(' :: text.toList ++ [')'] := by
  simp

theorem ofPairs_groupsOff (options : GrammarOptions) (disabled : options.groups = false)
    (connective : Connective) (value : String) :
    ofPairs options [(connective.key, value)] = .ok { select := ["*"] } := by
  rw [ofPairs, List.foldlM_cons]
  simp only [addPair, Key.ofText_key, disabled]
  rfl

/-- Parentheses around a group may be left out, unless one is left of two: then the group reads the same
with and without them only if it is refused, or if no condition that loses a parenthesis is read. -/
theorem ofPairs_parentheses (options : GrammarOptions) (connective : Connective) (text : String)
    (apart : ¬(Opens text.toList ∧ Closes text.toList)) :
    (options.groups = false ∨ ¬Opens text.toList ∧ ¬Closes text.toList →
      ofPairs options [(connective.key, text)] =
        ofPairs options [(connective.key, "(" ++ text ++ ")")]) ∧
    (options.groups = true → Opens text.toList ∨ Closes text.toList →
      (Agree (ofPairs options [(connective.key, text)])
          (ofPairs options [(connective.key, "(" ++ text ++ ")")]) ↔
        match options.mode with
        | .lenient => ∀ token ∈ strayTokens text.toList, (groupFragment token).value? = none
        | .strict => ∀ query, ofPairs options [(connective.key, text)] ≠ .ok query)) := by
  constructor
  next =>
    rintro (disabled | ⟨unopened, unclosed⟩)
    next => rw [ofPairs_groupsOff options disabled, ofPairs_groupsOff options disabled]
    next =>
      cases enabled : options.groups with
      | false => rw [ofPairs_groupsOff options enabled, ofPairs_groupsOff options enabled]
      | true =>
        rw [ofPairs_group options enabled, ofPairs_group options enabled, toList_parenthesized,
          groupFragments, groupFragments, groupTokens_bare _ unopened unclosed]
  next =>
    intro enabled one
    obtain ⟨front, token, back, bare, wrapped, spoils⟩ := exists_spoils text.toList one apart
    rw [ofPairs_group options enabled, ofPairs_group options enabled, toList_parenthesized,
      groupFragments, groupFragments, bare, wrapped, agree_map_iff]
    next =>
      cases options.mode with
      | lenient => exact agree_lenient_iff front back token _ spoils
      | strict =>
        rw [agree_strict_iff front back token _ spoils]
        dsimp only
        cases Fragment.settle .strict ((front ++ (strayTokens text.toList ++ back)).map groupFragment) <;>
          simp [Except.map]
    next =>
      intro first second same
      cases connective
      · exact congrArg Query.andGroup same
      · exact congrArg Query.orGroup same

theorem ofPairs_parentheses_list :
    (¬(Opens " status.in.(a,b),age.gt.5 ".toList ∧ Closes " status.in.(a,b),age.gt.5 ".toList) ∧
      ofPairs { mode := .strict } [("or", " status.in.(a,b),age.gt.5 ")] =
        ofPairs { mode := .strict } [("or", "(" ++ " status.in.(a,b),age.gt.5 " ++ ")")]) ∧
    ¬(Opens "age.gt.5,junk)".toList ∧ Closes "age.gt.5,junk)".toList) ∧
      Agree (ofPairs {} [("and", "age.gt.5,junk)")]) (ofPairs {} [("and", "(" ++ "age.gt.5,junk)" ++ ")")]) := by
  have bare : ¬Opens " status.in.(a,b),age.gt.5 ".toList ∧ ¬Closes " status.in.(a,b),age.gt.5 ".toList := by
    decide
  have closing : ¬Opens "age.gt.5,junk)".toList ∧ Closes "age.gt.5,junk)".toList := by decide
  have list := ofPairs_parentheses { mode := .strict } .or " status.in.(a,b),age.gt.5 " fun both =>
    bare.1 both.1
  have junk := ofPairs_parentheses {} .and "age.gt.5,junk)" fun both => closing.1 both.1
  have stray : ∀ token ∈ strayTokens "age.gt.5,junk)".toList, (groupFragment token).value? = none := by
    decide
  exact ⟨⟨fun both => bare.1 both.1, list.1 (.inr bare)⟩, fun both => closing.1 both.1,
    (junk.2 rfl (.inr closing.2)).mpr stray⟩

-- The parenthesis that closes the value is taken for one around the group.
theorem ofPairs_call_ne_parenthesized :
    ¬(Opens "name.eq.f(x)".toList ∧ Closes "name.eq.f(x)".toList) ∧
      ofPairs {} [("and", "name.eq.f(x)")] =
        .ok { select := ["*"], andGroup := [⟨"name", .eq, some "f(x"⟩] } ∧
      ofPairs {} [("and", "(" ++ "name.eq.f(x)" ++ ")")] =
        .ok { select := ["*"], andGroup := [⟨"name", .eq, some "f(x)"⟩] } ∧
      ofPairs {} [("and", "name.eq.f(x)")] ≠ ofPairs {} [("and", "(" ++ "name.eq.f(x)" ++ ")")] := by
  decide +kernel

end RowGate.Query
