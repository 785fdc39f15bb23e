import RowGate.Proofs.Plan
import RowGate.Proofs.Sql.Statement
import RowGate.Proofs.Sql.Truth

set_option autoImplicit false

namespace RowGate.Sql

def nameToken (name : String) : Token :=
  if name = "*" then .symbol '*' else .quoted name.toList

theorem tokens_name (name : String) : Piece.tokens (.name name) = [nameToken name] := by
  rw [Piece.tokens, nameToken]
  split <;> rfl

theorem tokens_fixed (text : String) : Piece.tokens (.fixed text) = keyword text :=
  rfl

theorem tokens_placeholder (index : Nat) : Piece.tokens (.placeholder index) = [.placeholder index] :=
  rfl

theorem nameToken_ne_blank (name : String) : nameToken name ≠ .symbol ' ' := by
  rw [nameToken]
  split <;> simp

theorem column?_nameToken (name : String) : column? [nameToken name] = some name := by
  rw [nameToken]
  split
  next star => rw [star]; rfl
  next => simp [column?]

theorem words_append (front back : List Token) :
    words (front ++ .symbol ' ' :: back) = words front ++ words back := by
  rw [words, List.splitOn_eq_splitOnP]
  exact List.splitOnP_append_cons front back (by simp)

theorem words_eq_singleton (tokens : List Token) (solid : .symbol ' ' ∉ tokens) :
    words tokens = [tokens] := by
  rw [words, List.splitOn_eq_splitOnP]
  apply List.splitOnP_eq_singleton
  intro token member
  simpa using fun same : token = .symbol ' ' => solid (same ▸ member)

theorem flatten_words (tokens : List Token) :
    (words tokens).flatten = tokens.filter (· ≠ .symbol ' ') := by
  rw [words, List.splitOn_eq_splitOnP]
  induction tokens with
  | nil => rfl
  | cons token rest ih =>
    rw [List.splitOnP_cons_eq_if_modifyHead]
    by_cases blank : token = .symbol ' '
    · rw [if_pos (by simpa using blank)]
      simpa [blank] using ih
    · rw [if_neg (by simpa using blank)]
      cases found : rest.splitOnP (· == .symbol ' ') with
      | nil => exact absurd found (List.splitOnP_ne_nil _ rest)
      | cons word more =>
        rw [found] at ih
        simpa [blank] using ih

theorem mem_of_mem_words (tokens word : List Token) (token : Token) (member : word ∈ words tokens)
    (inside : token ∈ word) : token ∈ tokens := by
  have kept : token ∈ (words tokens).flatten := List.mem_flatten_of_mem member inside
  rw [flatten_words] at kept
  exact (List.mem_filter.1 kept).1

/-- The test that the text of a predicate is read as. -/
def Test.ofPredicate (column : String) : Predicate → Test
  | .compare operator value => .compare column operator value
  | .isNull => .isNull column
  | .isNotNull => .isNotNull column
  | .isIn [] => .constant false
  | .notIn [] => .constant true
  | .isIn values => .isIn column values
  | .notIn values => .notIn column values

def Test.ofCondition (condition : Condition) : Test :=
  .ofPredicate condition.column condition.predicate

namespace Statement

def itemTokens (bound count : Nat) : List Token :=
  (placeholders bound count).flatMap Piece.tokens ++ [.symbol ')']

def predicateWords (bound : Nat) (column : String) : Predicate → List (List Token)
  | .compare operator _ => [[nameToken column], keyword operator.sql, [.placeholder (bound + 1)]]
  | .isNull => [[nameToken column], keyword "IS", keyword "NULL"]
  | .isNotNull => [[nameToken column], keyword "IS", keyword "NOT", keyword "NULL"]
  | .isIn [] => [[.symbol '1'], [.symbol '='], [.symbol '0']]
  | .notIn [] => [[.symbol '1'], [.symbol '='], [.symbol '1']]
  | .isIn values => [nameToken column] :: keyword "IN" :: words (.symbol '(' :: itemTokens bound values.length)
  | .notIn values =>
    [nameToken column] :: keyword "NOT" :: keyword "IN" :: words (.symbol '(' :: itemTokens bound values.length)

def Compares : Predicate → Prop
  | .compare operator _ => operator ∈ comparisons
  | _ => True

theorem words_name (column : String) (rest : List Token) :
    words (nameToken column :: .symbol ' ' :: rest) = [nameToken column] :: words rest := by
  have solid : .symbol ' ' ∉ [nameToken column] := by
    simpa using (nameToken_ne_blank column).symm
  have cut := words_append [nameToken column] rest
  rwa [words_eq_singleton _ solid] at cut

theorem words_keyword (text : String) (solid : .symbol ' ' ∉ keyword text) (rest : List Token) :
    words (keyword text ++ .symbol ' ' :: rest) = keyword text :: words rest := by
  rw [words_append, words_eq_singleton _ solid]
  rfl

theorem words_predicatePieces (bound : Nat) (column : String) (predicate : Predicate)
    (compares : Compares predicate) :
    words ((predicatePieces bound column predicate).flatMap Piece.tokens) =
      predicateWords bound column predicate := by
  cases predicate with
  | compare operator value =>
    have solid : .symbol ' ' ∉ keyword operator.sql := by
      cases operator <;> simp [Compares, comparisons] at compares <;> decide
    have shape : (predicatePieces bound column (.compare operator value)).flatMap Piece.tokens =
        nameToken column :: .symbol ' ' ::
          (keyword operator.sql ++ .symbol ' ' :: [.placeholder (bound + 1)]) := by
      simp [predicatePieces, tokens_name, tokens_fixed, tokens_placeholder, keyword]
    rw [shape, words_name, words_keyword _ solid, words_eq_singleton _ (by simp)]
    rfl
  | isNull =>
    have shape : (predicatePieces bound column .isNull).flatMap Piece.tokens =
        nameToken column :: .symbol ' ' :: (keyword "IS" ++ .symbol ' ' :: keyword "NULL") := by
      simp [predicatePieces, tokens_name, tokens_fixed, keyword]
    rw [shape, words_name, words_keyword _ (by decide), words_eq_singleton _ (by decide)]
    rfl
  | isNotNull =>
    have shape : (predicatePieces bound column .isNotNull).flatMap Piece.tokens =
        nameToken column :: .symbol ' ' ::
          (keyword "IS" ++ .symbol ' ' :: (keyword "NOT" ++ .symbol ' ' :: keyword "NULL")) := by
      simp [predicatePieces, tokens_name, tokens_fixed, keyword]
    rw [shape, words_name, words_keyword _ (by decide), words_keyword _ (by decide),
      words_eq_singleton _ (by decide)]
    rfl
  | isIn values =>
    cases values with
    | nil => rfl
    | cons value rest =>
      have shape : (predicatePieces bound column (.isIn (value :: rest))).flatMap Piece.tokens =
          nameToken column :: .symbol ' ' ::
            (keyword "IN" ++ .symbol ' ' :: .symbol '(' :: itemTokens bound (value :: rest).length) := by
        simp [predicatePieces, tokens_name, tokens_fixed, keyword, itemTokens]
      rw [shape, words_name, words_keyword _ (by decide)]
      rfl
  | notIn values =>
    cases values with
    | nil => rfl
    | cons value rest =>
      have shape : (predicatePieces bound column (.notIn (value :: rest))).flatMap Piece.tokens =
          nameToken column :: .symbol ' ' :: (keyword "NOT" ++ .symbol ' ' ::
            (keyword "IN" ++ .symbol ' ' :: .symbol '(' :: itemTokens bound (value :: rest).length)) := by
        simp [predicatePieces, tokens_name, tokens_fixed, keyword, itemTokens]
      rw [shape, words_name, words_keyword _ (by decide), words_keyword _ (by decide)]
      rfl

theorem placeholders_one (bound : Nat) : placeholders bound 1 = [.placeholder (bound + 1)] :=
  rfl

theorem placeholders_succ_succ (bound count : Nat) :
    placeholders bound (count + 2) =
      .placeholder (bound + 1) :: .fixed ", " :: placeholders (bound + 1) (count + 1) := by
  have shifted : (List.range (count + 1)).map (fun index => [Piece.placeholder (bound + (index + 1) + 1)]) =
      (List.range (count + 1)).map fun index => [Piece.placeholder (bound + 1 + index + 1)] := by
    apply List.map_congr_left
    intro index _
    rw [Nat.add_right_comm bound 1 index, Nat.add_assoc bound index 1]
  rw [placeholders, List.range_succ_eq_map, List.map_cons, List.map_map, placeholders, ← shifted]
  rw [List.range_succ_eq_map]
  rfl

theorem filter_itemTokens (bound count : Nat) :
    (itemTokens bound (count + 2)).filter (· ≠ .symbol ' ') =
      .placeholder (bound + 1) :: .symbol ',' ::
        (itemTokens (bound + 1) (count + 1)).filter (· ≠ .symbol ' ') := by
  simp [itemTokens, placeholders_succ_succ, tokens_placeholder, tokens_fixed, keyword]

theorem items?_itemTokens (before values after : List String) (nonempty : values ≠ []) :
    items? (before ++ values ++ after)
      ((itemTokens before.length values.length).filter (· ≠ .symbol ' ')) = some values := by
  induction values generalizing before with
  | nil => exact absurd rfl nonempty
  | cons value rest ih =>
    have here : (before ++ value :: rest ++ after)[before.length]? = some value := by simp
    cases rest with
    | nil => 
      have shape : (itemTokens before.length 1).filter (· ≠ .symbol ' ') =
          [.placeholder (before.length + 1), .symbol ')'] := by
        simp [itemTokens, placeholders_one, tokens_placeholder]
      rw [List.length_singleton, shape, items?, value?, here]
      rfl
    | cons next more =>
      have others := ih (before ++ [value]) (by simp)
      rw [List.length_append, List.length_singleton] at others
      have same : before ++ [value] ++ next :: more ++ after =
          before ++ value :: next :: more ++ after := by simp
      rw [same, List.length_cons] at others
      rw [List.length_cons, List.length_cons, filter_itemTokens, items?, value?, here, others]
      rfl

theorem list?_words (before values after : List String) (nonempty : values ≠ []) :
    list? (before ++ values ++ after)
      (words (.symbol '(' :: itemTokens before.length values.length)) = some values := by
  rw [list?, flatten_words, List.filter_cons_of_pos (by simp)]
  exact items?_itemTokens before values after nonempty

theorem test?_name (parameters : List String) (column : String) (word : List Token)
    (rest : List (List Token)) (behind : ∀ c, word :: rest ≠ [[.symbol '='], [.symbol c]]) :
    test? parameters ([nameToken column] :: word :: rest) =
      columnTest? parameters column (word :: rest) := by
  unfold test?
  split
  next left right shape =>
    simp only [List.cons.injEq] at shape
    exact absurd (by simp [shape]) (behind right)
  next name others _ shape =>
    simp only [List.cons.injEq] at shape
    rw [← shape.1, ← shape.2, column?_nameToken]
    rfl
  next shape => simp at shape

theorem test?_keyword (parameters : List String) (column text : String) (rest : List (List Token))
    (other : text ≠ "=") :
    test? parameters ([nameToken column] :: keyword text :: rest) =
      columnTest? parameters column (keyword text :: rest) := by
  apply test?_name
  intro c same
  apply other
  have first : text.toList.map Token.symbol = ['='].map Token.symbol := (List.cons.inj same).1
  exact String.toList_injective ((List.map_inj_right fun _ _ => Token.symbol.inj).1 first)

theorem columnTest?_compare (parameters : List String) (column : String) (operator : Operator)
    (compares : operator ∈ comparisons) (index : Nat) :
    columnTest? parameters column [keyword operator.sql, [.placeholder index]] =
      (value? parameters index).map (.compare column operator) := by
  cases operator <;> first | rfl | simp [comparisons] at compares

theorem test?_predicateWords (before after : List String) (column : String) (predicate : Predicate)
    (compares : Compares predicate) :
    test? (before ++ predicate.parameters ++ after)
      (predicateWords before.length column predicate) = some (.ofPredicate column predicate) := by
  cases predicate with
  | compare operator value =>
    have here : (before ++ [value] ++ after)[before.length]? = some value := by simp
    rw [predicateWords, test?_name _ _ _ _ (by simp), columnTest?_compare _ _ _ compares,
      Predicate.parameters, value?, here]
    rfl
  | isNull =>
    rw [predicateWords, test?_keyword _ _ _ _ (by decide)]
    rfl
  | isNotNull =>
    rw [predicateWords, test?_keyword _ _ _ _ (by decide)]
    rfl
  | isIn values =>
    cases values with
    | nil => rfl
    | cons value rest =>
      have read := list?_words before (value :: rest) after (by simp)
      rw [predicateWords, test?_keyword _ _ _ _ (by decide)]
      · change (list? _ (words _)).map _ = _
        rw [Predicate.parameters, read]
        rfl
      · simp
  | notIn values =>
    cases values with
    | nil => rfl
    | cons value rest =>
      have read := list?_words before (value :: rest) after (by simp)
      rw [predicateWords, test?_keyword _ _ _ _ (by decide)]
      · change (list? _ (words _)).map _ = _
        rw [Predicate.parameters, read]
        rfl
      · simp

def conditionWords (bound : Nat) : List Condition → List (List (List Token))
  | [] => []
  | condition :: rest =>
    predicateWords bound condition.column condition.predicate ::
      conditionWords (bound + condition.predicate.parameters.length) rest

def connectiveWord : Connective → List Token
  | .and => keyword "AND"
  | .or => keyword "OR"

def furtherWords (bound : Nat) : List Condition → List (List Token)
  | [] => []
  | condition :: rest =>
    connectiveWord condition.connective ::
      (predicateWords bound condition.column condition.predicate ++
        furtherWords (bound + condition.predicate.parameters.length) rest)

theorem words_conditionPieces (front : List Token) (bound : Nat) (conditions : List Condition)
    (compares : ∀ condition ∈ conditions, Compares condition.predicate) :
    words (front ++ (conditionPieces false bound conditions).flatMap Piece.tokens) =
      words front ++ furtherWords bound conditions := by
  induction conditions generalizing front bound with
  | nil => simp [conditionPieces, furtherWords]
  | cons condition rest ih =>
    obtain ⟨first, others⟩ := List.forall_mem_cons.1 compares
    have lead : Piece.tokens (.fixed (connectorText false condition.connective)) =
        .symbol ' ' :: (connectiveWord condition.connective ++ [.symbol ' ']) := by
      cases condition.connective <;> rfl
    have solid : .symbol ' ' ∉ connectiveWord condition.connective := by
      cases condition.connective <;> decide
    rw [conditionPieces, List.flatMap_cons, lead, List.flatMap_append, List.cons_append, words_append,
      List.append_assoc, List.singleton_append, words_append, words_eq_singleton _ solid,
      ih _ _ others, words_predicatePieces _ _ _ first]
    rfl

theorem symbol_mem_itemTokens (bound count : Nat) (c : Char)
    (member : .symbol c ∈ itemTokens bound count) : c ∈ [',', ' ', ')'] := by
  induction count generalizing bound with
  | zero =>
    have last : c = ')' := by simpa [itemTokens, placeholders, Piece.separated] using member
    simp [last]
  | succ count ih =>
    cases count with
    | zero =>
      have last : c = ')' := by
        simpa [itemTokens, placeholders_one, tokens_placeholder] using member
      simp [last]
    | succ count =>
      simp [itemTokens, placeholders_succ_succ, tokens_placeholder, tokens_fixed, keyword] at member ih
      obtain rfl | rfl | rest := member
      · simp
      · simp
      · simpa using ih (bound + 1) rest

theorem connectiveWord_not_mem_predicateWords (connective : Connective) (bound : Nat) (column : String)
    (predicate : Predicate) (compares : Compares predicate) :
    connectiveWord connective ∉ predicateWords bound column predicate := by
  have name : connectiveWord connective ≠ [nameToken column] := by
    cases connective <;> simp [connectiveWord, keyword]
  have list (count : Nat) :
      connectiveWord connective ∉ words (.symbol '(' :: itemTokens bound count) := by
    intro member
    obtain ⟨c, letter, inside⟩ : ∃ c, c ∉ ['(', ',', ' ', ')'] ∧ .symbol c ∈ connectiveWord connective := by
      cases connective
      · exact ⟨'A', by decide, by decide⟩
      · exact ⟨'O', by decide, by decide⟩
    obtain first | item := List.mem_cons.1 (mem_of_mem_words _ _ _ member inside)
    · exact letter (by simp [Token.symbol.inj first])
    · exact letter (List.mem_cons_of_mem _ (symbol_mem_itemTokens _ _ _ item))
  cases predicate with
  | compare operator value =>
    have other : connectiveWord connective ≠ keyword operator.sql := by
      cases operator <;> cases connective <;> decide
    have index : connectiveWord connective ≠ [.placeholder (bound + 1)] := by
      cases connective <;> simp [connectiveWord, keyword]
    simp [predicateWords, name, other, index]
  | isNull | isNotNull =>
    have others : connectiveWord connective ∉ [keyword "IS", keyword "NOT", keyword "NULL"] := by
      cases connective <;> decide
    simp_all [predicateWords]
  | isIn values =>
    cases values with
    | nil => cases connective <;> simp [predicateWords, connectiveWord, keyword]
    | cons value rest =>
      have other : connectiveWord connective ≠ keyword "IN" := by cases connective <;> decide
      have items := list (rest.length + 1)
      simp [predicateWords, name, other, items]
  | notIn values =>
    cases values with
    | nil => cases connective <;> simp [predicateWords, connectiveWord, keyword]
    | cons value rest =>
      have others : connectiveWord connective ∉ [keyword "NOT", keyword "IN"] := by
        cases connective <;> decide
      have items := list (rest.length + 1)
      simp_all [predicateWords]

theorem splitOn_eq_singleton (connective : Connective) (words : List (List Token))
    (solid : connectiveWord connective ∉ words) :
    words.splitOn (connectiveWord connective) = [words] := by
  rw [List.splitOn_eq_splitOnP]
  apply List.splitOnP_eq_singleton
  intro word member
  simpa using fun same : word = connectiveWord connective => solid (same ▸ member)

theorem splitOn_furtherWords (connective : Connective) (front : List (List Token)) (bound : Nat)
    (conditions : List Condition) (solid : connectiveWord connective ∉ front)
    (same : ∀ condition ∈ conditions, condition.connective = connective)
    (compares : ∀ condition ∈ conditions, Compares condition.predicate) :
    (front ++ furtherWords bound conditions).splitOn (connectiveWord connective) =
      front :: conditionWords bound conditions := by
  induction conditions generalizing front bound with
  | nil =>
    rw [furtherWords, List.append_nil, splitOn_eq_singleton connective front solid]
    rfl
  | cons condition rest ih =>
    obtain ⟨first, others⟩ := List.forall_mem_cons.1 same
    obtain ⟨legal, further⟩ := List.forall_mem_cons.1 compares
    have apart := connectiveWord_not_mem_predicateWords connective bound condition.column _ legal
    have cut := ih _ (bound + condition.predicate.parameters.length) apart others further
    have alone := splitOn_eq_singleton connective front solid
    rw [List.splitOn_eq_splitOnP] at cut alone ⊢
    rw [furtherWords, first, List.splitOnP_append_cons _ _ (by simp), alone, cut]
    rfl

theorem connectiveWord_not_mem_furtherWords (connective other : Connective) (different : connective ≠ other)
    (bound : Nat) (conditions : List Condition)
    (same : ∀ condition ∈ conditions, condition.connective = other)
    (compares : ∀ condition ∈ conditions, Compares condition.predicate) :
    connectiveWord connective ∉ furtherWords bound conditions := by
  induction conditions generalizing bound with
  | nil => exact List.not_mem_nil
  | cons condition rest ih =>
    obtain ⟨first, others⟩ := List.forall_mem_cons.1 same
    obtain ⟨legal, further⟩ := List.forall_mem_cons.1 compares
    have word : connectiveWord connective ≠ connectiveWord other := by
      cases connective <;> cases other <;> first | decide | exact absurd rfl different
    have apart := connectiveWord_not_mem_predicateWords connective bound condition.column _ legal
    simp [furtherWords, first, word, apart, ih _ others further]

theorem furtherWords_append (bound : Nat) (front back : List Condition) :
    furtherWords bound (front ++ back) =
      furtherWords bound front ++
        furtherWords (bound + (front.flatMap (·.predicate.parameters)).length) back := by
  induction front generalizing bound with
  | nil => rfl
  | cons condition rest ih => simp [furtherWords, ih, Nat.add_assoc]

theorem mapM_conditionWords {α : Type} (read : List String → List (List Token) → Option α)
    (value : Condition → α)
    (reads : ∀ (before : List String) (condition : Condition) (after : List String),
      Compares condition.predicate →
        read (before ++ condition.predicate.parameters ++ after)
          (predicateWords before.length condition.column condition.predicate) = some (value condition))
    (before : List String) (conditions : List Condition) (after : List String)
    (compares : ∀ condition ∈ conditions, Compares condition.predicate) :
    (conditionWords before.length conditions).mapM
        (read (before ++ conditions.flatMap (·.predicate.parameters) ++ after)) =
      some (conditions.map value) := by
  induction conditions generalizing before with
  | nil => rfl
  | cons condition rest ih =>
    obtain ⟨legal, further⟩ := List.forall_mem_cons.1 compares
    have first := reads before condition (rest.flatMap (·.predicate.parameters) ++ after) legal
    have others := ih (before ++ condition.predicate.parameters) further
    rw [List.length_append] at others
    rw [conditionWords, List.mapM_cons, List.flatMap_cons]
    simp only [← List.append_assoc] at first others ⊢
    rw [first, others]
    rfl

theorem alternative?_predicateWords (before : List String) (condition : Condition) (after : List String)
    (compares : Compares condition.predicate) :
    alternative? (before ++ condition.predicate.parameters ++ after)
        (predicateWords before.length condition.column condition.predicate) =
      some [.ofCondition condition] := by
  have apart := connectiveWord_not_mem_predicateWords .and before.length condition.column _ compares
  have alone := splitOn_eq_singleton .and _ apart
  have read := test?_predicateWords before after condition.column _ compares
  rw [connectiveWord] at alone
  rw [alternative?, alone, List.mapM_cons, read]
  rfl

theorem alternative?_conditionWords (first : Condition) (rest : List Condition) (after : List String)
    (compares : ∀ condition ∈ first :: rest, Compares condition.predicate)
    (conjuncts : ∀ condition ∈ rest, condition.connective = .and) :
    alternative? ((first :: rest).flatMap (·.predicate.parameters) ++ after)
        (predicateWords 0 first.column first.predicate ++
          furtherWords first.predicate.parameters.length rest) =
      some ((first :: rest).map .ofCondition) := by
  obtain ⟨legal, further⟩ := List.forall_mem_cons.1 compares
  have apart := connectiveWord_not_mem_predicateWords .and 0 first.column _ legal
  have cut := splitOn_furtherWords .and _ first.predicate.parameters.length rest apart conjuncts further
  have read := mapM_conditionWords test? .ofCondition
    (fun before condition after => test?_predicateWords before after condition.column _)
    [] (first :: rest) after compares
  rw [List.nil_append, List.length_nil, conditionWords, Nat.zero_add] at read
  rw [connectiveWord] at cut
  rw [alternative?, cut, read]

def frontTokens (table : String) (joins : List Join) : List Token :=
  keyword "SELECT COUNT(*) FROM " ++
    nameToken table :: (joins.flatMap (joinPieces table)).flatMap Piece.tokens

theorem where_not_mem_words_frontTokens (table : String) (joins : List Join) :
    keyword "WHERE" ∉ words (frontTokens table joins) := by
  have name (text : String) : .symbol 'W' ≠ nameToken text := by
    rw [nameToken]
    split <;> simp
  have join (join : Join) : .symbol 'W' ∉ (joinPieces table join).flatMap Piece.tokens := by
    obtain ⟨kind, joined, leftKey, rightKey⟩ := join
    cases kind <;> simp [joinPieces, tokens_name, tokens_fixed, keyword, JoinKind.sql, name]
  intro member
  have inside := mem_of_mem_words _ _ (.symbol 'W') member (by decide)
  simp only [frontTokens, List.mem_append, List.mem_cons, List.flatMap_assoc, List.mem_flatMap] at inside
  obtain select | table | ⟨other, -, inside⟩ := inside
  · exact absurd select (by decide)
  · exact name _ table
  · exact join other (List.mem_flatMap.2 inside)

theorem dropWhile_frontTokens (table : String) (joins : List Join) (rest : List (List Token)) :
    (words (frontTokens table joins) ++ rest).dropWhile (· ≠ keyword "WHERE") =
      rest.dropWhile (· ≠ keyword "WHERE") := by
  apply List.dropWhile_append_of_pos
  intro word member
  simpa using fun same : word = keyword "WHERE" =>
    where_not_mem_words_frontTokens _ _ (same ▸ member)

theorem tokens_countText (statement : Statement) :
    Sql.tokens statement.countText.toList =
      frontTokens statement.table statement.selection.joins ++
        (conditionPieces true 0 statement.selection.conditions).flatMap Piece.tokens := by
  rw [countText, Piece.text, String.toList_ofList,
    Piece.tokens_flatMap_write _ (areApart_countPieces statement), countPieces, sourcePieces_eq,
    List.flatMap_cons, List.flatMap_cons, tokens_name, tokens_fixed, List.flatMap_append, frontTokens]
  simp

theorem words_countText (statement : Statement) (first : Condition) (rest : List Condition)
    (compares : ∀ condition ∈ first :: rest, Compares condition.predicate)
    (shape : statement.selection.conditions = first :: rest) :
    words (Sql.tokens statement.countText.toList) =
      words (frontTokens statement.table statement.selection.joins) ++
        keyword "WHERE" :: (predicateWords 0 first.column first.predicate ++
          furtherWords first.predicate.parameters.length rest) := by
  obtain ⟨legal, further⟩ := List.forall_mem_cons.1 compares
  have lead : Piece.tokens (.fixed (connectorText true first.connective)) =
      .symbol ' ' :: (keyword "WHERE" ++ [.symbol ' ']) := by
    cases first.connective <;> rfl
  rw [tokens_countText, shape, conditionPieces, List.flatMap_cons, lead, List.flatMap_append,
    List.cons_append, words_append, List.append_assoc, List.singleton_append,
    words_keyword _ (by decide), words_conditionPieces _ _ _ further, words_predicatePieces _ _ _ legal,
    Nat.zero_add]

theorem alternatives?_of_empty (statement : Statement) (parameters : List String)
    (shape : statement.selection.conditions = []) :
    alternatives? parameters statement.countText = some [[]] := by
  have front := dropWhile_frontTokens statement.table statement.selection.joins []
  rw [List.append_nil] at front
  rw [alternatives?, tokens_countText, shape, conditionPieces, List.flatMap_nil, List.append_nil, front]
  rfl

theorem alternatives?_countText (statement : Statement) (first : Condition)
    (ands ors : List Condition)
    (compares : ∀ condition ∈ first :: ands ++ ors, Compares condition.predicate)
    (conjuncts : ∀ condition ∈ ands, condition.connective = .and)
    (disjuncts : ∀ condition ∈ ors, condition.connective = .or)
    (shape : statement.selection.conditions = first :: ands ++ ors) :
    alternatives? statement.parameters statement.countText =
      some ((first :: ands).map .ofCondition :: ors.map fun condition => [.ofCondition condition]) := by
  obtain ⟨front, back⟩ := List.forall_mem_append.1 compares
  obtain ⟨legal, further⟩ := List.forall_mem_cons.1 front
  let lead := predicateWords 0 first.column first.predicate ++
    furtherWords first.predicate.parameters.length ands
  have apart : connectiveWord .or ∉ lead := by
    rw [List.mem_append, not_or]
    exact ⟨connectiveWord_not_mem_predicateWords .or 0 _ _ legal,
      connectiveWord_not_mem_furtherWords .or .and (by decide) _ ands conjuncts further⟩
  have cut := splitOn_furtherWords .or lead ((first :: ands).flatMap (·.predicate.parameters)).length
    ors apart disjuncts back
  have parameters : statement.parameters = (first :: ands).flatMap (·.predicate.parameters) ++
      ors.flatMap (·.predicate.parameters) := by
    rw [Statement.parameters_eq, shape, List.flatMap_append]
  have conjunction := alternative?_conditionWords first ands (ors.flatMap (·.predicate.parameters)) front
    conjuncts
  have others := mapM_conditionWords alternative? (fun condition => [.ofCondition condition])
    alternative?_predicateWords ((first :: ands).flatMap (·.predicate.parameters)) ors [] back
  rw [List.append_nil] at others
  rw [alternatives?, words_countText statement first (ands ++ ors) compares shape, dropWhile_frontTokens,
    List.dropWhile_cons_of_neg (by simp)]
  simp only [furtherWords_append]
  rw [← List.append_assoc]
  rw [List.flatMap_cons, List.length_append] at cut
  rw [connectiveWord] at cut
  rw [cut, List.mapM_cons, parameters, conjunction]
  rw [List.flatMap_cons, List.length_append] at others
  rw [List.flatMap_cons, others]
  rfl

end Statement

end RowGate.Sql
