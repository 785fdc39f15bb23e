import RowGate.Proofs.Plan
import RowGate.Proofs.Sql.Lexemes
import RowGate.Proofs.Sql.Statement

set_option autoImplicit false

namespace RowGate.Sql

def kindLexemes : JoinKind → List Lexeme
  | .inner => [.word "INNER", .word "JOIN"]
  | .left => [.word "LEFT", .word "JOIN"]
  | .right => [.word "RIGHT", .word "JOIN"]

def joinLexemes (table : String) (join : Join) : List Lexeme :=
  kindLexemes join.kind ++
    [.name join.table, .word "ON", .name table, .mark '.', .name join.leftKey, .operator "=",
      .name join.table, .mark '.', .name join.rightKey]

def listLexemes (bound count : Nat) : List Lexeme :=
  .mark '(' :: ([Lexeme.mark ','].intercalate
    ((List.range count).map fun index => [.placeholder (bound + index + 1)]) ++ [.mark ')'])

def operatorLexemes : Operator → List Lexeme
  | .eq => [.operator "="]
  | .neq => [.operator "<>"]
  | .gt => [.operator ">"]
  | .gte => [.operator ">="]
  | .lt => [.operator "<"]
  | .lte => [.operator "<="]
  | .like => [.word "LIKE"]
  | .ilike => [.word "ILIKE"]
  | .is => [.word "IS"]
  | .isIn => [.word "IN"]
  | .notIn => [.word "NOT", .word "IN"]

def predicateLexemes (bound : Nat) (column : String) : Predicate → List Lexeme
  | .compare operator _ => .name column :: (operatorLexemes operator ++ [.placeholder (bound + 1)])
  | .isNull => [.name column, .word "IS", .word "NULL"]
  | .isNotNull => [.name column, .word "IS", .word "NOT", .word "NULL"]
  | .isIn [] => [.number 1, .operator "=", .number 0]
  | .notIn [] => [.number 1, .operator "=", .number 1]
  | .isIn values => .name column :: .word "IN" :: listLexemes bound values.length
  | .notIn values => .name column :: .word "NOT" :: .word "IN" :: listLexemes bound values.length

def connectorLexeme (isFirst : Bool) (connective : Connective) : Lexeme :=
  match isFirst, connective with
  | true, _ => .word "WHERE"
  | false, .and => .word "AND"
  | false, .or => .word "OR"

def conditionLexemes (isFirst : Bool) (bound : Nat) : List Condition → List Lexeme
  | [] => []
  | condition :: rest =>
    connectorLexeme isFirst condition.connective ::
      (predicateLexemes bound condition.column condition.predicate ++
        conditionLexemes false (bound + condition.predicate.parameters.length) rest)

def columnLexemes (columns : List String) : List Lexeme :=
  if columns.isEmpty || columns.contains "*" then [.operator "*"]
  else [Lexeme.mark ','].intercalate (columns.map fun column => [.name column])

def directionLexeme : Direction → Lexeme
  | .asc => .word "ASC"
  | .desc => .word "DESC"

def orderLexemes : List Order → List Lexeme
  | [] => []
  | orders =>
    .word "ORDER" :: .word "BY" :: [Lexeme.mark ','].intercalate
      (orders.map fun order => [.name order.column, directionLexeme order.direction])

def pageLexemes (keyword : String) (rows : Option Nat) : List Lexeme :=
  rows.toList.flatMap fun count => [.word keyword, .number count]

def sourceLexemes (table : String) (steps : List Step) : List Lexeme :=
  .name table :: ((steps.filterMap Step.join?).flatMap (joinLexemes table) ++
    conditionLexemes true 0 (steps.filterMap Step.filter?))

def selectedColumns (steps : List Step) : List String :=
  (steps.filterMap Step.select?).getLast?.getD []

def rowLexemes (table : String) (steps : List Step) : List Lexeme :=
  .word "SELECT" :: columnLexemes (selectedColumns steps) ++ .word "FROM" :: sourceLexemes table steps ++
    orderLexemes (steps.filterMap Step.order?) ++
    pageLexemes "LIMIT" (steps.filterMap Step.limit?).getLast? ++
    pageLexemes "OFFSET" (steps.filterMap Step.offset?).getLast?

def countLexemes (table : String) (steps : List Step) : List Lexeme :=
  [.word "SELECT", .word "COUNT", .mark '(', .operator "*", .mark ')', .word "FROM"] ++
    sourceLexemes table steps

namespace Statement

theorem reads_joinPieces (table : String) (join : Join) (named : table ≠ "*")
    (call : "*" ∉ (Step.join join).names) :
    Reads (joinPieces table join) (joinLexemes table join) := by
  obtain ⟨joined, left, right⟩ : join.table ≠ "*" ∧ join.leftKey ≠ "*" ∧ join.rightKey ≠ "*" := by
    simpa [Step.names, eq_comm] using call
  have rightKey := Reads.name_cons join.rightKey right .nil
  have equated := Reads.name_cons join.table joined
    (.fixed_cons "." [.mark '.'] (fun _ => rfl) rightKey)
  have leftKey := Reads.name_cons join.leftKey left
    (.fixed_cons " = " [.operator "="] (fun _ => rfl) equated)
  have keyed := Reads.name_cons table named
    (.fixed_cons "." [.mark '.'] (fun _ => rfl) leftKey)
  have target := Reads.name_cons join.table joined
    (.fixed_cons " ON " [.word "ON"] (fun _ => rfl) keyed)
  have bare : Piece.isBare (.fixed join.kind.sql) = true := by cases join.kind <;> rfl
  have kind : lexemes join.kind.sql = kindLexemes join.kind := by cases join.kind <;> rfl
  have whole := Reads.fixed_append _ _ bare kind (.fixed_cons " " [] (fun _ => rfl) target) rfl
  exact .fixed_cons " " [] (fun _ => rfl) whole

theorem reads_joins (table : String) (joins : List Join) (named : table ≠ "*")
    (calls : ∀ join ∈ joins, "*" ∉ (Step.join join).names) :
    Reads (joins.flatMap (joinPieces table)) (joins.flatMap (joinLexemes table)) := by
  induction joins with
  | nil => exact .nil
  | cons join rest ih =>
    have first := reads_joinPieces table join named (calls join List.mem_cons_self)
    have others := ih fun other member => calls other (List.mem_cons_of_mem join member)
    refine .append first others ?_
    cases rest <;> rfl

theorem reads_placeholders (bound count : Nat) :
    Reads (placeholders bound count ++ [.fixed ")"])
      ([Lexeme.mark ','].intercalate
        ((List.range count).map fun index => [.placeholder (bound + index + 1)]) ++ [.mark ')']) := by
  refine .append ?_ (.fixed_cons ")" [.mark ')'] (fun _ => rfl) .nil) rfl
  exact .separated fun index _ => .placeholder_cons _ .nil

theorem reads_predicatePieces (bound : Nat) (condition : Condition)
    (call : "*" ∉ (Step.filter condition).names) :
    Reads (predicatePieces bound condition.column condition.predicate)
      (predicateLexemes bound condition.column condition.predicate) := by
  obtain ⟨connective, column, predicate⟩ := condition
  have named : column ≠ "*" := by simpa [Step.names, eq_comm] using call
  cases predicate with
  | compare operator value =>
    have bare : Piece.isBare (.fixed operator.sql) = true := by cases operator <;> rfl
    have sql : lexemes operator.sql = operatorLexemes operator := by cases operator <;> rfl
    have tested := Reads.fixed_append _ _ bare sql
      (.fixed_cons " " [] (fun _ => rfl) (.placeholder_cons (bound + 1) .nil)) rfl
    exact .name_cons column named (.fixed_cons " " [] (fun _ => rfl) tested)
  | isNull => exact .name_cons column named (.fixed " IS NULL" _ rfl rfl)
  | isNotNull => exact .name_cons column named (.fixed " IS NOT NULL" _ rfl rfl)
  | isIn values =>
    cases values with
    | nil => exact .fixed "1 = 0" _ rfl rfl
    | cons value rest =>
      exact .name_cons column named
        (.fixed_cons " IN (" [.word "IN", .mark '('] (fun _ => rfl)
          (reads_placeholders bound (value :: rest).length))
  | notIn values =>
    cases values with
    | nil => exact .fixed "1 = 1" _ rfl rfl
    | cons value rest =>
      exact .name_cons column named
        (.fixed_cons " NOT IN (" [.word "NOT", .word "IN", .mark '('] (fun _ => rfl)
          (reads_placeholders bound (value :: rest).length))

theorem parts_conditionPieces (isFirst : Bool) (bound : Nat) (conditions : List Condition) :
    Parts ((conditionPieces isFirst bound conditions).flatMap Piece.tokens) := by
  cases conditions with
  | nil => rfl
  | cons condition rest => cases isFirst <;> cases connective : condition.connective <;>
      simp only [conditionPieces, connective] <;> rfl

theorem reads_conditionPieces (isFirst : Bool) (bound : Nat) (conditions : List Condition)
    (calls : ∀ condition ∈ conditions, "*" ∉ (Step.filter condition).names) :
    Reads (conditionPieces isFirst bound conditions) (conditionLexemes isFirst bound conditions) := by
  induction conditions generalizing isFirst bound with
  | nil => exact .nil
  | cons condition rest ih =>
    have others := ih false (bound + condition.predicate.parameters.length)
      fun other member => calls other (List.mem_cons_of_mem condition member)
    have tested := reads_predicatePieces bound condition (calls condition List.mem_cons_self)
    refine .fixed_cons _ [_] ?_ (.append tested others (parts_conditionPieces _ _ rest))
    intro behind
    cases isFirst <;> cases condition.connective <;> rfl

theorem reads_columnPieces (selection : Selection) :
    Reads (columnPieces selection) (columnLexemes selection.columns) := by
  rw [columnPieces, columnLexemes, ← Selection.selectsAll]
  by_cases all : selection.selectsAll = true
  · rw [if_pos all, if_pos all]
    exact .fixed "*" _ rfl rfl
  · rw [if_neg all, if_neg all]
    apply Reads.separated
    intro column member
    have named : column ≠ "*" := by
      rintro rfl
      simp [Selection.selectsAll, member] at all
    exact .name_cons column named .nil

theorem reads_orderPieces (orders : List Order)
    (calls : ∀ order ∈ orders, "*" ∉ (Step.order order).names) :
    Reads (orderPieces orders) (orderLexemes orders) := by
  cases orders with
  | nil => exact .nil
  | cons order rest =>
    apply Reads.fixed_cons " ORDER BY " [.word "ORDER", .word "BY"] (fun _ => rfl)
    apply Reads.separated
    intro sorted member
    have named : sorted.column ≠ "*" := by simpa [Step.names, eq_comm] using calls sorted member
    have bare : Piece.isBare (.fixed sorted.direction.sql) = true := by cases sorted.direction <;> rfl
    have sql : lexemes sorted.direction.sql = [directionLexeme sorted.direction] := by
      cases sorted.direction <;> rfl
    exact .name_cons sorted.column named (.fixed_cons " " [] (fun _ => rfl) (.fixed _ _ bare sql))

theorem reads_page (text keyword : String) (rows : Option Nat)
    (closed : ∀ rest, Run.read .blank (Piece.tokens (.fixed text) ++ rest) =
      .word keyword :: Run.read .blank rest) :
    Reads (rows.toList.flatMap fun count => [.fixed text, .number count])
      (pageLexemes keyword rows) := by
  cases rows with
  | none => exact .nil
  | some count => exact .fixed_cons text [.word keyword] closed (.number count)

theorem reads_pagePieces (selection : Selection) :
    Reads (pagePieces selection)
      (pageLexemes "LIMIT" selection.limit ++ pageLexemes "OFFSET" selection.offset) := by
  refine .append (reads_page " LIMIT " "LIMIT" _ fun _ => rfl)
    (reads_page " OFFSET " "OFFSET" _ fun _ => rfl) ?_
  cases selection.offset <;> rfl

theorem parts_orderPieces (orders : List Order) : Parts ((orderPieces orders).flatMap Piece.tokens) := by
  cases orders <;> rfl

theorem parts_pagePieces (selection : Selection) :
    Parts ((pagePieces selection).flatMap Piece.tokens) := by
  unfold pagePieces
  cases selection.limit <;> cases selection.offset <;> rfl

end Statement

def joinNames (table : String) (join : Join) : List String :=
  [join.table, table, join.leftKey, join.table, join.rightKey]

def conditionNames (condition : Condition) : List String :=
  match condition.predicate with
  | .isIn [] | .notIn [] => []
  | _ => [condition.column]

def columnNames (columns : List String) : List String :=
  if columns.isEmpty || columns.contains "*" then [] else columns

def sourceNames (table : String) (steps : List Step) : List String :=
  table :: ((steps.filterMap Step.join?).flatMap (joinNames table) ++
    (steps.filterMap Step.filter?).flatMap conditionNames)

def rowNames (table : String) (steps : List Step) : List String :=
  columnNames (selectedColumns steps) ++ sourceNames table steps ++
    (steps.filterMap Step.order?).map (·.column)

theorem spells_joinLexemes (table : String) (join : Join) :
    Spells (joinLexemes table join) (joinNames table join) := by
  have kind : (kindLexemes join.kind).all Lexeme.isFixed = true := by
    cases join.kind <;> decide
  have keyed := Spells.name_cons join.table (.fixed_append [.mark '.'] (by decide) (.name join.rightKey))
  have equated := Spells.name_cons join.leftKey (.fixed_append [.operator "="] (by decide) keyed)
  have source := Spells.name_cons table (.fixed_append [.mark '.'] (by decide) equated)
  have target := Spells.name_cons join.table (.fixed_append [.word "ON"] (by decide) source)
  exact .fixed_append _ kind target

theorem spells_listLexemes (bound count : Nat) : Spells (listLexemes bound count) [] := by
  have placed (index : Nat) : Spells [.placeholder (bound + index + 1)] [] := .fixed _ rfl
  have none : (List.range count).flatMap (fun _ => ([] : List String)) = [] := by simp
  have items := Spells.intercalate (List.range count) placed
  rw [none] at items
  have closed := Spells.append items (.fixed [.mark ')'] (by decide))
  have whole := Spells.fixed_append [.mark '('] (by decide) closed
  simpa [listLexemes] using whole

theorem spells_predicateLexemes (bound : Nat) (condition : Condition) :
    Spells (predicateLexemes bound condition.column condition.predicate) (conditionNames condition) := by
  obtain ⟨connective, column, predicate⟩ := condition
  cases predicate with
  | compare operator value =>
    have sql : (operatorLexemes operator).all Lexeme.isFixed = true := by
      cases operator <;> decide
    exact .name_cons column (.fixed_append _ sql (.fixed _ rfl))
  | isNull => exact .name_cons column (.fixed _ (by decide))
  | isNotNull => exact .name_cons column (.fixed _ (by decide))
  | isIn values =>
    cases values with
    | nil => exact .fixed [.number 1, .operator "=", .number 0] (by decide)
    | cons value rest =>
      exact .name_cons column (.fixed_append [.word "IN"] (by decide) (spells_listLexemes _ _))
  | notIn values =>
    cases values with
    | nil => exact .fixed [.number 1, .operator "=", .number 1] (by decide)
    | cons value rest =>
      exact .name_cons column
        (.fixed_append [.word "NOT", .word "IN"] (by decide) (spells_listLexemes _ _))

theorem spells_conditionLexemes (isFirst : Bool) (bound : Nat) (conditions : List Condition) :
    Spells (conditionLexemes isFirst bound conditions) (conditions.flatMap conditionNames) := by
  induction conditions generalizing isFirst bound with
  | nil => exact .nil
  | cons condition rest ih =>
    have connector : [connectorLexeme isFirst condition.connective].all Lexeme.isFixed = true := by
      cases isFirst <;> cases condition.connective <;> decide
    exact .fixed_append _ connector
      (.append (spells_predicateLexemes bound condition) (ih _ _))

theorem spells_columnLexemes (columns : List String) :
    Spells (columnLexemes columns) (columnNames columns) := by
  rw [columnLexemes, columnNames]
  split
  · exact .fixed _ (by decide)
  · have names := Spells.intercalate columns Spells.name
    rwa [List.flatMap_singleton'] at names

theorem spells_sourceLexemes (table : String) (steps : List Step) :
    Spells (sourceLexemes table steps) (sourceNames table steps) :=
  .name_cons table (.append (.flatMap _ (spells_joinLexemes table))
    (spells_conditionLexemes true 0 _))

theorem spells_orderLexemes (orders : List Order) :
    Spells (orderLexemes orders) (orders.map (·.column)) := by
  have sorted (order : Order) :
      Spells [.name order.column, directionLexeme order.direction] [order.column] := by
    have direction : [directionLexeme order.direction].all Lexeme.isFixed = true := by
      cases order.direction <;> decide
    exact .name_cons _ (.fixed _ direction)
  cases orders with
  | nil => exact .nil
  | cons order rest =>
    have names := Spells.intercalate (order :: rest) sorted
    rw [← List.map_eq_flatMap] at names
    exact .fixed_append [.word "ORDER", .word "BY"] (by decide) names

theorem spells_pageLexemes (keyword : String) (rows : Option Nat)
    (known : (Lexeme.word keyword).isFixed = true) : Spells (pageLexemes keyword rows) [] := by
  cases rows with
  | none => exact .nil
  | some count => exact .fixed [.word keyword, .number count] (by rw [List.all_cons, known]; rfl)

theorem spells_rowLexemes (table : String) (steps : List Step) :
    Spells (rowLexemes table steps) (rowNames table steps) := by
  have source := Spells.fixed_append [.word "FROM"] (by decide) (spells_sourceLexemes table steps)
  have columns := Spells.fixed_append [.word "SELECT"] (by decide)
    (spells_columnLexemes (selectedColumns steps))
  have order := spells_orderLexemes (steps.filterMap Step.order?)
  have limit := spells_pageLexemes "LIMIT" (steps.filterMap Step.limit?).getLast? (by decide)
  have offset := spells_pageLexemes "OFFSET" (steps.filterMap Step.offset?).getLast? (by decide)
  have ordered := (columns.append source).append order
  simpa [rowLexemes, rowNames] using (ordered.append limit).append offset

theorem spells_countLexemes (table : String) (steps : List Step) :
    Spells (countLexemes table steps) (sourceNames table steps) :=
  .fixed_append _ (by decide) (spells_sourceLexemes table steps)

namespace Statement

variable (table : String) (steps : List Step) (named : table ≠ "*")
  (calls : ∀ step ∈ steps, "*" ∉ step.names)

include named calls in
theorem reads_source : Reads (sourcePieces (ofPlan table steps)) (sourceLexemes table steps) := by
  have joins := reads_joins table (steps.filterMap Step.join?) named
    fun join member => calls _ ((Step.mem_filterMap_join? steps join).1 member)
  have conditions := reads_conditionPieces true 0 (steps.filterMap Step.filter?)
    fun condition member => calls _ ((Step.mem_filterMap_filter? steps condition).1 member)
  rw [sourcePieces_eq, ofPlan, Selection.ofPlan_eq, sourceLexemes]
  exact .name_cons table named (.append joins conditions (parts_conditionPieces true 0 _))

include named calls in
theorem reads_count : Reads (countPieces (ofPlan table steps)) (countLexemes table steps) :=
  .fixed_cons "SELECT COUNT(*) FROM "
    [.word "SELECT", .word "COUNT", .mark '(', .operator "*", .mark ')', .word "FROM"] (fun _ => rfl)
    (reads_source table steps named calls)

include named calls in
theorem reads_rows : Reads (pieces (ofPlan table steps)) (rowLexemes table steps) := by
  have columns := Reads.fixed_cons "SELECT " [.word "SELECT"] (fun _ => rfl)
    (reads_columnPieces (.ofPlan steps))
  have source := Reads.fixed_cons " FROM " [.word "FROM"] (fun _ => rfl)
    (reads_source table steps named calls)
  have order := reads_orderPieces (steps.filterMap Step.order?)
    fun order member => calls _ ((Step.mem_filterMap_order? steps order).1 member)
  have page := reads_pagePieces (.ofPlan steps)
  have ordered := (columns.append source rfl).append order (parts_orderPieces _)
  have whole := ordered.append page (parts_pagePieces _)
  rw [Selection.ofPlan_eq] at whole
  simpa [pieces, rowLexemes, ofPlan, Selection.ofPlan_eq, selectedColumns] using whole

/-- Each statement is read as the lexemes of its calls: every name is whole, and all else is fixed. -/
theorem lexemes_ofPlan (table : String) (steps : List Step) (named : table ≠ "*")
    (calls : ∀ step ∈ steps, "*" ∉ step.names) :
    (lexemes (ofPlan table steps).text = rowLexemes table steps ∧
      Spells (rowLexemes table steps) (rowNames table steps)) ∧
    lexemes (ofPlan table steps).countText = countLexemes table steps ∧
      Spells (countLexemes table steps) (sourceNames table steps) := by
  refine ⟨⟨?_, spells_rowLexemes table steps⟩, ?_, spells_countLexemes table steps⟩
  · exact Reads.lexemes_text (areApart_pieces _) (reads_rows table steps named calls)
  · exact Reads.lexemes_text (areApart_countPieces _) (reads_count table steps named calls)

-- Names that close their quotes, look like placeholders, comments or nothing, and a list without
-- values.
def hostileSteps : List Step :=
  [.select ["replaced"], .filter ⟨.or, "\"\" OR 1 = 1 --", .compare .eq "x"⟩,
    .join ⟨.left, "t\"", "", "$1"⟩, .filter ⟨.and, "status", .isIn []⟩,
    .filter ⟨.or, "\"", .notIn ["y", "z"]⟩, .select ["id\"; DROP", "*x"], .order ⟨"a\" \"b", .desc⟩,
    .offset 7]

theorem lexemes_hostileSteps :
    "us\"\"ers" ≠ "*" ∧ (∀ step ∈ hostileSteps, "*" ∉ step.names) ∧
      (lexemes (ofPlan "us\"\"ers" hostileSteps).text).filterMap Lexeme.name? =
        ["id\"; DROP", "*x", "us\"\"ers", "t\"", "us\"\"ers", "", "t\"", "$1", "\"\" OR 1 = 1 --", "\"",
          "a\" \"b"] := by
  have named : "us\"\"ers" ≠ "*" := by decide
  have calls : ∀ step ∈ hostileSteps, "*" ∉ step.names := by decide
  have whole := lexemes_ofPlan "us\"\"ers" hostileSteps named calls
  refine ⟨named, calls, ?_⟩
  rw [whole.1.1, whole.1.2.names]
  decide

theorem lexemes_emptyList :
    "status" ∈ (Step.filter ⟨.and, "status", .isIn []⟩).names ∧
      .name "status" ∉ lexemes (ofPlan "users" [.filter ⟨.and, "status", .isIn []⟩]).text ∧
      .name "status" ∉ lexemes (ofPlan "users" [.filter ⟨.and, "status", .isIn []⟩]).countText := by
  decide +kernel

end Statement

end RowGate.Sql
