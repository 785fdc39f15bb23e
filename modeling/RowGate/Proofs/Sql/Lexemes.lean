import RowGate.Proofs.Sql.Lexer

set_option autoImplicit false

namespace RowGate.Sql

inductive Lexeme where
  | name (text : String)
  | placeholder (index : Nat)
  | word (text : String)
  | number (value : Nat)
  | operator (text : String)
  | mark (c : Char)
  deriving DecidableEq

namespace Lexeme

def name? : Lexeme → Option String
  | .name text => some text
  | _ => none

def isFixed : Lexeme → Bool
  | .name _ => false
  | .placeholder _ | .number _ => true
  | .word text =>
    ["SELECT", "COUNT", "FROM", "INNER", "LEFT", "RIGHT", "JOIN", "ON", "WHERE", "AND", "OR", "LIKE",
      "ILIKE", "IS", "NOT", "NULL", "IN", "ORDER", "BY", "ASC", "DESC", "LIMIT", "OFFSET"].contains text
  | .operator text => ["=", "<>", ">", ">=", "<", "<=", "*"].contains text
  | .mark c => ['.', ',', '(', ')'].contains c

end Lexeme

inductive Run where
  | blank
  | word (read : List Char)
  | number (digits : List Char)
  | operator (read : List Char)

namespace Run

def startsWord (c : Char) : Bool :=
  c.isAlpha || c = '_' || 128 ≤ c.toNat

def isOperator (c : Char) : Bool :=
  "+-*/<>=~!@#%^&|`?".toList.contains c

def close : Run → List Lexeme
  | .blank => []
  | .word read => [.word (.ofList read)]
  | .number digits => [.number (Decimal.value digits)]
  | .operator read => [.operator (.ofList read)]

def start (c : Char) : List Lexeme × Run :=
  if startsWord c then ([], .word [c])
  else if Decimal.isDigit c then ([], .number [c])
  else if isOperator c then ([], .operator [c])
  else if c.isWhitespace then ([], .blank)
  else ([.mark c], .blank)

def extend? : Run → Char → Option Run
  | .blank, _ => none
  | .word read, c =>
    if startsWord c || Decimal.isDigit c then some (.word (read ++ [c])) else none
  | .number digits, c => if Decimal.isDigit c then some (.number (digits ++ [c])) else none
  | .operator read, c => if isOperator c then some (.operator (read ++ [c])) else none

def step (run : Run) : Token → List Lexeme × Run
  | .quoted name => (run.close ++ [.name (.ofList name)], .blank)
  | .placeholder index => (run.close ++ [.placeholder index], .blank)
  | .symbol c =>
    match run.extend? c with
    | some longer => ([], longer)
    | none => (run.close ++ (start c).1, (start c).2)

def read : Run → List Token → List Lexeme
  | run, [] => run.close
  | run, token :: rest => (step run token).1 ++ read (step run token).2 rest

end Run

def lexemes (text : String) : List Lexeme :=
  Run.read .blank (tokens text.toList)

-- No run is open behind the token, and none in front of it runs on into it.
def Token.parts : Token → Bool
  | .quoted _ | .placeholder _ => true
  | .symbol c => !(Run.startsWord c || Decimal.isDigit c || Run.isOperator c)

def Parts (tokens : List Token) : Prop :=
  tokens.head?.all Token.parts = true

theorem Parts.append (front back : List Token) (first : Parts front) (second : Parts back) :
    Parts (front ++ back) := by
  cases front with
  | nil => exact second
  | cons token rest => exact first

namespace Run

theorem startsWord_of_isDigit (c : Char) (digit : Decimal.isDigit c = true) : startsWord c = false := by
  have bounds : '0' ≤ c ∧ c ≤ '9' := by simpa [Decimal.isDigit] using digit
  have finite : ∀ code ≤ 57, 48 ≤ code → startsWord (.ofNat code) = false := by decide
  have here := finite c.toNat bounds.2 bounds.1
  rwa [Char.ofNat_toNat] at here

theorem step_of_parts (run : Run) (token : Token) (parts : token.parts = true) :
    step run token = (run.close ++ (step .blank token).1, .blank) := by
  cases token with
  | quoted | placeholder => rfl
  | symbol c =>
    obtain ⟨⟨noWord, noDigit⟩, noOperator⟩ :
        (startsWord c = false ∧ Decimal.isDigit c = false) ∧ isOperator c = false := by
      simpa [Token.parts] using parts
    have fresh : (start c).2 = .blank := by
      simp only [start, noWord, noDigit, noOperator, Bool.false_eq_true, if_false]
      split <;> rfl
    cases run <;> simp [step, extend?, close, fresh, noWord, noDigit, noOperator]

theorem read_of_parts (run : Run) (rest : List Token) (parts : Parts rest) :
    read run rest = run.close ++ read .blank rest := by
  cases rest with
  | nil => exact (List.append_nil _).symm
  | cons token rest =>
    rw [read, read, step_of_parts run token parts, step_of_parts .blank token parts]
    simp [close]

theorem read_append (run : Run) (front back : List Token) (parts : Parts back) :
    read run (front ++ back) = read run front ++ read .blank back := by
  induction front generalizing run with
  | nil => exact read_of_parts run back parts
  | cons token front ih => simp [read, ih]

theorem read_digits (digits more : List Char) (rest : List Token)
    (solid : ∀ c ∈ more, Decimal.isDigit c = true) (behind : Parts rest) :
    read (.number digits) (more.map .symbol ++ rest) =
      .number (Decimal.value (digits ++ more)) :: read .blank rest := by
  induction more generalizing digits with
  | nil =>
    rw [List.map_nil, List.nil_append, read_of_parts _ rest behind, List.append_nil]
    rfl
  | cons c more ih =>
    have longer : step (.number digits) (.symbol c) = ([], .number (digits ++ [c])) := by
      simp [step, extend?, solid c List.mem_cons_self]
    rw [List.map_cons, List.cons_append, read, longer,
      ih _ fun other member => solid other (List.mem_cons_of_mem c member)]
    simp

end Run

/-- The pieces are read as these lexemes, whatever stands behind them that parts. -/
def Reads (pieces : List Piece) (expected : List Lexeme) : Prop :=
  ∀ rest, Parts rest →
    Run.read .blank (pieces.flatMap Piece.tokens ++ rest) = expected ++ Run.read .blank rest

namespace Reads

theorem nil : Reads [] [] :=
  fun _ _ => rfl

theorem append {front back : List Piece} {first second : List Lexeme} (reads : Reads front first)
    (others : Reads back second) (parts : Parts (back.flatMap Piece.tokens)) :
    Reads (front ++ back) (first ++ second) := by
  intro rest behind
  rw [List.flatMap_append, List.append_assoc, reads _ (Parts.append _ rest parts behind),
    others rest behind, List.append_assoc]

theorem fixed (text : String) (expected : List Lexeme) (bare : Piece.isBare (.fixed text) = true)
    (same : lexemes text = expected) : Reads [.fixed text] expected := by
  have plain : ∀ c ∈ text.toList, c ≠ '"' ∧ c ≠ '$' := by simpa [Piece.isBare] using bare
  have symbols : tokens text.toList = text.toList.map .symbol := by
    simpa [tokens, Lexer.run, Lexer.finish] using Lexer.run_symbols text.toList [] plain
  intro rest behind
  rw [List.flatMap_singleton, Piece.tokens, Run.read_append _ _ rest behind, ← same, lexemes, symbols]

variable {pieces : List Piece} {expected : List Lexeme}

-- Fixed text that ends where nothing can run on, such as text with a blank at its end.
theorem fixed_cons (text : String) (first : List Lexeme)
    (closed : ∀ rest, Run.read .blank (Piece.tokens (.fixed text) ++ rest) =
      first ++ Run.read .blank rest)
    (reads : Reads pieces expected) : Reads (.fixed text :: pieces) (first ++ expected) := by
  intro rest behind
  rw [List.flatMap_cons, List.append_assoc, closed, reads rest behind, List.append_assoc]

theorem name_cons (name : String) (named : name ≠ "*") (reads : Reads pieces expected) :
    Reads (.name name :: pieces) (.name name :: expected) := by
  intro rest behind
  rw [List.flatMap_cons, Piece.tokens, if_neg named, List.append_assoc, List.singleton_append, Run.read,
    Run.step, reads rest behind, String.ofList_toList]
  rfl

theorem placeholder_cons (index : Nat) (reads : Reads pieces expected) :
    Reads (.placeholder index :: pieces) (.placeholder index :: expected) := by
  intro rest behind
  rw [List.flatMap_cons, Piece.tokens, List.append_assoc, List.singleton_append, Run.read, Run.step,
    reads rest behind]
  rfl

theorem fixed_append (text : String) (first : List Lexeme) (bare : Piece.isBare (.fixed text) = true)
    (same : lexemes text = first) (reads : Reads pieces expected)
    (parts : Parts (pieces.flatMap Piece.tokens)) :
    Reads (.fixed text :: pieces) (first ++ expected) :=
  append (fixed text first bare same) reads parts

theorem number (value : Nat) : Reads [.number value] [.number value] := by
  intro rest behind
  have solid := Decimal.isDigit_of_mem_write value
  cases shape : Decimal.write value with
  | nil => exact absurd shape (Decimal.write_ne_nil value)
  | cons c more =>
    have read : Decimal.value ([c] ++ more) = value := by
      rw [List.singleton_append, ← shape, Decimal.value_write]
    rw [shape] at solid
    have opens : Run.step .blank (.symbol c) = ([], .number [c]) := by
      have digit := solid c List.mem_cons_self
      simp [Run.step, Run.extend?, Run.start, Run.close, digit, Run.startsWord_of_isDigit c digit]
    rw [List.flatMap_singleton, Piece.tokens, shape, List.map_cons, List.cons_append, Run.read, opens,
      Run.read_digits _ more rest (fun d member => solid d (List.mem_cons_of_mem c member)) behind, read]
    rfl

theorem separated {α : Type} {items : List α} {write : α → List Piece} {expected : α → List Lexeme}
    (reads : ∀ item ∈ items, Reads (write item) (expected item)) :
    Reads (Piece.separated ", " (items.map write))
      ([Lexeme.mark ','].intercalate (items.map expected)) := by
  induction items with
  | nil => exact nil
  | cons item rest ih =>
    have first := reads item List.mem_cons_self
    have others := ih fun other member => reads other (List.mem_cons_of_mem item member)
    cases rest with
    | nil => simpa [Piece.separated] using first
    | cons next more =>
      have behind := fixed_cons ", " [.mark ','] (fun _ => rfl) others
      have whole := append first behind rfl
      simpa [Piece.separated, List.intercalate] using whole

theorem lexemes_text (apart : Piece.areApart pieces = true) (reads : Reads pieces expected) :
    lexemes (Piece.text pieces) = expected := by
  have whole := reads [] rfl
  rw [List.append_nil, ← Piece.tokens_flatMap_write pieces apart] at whole
  rw [lexemes, Piece.text, String.toList_ofList, whole]
  exact List.append_nil expected

end Reads

structure Spells (expected : List Lexeme) (names : List String) : Prop where
  names : expected.filterMap Lexeme.name? = names
  known : ∀ lexeme ∈ expected, lexeme.name? = none → lexeme.isFixed = true

namespace Spells

theorem nil : Spells [] [] :=
  ⟨rfl, by simp⟩

theorem append {front back : List Lexeme} {first second : List String} (spells : Spells front first)
    (others : Spells back second) : Spells (front ++ back) (first ++ second) := by
  refine ⟨by rw [List.filterMap_append, spells.names, others.names], ?_⟩
  intro lexeme member
  rcases List.mem_append.1 member with inside | inside
  · exact spells.known lexeme inside
  · exact others.known lexeme inside

theorem name (text : String) : Spells [.name text] [text] :=
  ⟨rfl, by simp [Lexeme.name?]⟩

theorem fixed (expected : List Lexeme) (all : expected.all Lexeme.isFixed = true) :
    Spells expected [] := by
  have known := List.all_eq_true.1 all
  refine ⟨List.filterMap_eq_nil_iff.2 fun lexeme member => ?_, fun lexeme member _ => known lexeme member⟩
  cases lexeme with
  | name text => exact absurd (known _ member) (by simp [Lexeme.isFixed])
  | _ => rfl

variable {expected : List Lexeme} {names : List String}

theorem name_cons (text : String) (spells : Spells expected names) :
    Spells (.name text :: expected) (text :: names) :=
  append (name text) spells

theorem fixed_append (first : List Lexeme) (all : first.all Lexeme.isFixed = true)
    (spells : Spells expected names) : Spells (first ++ expected) names :=
  append (fixed first all) spells

theorem flatMap {α : Type} (items : List α) {expected : α → List Lexeme} {names : α → List String}
    (spells : ∀ item, Spells (expected item) (names item)) :
    Spells (items.flatMap expected) (items.flatMap names) := by
  induction items with
  | nil => exact nil
  | cons item rest ih => exact append (spells item) ih

theorem intercalate {α : Type} (items : List α) {expected : α → List Lexeme} {names : α → List String}
    (spells : ∀ item, Spells (expected item) (names item)) :
    Spells ([Lexeme.mark ','].intercalate (items.map expected)) (items.flatMap names) := by
  induction items with
  | nil => exact nil
  | cons item rest ih =>
    cases rest with
    | nil => simpa [List.intercalate] using spells item
    | cons next more =>
      have behind := fixed_append [.mark ','] rfl ih
      have whole := append (spells item) behind
      simpa [List.intercalate] using whole

end Spells

end RowGate.Sql
