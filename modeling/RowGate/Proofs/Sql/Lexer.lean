import RowGate.Sql.Piece

set_option autoImplicit false

/-!
# Reading SQL text

A name in quotes ends at the first quote that is not doubled, and a dollar with digits behind it is
a placeholder. Where pieces stand apart, their text is read as these pieces again
(`tokens_flatMap_write`), so nothing in a name is mistaken for a placeholder.
-/

namespace RowGate.Sql

inductive Token where
  | quoted (name : List Char)
  | placeholder (index : Nat)
  | symbol (c : Char)
  deriving DecidableEq

namespace Lexer

inductive State where
  | plain
  | name (read : List Char)
  -- Behind a quote that ends the name or is the first of two.
  | quote (read : List Char)
  | dollar
  | index (digits : List Char)

def start (c : Char) : List Token × State :=
  if c = '"' then ([], .name [])
  else if c = '$' then ([], .dollar)
  else ([.symbol c], .plain)

def step : State → Char → List Token × State
  | .plain, c => start c
  | .name read, c => ([], if c = '"' then .quote read else .name (read ++ [c]))
  | .quote read, c =>
    if c = '"' then ([], .name (read ++ [c])) else (.quoted read :: (start c).1, (start c).2)
  | .dollar, c =>
    if Decimal.isDigit c then ([], .index [c]) else (.symbol '$' :: (start c).1, (start c).2)
  | .index digits, c =>
    if Decimal.isDigit c then ([], .index (digits ++ [c]))
    else (.placeholder (Decimal.value digits) :: (start c).1, (start c).2)

-- A name without end is no name.
def finish : State → List Token
  | .plain => []
  | .name read => .symbol '"' :: read.map .symbol
  | .quote read => [.quoted read]
  | .dollar => [.symbol '$']
  | .index digits => [.placeholder (Decimal.value digits)]

def run : State → List Char → List Token
  | state, [] => finish state
  | state, c :: rest => (step state c).1 ++ run (step state c).2 rest

end Lexer

def tokens (text : List Char) : List Token :=
  Lexer.run .plain text

namespace Lexer

theorem run_symbols (text rest : List Char) (bare : ∀ c ∈ text, c ≠ '"' ∧ c ≠ '$') :
    run .plain (text ++ rest) = text.map .symbol ++ run .plain rest := by
  induction text with
  | nil => rfl
  | cons c text ih =>
    have first := bare c List.mem_cons_self
    have others := ih fun d member => bare d (List.mem_cons_of_mem c member)
    simp [run, step, start, first, others]

theorem run_doubleQuotes (read name rest : List Char) :
    run (.name read) (doubleQuotes name ++ rest) = run (.name (read ++ name)) rest := by
  induction name generalizing read with
  | nil => simp [doubleQuotes]
  | cons c name ih =>
    by_cases quote : c = '"'
    · simp [doubleQuotes, quote, run, step, ih]
    · simp [doubleQuotes, quote, run, step, ih]

theorem run_quote (read rest : List Char) (ends : rest.head? ≠ some '"') :
    run (.quote read) rest = .quoted read :: run .plain rest := by
  cases rest with
  | nil => rfl
  | cons c rest =>
    have other : c ≠ '"' := by simpa using ends
    simp [run, step, other]

theorem run_index (digits more rest : List Char)
    (solid : ∀ c ∈ more, Decimal.isDigit c = true)
    (ends : ∀ c ∈ rest.head?, Decimal.isDigit c = false) :
    run (.index digits) (more ++ rest) =
      .placeholder (Decimal.value (digits ++ more)) :: run .plain rest := by
  induction more generalizing digits with
  | nil =>
    cases rest with
    | nil => simp [run, finish]
    | cons c rest => simp [run, step, ends c rfl]
  | cons c more ih =>
    have others := ih (digits ++ [c]) fun d member => solid d (List.mem_cons_of_mem c member)
    simp [run, step, solid c List.mem_cons_self, others]

end Lexer

namespace Piece

def tokens : Piece → List Token
  | .fixed text => text.toList.map .symbol
  | .name text => if text = "*" then [.symbol '*'] else [.quoted text.toList]
  | .placeholder index => [.placeholder index]
  | .number value => (Decimal.write value).map .symbol

-- Fixed text opens no name and no placeholder.
def isBare : Piece → Bool
  | .fixed text => text.toList.all fun c => c ≠ '"' && c ≠ '$'
  | .name _ | .placeholder _ | .number _ => true

def closes : Piece → Bool
  | .fixed text => text.toList.head?.any fun c => c ≠ '"' && !Decimal.isDigit c
  | .name _ | .placeholder _ | .number _ => false

def isOpen : Piece → Bool
  | .name _ | .placeholder _ => true
  | .fixed _ | .number _ => false

def areApart : List Piece → Bool
  | [] => true
  | piece :: rest =>
    piece.isBare && (!piece.isOpen || rest.head?.all closes) && areApart rest

theorem areApart_append (front back : List Piece) (first : areApart front = true)
    (second : areApart back = true) (between : back.head?.all closes = true) :
    areApart (front ++ back) = true := by
  induction front with
  | nil => exact second
  | cons piece rest ih =>
    simp only [areApart, Bool.and_eq_true] at first
    obtain ⟨⟨bare, next⟩, others⟩ := first
    simp only [List.cons_append, areApart, Bool.and_eq_true]
    refine ⟨⟨bare, ?_⟩, ih others⟩
    cases rest with
    | nil => simp [between]
    | cons _ _ => exact next

theorem head?_flatMap_write (pieces : List Piece) (closed : pieces.head?.all closes = true) (c : Char)
    (head : c ∈ (pieces.flatMap write).head?) : c ≠ '"' ∧ Decimal.isDigit c = false := by
  cases pieces with
  | nil => cases head
  | cons piece rest =>
    cases piece with
    | fixed text =>
      simp only [List.head?_cons, Option.all_some, closes] at closed
      simp only [List.flatMap_cons, write] at head
      cases shape : text.toList with
      | nil => simp [shape] at closed
      | cons d more =>
        rw [shape] at closed head
        cases head
        simpa using closed
    | name | placeholder | number => simp [closes] at closed

theorem tokens_flatMap_write (pieces : List Piece) (apart : areApart pieces = true) :
    Sql.tokens (pieces.flatMap write) = pieces.flatMap tokens := by
  induction pieces with
  | nil => rfl
  | cons piece rest ih =>
    simp only [areApart, Bool.and_eq_true] at apart
    obtain ⟨⟨bare, next⟩, others⟩ := apart
    have further := ih others
    unfold Sql.tokens at further ⊢
    rw [List.flatMap_cons, List.flatMap_cons, ← further]
    cases piece with
    | fixed text =>
      have plain : ∀ c ∈ text.toList, c ≠ '"' ∧ c ≠ '$' := by simpa [isBare] using bare
      exact Lexer.run_symbols _ _ plain
    | number value =>
      apply Lexer.run_symbols
      intro c member
      have digit := Decimal.isDigit_of_mem_write value c member
      constructor <;> (rintro rfl; exact absurd digit (by decide))
    | name text =>
      have ends := head?_flatMap_write rest (by simpa [isOpen] using next)
      by_cases star : text = "*"
      · simp only [write, quoteName, tokens, if_pos star]
        exact Lexer.run_symbols ['*'] _ (by simp)
      · simp only [write, quoteName, tokens, if_neg star, List.cons_append, List.append_assoc,
          List.nil_append]
        rw [Lexer.run, Lexer.step, Lexer.start, if_pos rfl, List.nil_append,
          Lexer.run_doubleQuotes, List.nil_append, Lexer.run, Lexer.step, if_pos rfl]
        apply Lexer.run_quote
        intro quote
        exact (ends '"' quote).1 rfl
    | placeholder index =>
      have ends := head?_flatMap_write rest (by simpa [isOpen] using next)
      have solid := Decimal.isDigit_of_mem_write index
      cases shape : Decimal.write index with
      | nil => exact absurd shape (Decimal.write_ne_nil index)
      | cons c more =>
        have value : Decimal.value ([c] ++ more) = index := by
          rw [List.singleton_append, ← shape, Decimal.value_write]
        rw [shape] at solid
        simp only [write, shape, tokens, List.cons_append, List.nil_append]
        have first : Lexer.step .plain '$' = ([], .dollar) := rfl
        have second : Lexer.step .dollar c = ([], .index [c]) :=
          if_pos (solid c List.mem_cons_self)
        rw [Lexer.run, first, List.nil_append, Lexer.run, second, List.nil_append,
          Lexer.run_index [c] more _ (fun d member => solid d (List.mem_cons_of_mem c member))
            (fun d head => (ends d head).2), value]

-- Pieces that stand apart, also behind a name or a placeholder.
structure Trail (pieces : List Piece) : Prop where
  apart : areApart pieces = true
  closing : pieces.head?.all closes = true

theorem Trail.nil : Trail [] := ⟨rfl, rfl⟩

theorem Trail.append (front back : List Piece) (first : Trail front) (second : Trail back) :
    Trail (front ++ back) := by
  refine ⟨areApart_append front back first.apart second.apart second.closing, ?_⟩
  cases front with
  | nil => exact second.closing
  | cons piece rest => exact first.closing

theorem areApart_fixed_cons (text : String) (rest : List Piece)
    (bare : isBare (.fixed text) = true) (apart : areApart rest = true) :
    areApart (.fixed text :: rest) = true := by
  simp [areApart, bare, isOpen, apart]

theorem trail_fixed_cons (text : String) (rest : List Piece) (bare : isBare (.fixed text) = true)
    (closing : closes (.fixed text) = true) (apart : areApart rest = true) :
    Trail (.fixed text :: rest) :=
  ⟨areApart_fixed_cons text rest bare apart, by simpa using closing⟩

theorem areApart_name_cons (name : String) (rest : List Piece) (trail : Trail rest) :
    areApart (.name name :: rest) = true := by
  simp [areApart, isBare, trail.apart, trail.closing]

theorem areApart_separated (separator : String) (bare : isBare (.fixed separator) = true)
    (closing : closes (.fixed separator) = true) (groups : List (List Piece))
    (apart : ∀ group ∈ groups, areApart group = true) :
    areApart (separated separator groups) = true := by
  induction groups with
  | nil => rfl
  | cons first rest ih =>
    have others := ih fun group member => apart group (List.mem_cons_of_mem _ member)
    have start := apart first List.mem_cons_self
    cases rest with
    | nil => exact start
    | cons next more =>
      have trail := trail_fixed_cons separator _ bare closing others
      exact areApart_append first _ start trail.apart trail.closing

end Piece

end RowGate.Sql
