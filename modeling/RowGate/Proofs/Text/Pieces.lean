import Mathlib.Data.List.Basic
import Mathlib.Data.List.TakeWhile
import RowGate.Text.Pieces

set_option autoImplicit false

namespace RowGate.Text

theorem pieces_eq_singleton (separator : Char) (text : List Char) (absent : separator ∉ text) :
    pieces separator text = [text] := by
  induction text with
  | nil => rfl
  | cons c rest ih =>
    have differs : c ≠ separator := fun same => absent (by simp [same])
    have further : separator ∉ rest := fun member => absent (List.mem_cons_of_mem c member)
    simp [pieces, differs, ih further]

theorem pieces_append (separator : Char) (front back : List Char) :
    pieces separator (front ++ separator :: back) = pieces separator front ++ pieces separator back := by
  induction front with
  | nil => simp [pieces]
  | cons c rest ih =>
    by_cases same : c = separator
    · simp [pieces, same, ih]
    · have nonempty := pieces_ne_nil separator rest
      cases found : pieces separator rest with
      | nil => exact absurd found nonempty
      | cons piece more => simp [pieces, same, ih, found]

theorem pieces_join (separator : Char) (parts : List (List Char)) (some : parts ≠ [])
    (absent : ∀ part ∈ parts, separator ∉ part) :
    pieces separator (join separator parts) = parts := by
  induction parts with
  | nil => exact absurd rfl some
  | cons part rest ih =>
    have first := pieces_eq_singleton separator part (absent part List.mem_cons_self)
    cases rest with
    | nil => exact first
    | cons next more =>
      have others := ih (by simp) fun other member => absent other (List.mem_cons_of_mem _ member)
      rw [join, pieces_append, first, others]
      rfl

theorem not_mem_of_mem_pieces (separator : Char) (text part : List Char)
    (member : part ∈ pieces separator text) : separator ∉ part := by
  induction text generalizing part with
  | nil => simp_all [pieces]
  | cons c rest ih =>
    rw [pieces] at member
    split at member
    next =>
      rcases List.mem_cons.mp member with rfl | later
      next => exact List.not_mem_nil
      next => exact ih part later
    next differs =>
      cases found : pieces separator rest with
      | nil => exact absurd found (pieces_ne_nil separator rest)
      | cons piece more =>
        rw [found] at member ih
        rcases List.mem_cons.mp member with rfl | later
        next =>
          have further := ih piece List.mem_cons_self
          simp [Ne.symm differs, further]
        next => exact ih part (List.mem_cons_of_mem piece later)

theorem pieces_eq_splitOn (separator : Char) (text : List Char) :
    pieces separator text = text.splitOn separator := by
  rw [List.splitOn_eq_splitOnP]
  induction text with
  | nil => rfl
  | cons c rest ih =>
    rw [pieces, ih, List.splitOnP_cons_eq_if_modifyHead]
    by_cases same : c = separator
    · simp [same]
    · rw [if_neg same, if_neg (by simpa using same)]
      cases found : rest.splitOnP (· == separator) with
      | nil => exact absurd found (List.splitOnP_ne_nil _ rest)
      | cons piece more => rfl

theorem cut?_append (separator : Char) (before after : List Char) (absent : separator ∉ before) :
    cut? separator (before ++ separator :: after) = some (before, after) :=
  (cut?_eq_some_iff separator _ before after).2 ⟨rfl, absent⟩

theorem cut?_eq_none_iff (separator : Char) (text : List Char) :
    cut? separator text = none ↔ separator ∉ text := by
  induction text with
  | nil => simp [cut?]
  | cons c rest ih =>
    by_cases same : c = separator
    · simp [cut?, same]
    · simp [cut?, same, ih, Ne.symm same]

-- A text without blanks at its ends.
def Trimmed (text : List Char) : Prop :=
  (∀ c ∈ text.head?, isBlank c = false) ∧ ∀ c ∈ text.getLast?, isBlank c = false

-- The quantifiers range over options, not over all characters.
instance (text : List Char) : Decidable (Trimmed text) :=
  decidable_of_iff
    ((text.head?.all fun c => !isBlank c) = true ∧ (text.getLast?.all fun c => !isBlank c) = true)
    (by simp [Trimmed, Option.all_eq_true])

theorem trimStart_eq_self (text : List Char) (head : ∀ c ∈ text.head?, isBlank c = false) :
    trimStart text = text := by
  cases text with
  | nil => rfl
  | cons c rest =>
    have first : isBlank c = false := head c rfl
    simp [trimStart, first]

theorem trimEnd_eq_self (text : List Char) (last : ∀ c ∈ text.getLast?, isBlank c = false) :
    trimEnd text = text := by
  have reversed := trimStart_eq_self text.reverse (by simpa using last)
  rw [trimStart] at reversed
  rw [trimEnd, reversed, List.reverse_reverse]

theorem trim_eq_self (text : List Char) (trimmed : Trimmed text) : trim text = text := by
  rw [trim, trimStart_eq_self text trimmed.1, trimEnd_eq_self text trimmed.2]

theorem trimmed_of_forall (text : List Char) (solid : ∀ c ∈ text, isBlank c = false) :
    Trimmed text :=
  ⟨fun c member => solid c (List.mem_of_mem_head? member),
    fun c member => solid c (List.mem_of_mem_getLast? member)⟩

theorem exists_append_trimEnd (text : List Char) :
    ∃ blanks, text = trimEnd text ++ blanks ∧ ∀ c ∈ blanks, isBlank c = true := by
  refine ⟨(text.reverse.takeWhile isBlank).reverse, ?_, ?_⟩
  · rw [trimEnd, ← List.reverse_append, List.takeWhile_append_dropWhile, List.reverse_reverse]
  · intro c member
    have all : (text.reverse.takeWhile isBlank).all isBlank = true := List.all_takeWhile
    exact List.all_eq_true.1 all c (List.mem_reverse.1 member)

theorem trim_cons (c : Char) (rest : List Char) (solid : isBlank c = false) :
    ∃ more, trim (c :: rest) = c :: more := by
  have start : trimStart (c :: rest) = c :: rest := by simp [trimStart, solid]
  obtain ⟨blanks, parts, blank⟩ := exists_append_trimEnd (c :: rest)
  rw [trim, start]
  cases shape : trimEnd (c :: rest) with
  | nil =>
    rw [shape, List.nil_append] at parts
    have first := blank c (by simp [← parts])
    rw [solid] at first
    cases first
  | cons d more =>
    rw [shape] at parts
    exact ⟨more, by rw [(List.cons.inj parts).1]⟩

theorem exists_append_trim (text : List Char) :
    ∃ before after, text = before ++ trim text ++ after ∧
      ∀ c ∈ before ++ after, isBlank c = true := by
  obtain ⟨after, shape, blank⟩ := exists_append_trimEnd (trimStart text)
  have whole : text.takeWhile isBlank ++ trimStart text = text := List.takeWhile_append_dropWhile
  have front : (text.takeWhile isBlank).all isBlank = true := List.all_takeWhile
  refine ⟨text.takeWhile isBlank, after, ?_, List.forall_mem_append.mpr ⟨?_, blank⟩⟩
  · rw [List.append_assoc, trim, ← shape, whole]
  · exact List.all_eq_true.mp front

theorem trim_blank_cons (c : Char) (text : List Char) (blank : isBlank c = true) :
    trim (c :: text) = trim text := by
  rw [trim, trimStart, List.dropWhile_cons_of_pos blank]
  rfl

theorem trim_append_blanks (text blanks : List Char) (blank : ∀ c ∈ blanks, isBlank c = true) :
    trim (text ++ blanks) = trim text := by
  rw [trim, trim, trimStart, trimStart, List.dropWhile_append]
  split
  next none =>
    rw [List.isEmpty_iff.mp none, List.dropWhile_eq_nil_iff.mpr blank]
  next =>
    rw [trimEnd, List.reverse_append, List.dropWhile_append_of_pos (by simpa using blank)]
    rfl

-- A solid character at the end keeps the blanks in front of it.
theorem exists_trim_concat (text : List Char) (c : Char) (solid : isBlank c = false) :
    ∃ blanks, trim (text ++ [c]) = trim text ++ (blanks ++ [c]) ∧ ∀ d ∈ blanks, isBlank d = true := by
  obtain ⟨blanks, shape, blank⟩ := exists_append_trimEnd (trimStart text)
  refine ⟨blanks, ?_, blank⟩
  have start : trimStart (text ++ [c]) = trimStart text ++ [c] := by
    rw [trimStart, trimStart, List.dropWhile_append]
    split
    next none => rw [List.isEmpty_iff.mp none, List.dropWhile_cons_of_neg (by simp [solid])]; rfl
    next => rfl
  have last : trimEnd (trimStart text ++ [c]) = trimStart text ++ [c] := by
    apply trimEnd_eq_self
    rintro d final
    rw [List.getLast?_concat] at final
    cases final
    exact solid
  rw [trim, start, last, ← List.append_assoc]
  exact congrArg (· ++ [c]) shape

structure IsItem (item : List Char) : Prop where
  nonempty : item ≠ []
  single : ',' ∉ item
  trimmed : Trimmed item

instance (item : List Char) : Decidable (IsItem item) :=
  decidable_of_iff (item ≠ [] ∧ ',' ∉ item ∧ Trimmed item)
    ⟨fun ⟨nonempty, single, trimmed⟩ => ⟨nonempty, single, trimmed⟩,
      fun ⟨nonempty, single, trimmed⟩ => ⟨nonempty, single, trimmed⟩⟩

theorem tokens_join (items : List (List Char)) (proper : ∀ item ∈ items, IsItem item) :
    tokens ',' (join ',' items) = items := by
  cases items with
  | nil => decide
  | cons first rest =>
    have cut := pieces_join ',' (first :: rest) (by simp) fun item member => (proper item member).single
    have trims : (first :: rest).map trim = (first :: rest).map id :=
      List.map_congr_left fun item member => trim_eq_self item (proper item member).trimmed
    rw [tokens, cut, trims, List.map_id, List.filter_eq_self]
    intro item member
    simpa using (proper item member).nonempty

theorem trimmed_join (items : List (List Char)) (proper : ∀ item ∈ items, IsItem item) :
    Trimmed (join ',' items) := by
  induction items with
  | nil => exact ⟨by simp [join], by simp [join]⟩
  | cons first rest ih =>
    have here := proper first List.mem_cons_self
    cases rest with
    | nil => exact here.trimmed
    | cons next more =>
      have there := ih fun other member => proper other (List.mem_cons_of_mem _ member)
      have filled : join ',' (next :: more) ≠ [] := by
        have nonempty := (proper next (by simp)).nonempty
        cases more <;> simp [join, nonempty]
      constructor
      · intro c head
        cases first with
        | nil => exact absurd rfl here.nonempty
        | cons d tail => exact here.trimmed.1 c head
      · intro c last
        rw [join, List.getLast?_append_of_ne_nil _ (by simp), List.getLast?_cons_of_ne_nil filled] at last
        exact there.2 c last

theorem flatMap_separator (separator : Char) (part : List Char) (rest : List (List Char)) :
    (part :: rest).flatMap (separator :: ·) = separator :: join separator (part :: rest) := by
  induction rest generalizing part with
  | nil => simp [join]
  | cons next more ih => rw [List.flatMap_cons, ih next, join, List.cons_append]

theorem flatMap_pieces (separator : Char) (text : List Char) :
    (pieces separator text).flatMap (separator :: ·) = separator :: text := by
  cases cut : pieces separator text with
  | nil => exact absurd cut (pieces_ne_nil separator text)
  | cons part rest => rw [flatMap_separator, ← cut, join_pieces]

theorem join_nil_cons (separator : Char) (parts : List (List Char)) :
    join separator ([] :: parts) = parts.flatMap (separator :: ·) := by
  cases parts with
  | nil => rfl
  | cons part rest => rw [flatMap_separator, join, List.nil_append]

theorem join_append (separator : Char) (front back : List (List Char)) (before : front ≠ [])
    (behind : back ≠ []) :
    join separator (front ++ back) = join separator front ++ separator :: join separator back := by
  obtain ⟨first, others, rfl⟩ := List.exists_cons_of_ne_nil before
  obtain ⟨next, more, rfl⟩ := List.exists_cons_of_ne_nil behind
  have whole := flatMap_separator separator first (others ++ next :: more)
  rw [← List.cons_append, List.flatMap_append, flatMap_separator, flatMap_separator,
    List.cons_append] at whole
  exact (List.cons.inj whole).2.symm

theorem join_modifyHead (separator c : Char) (parts : List (List Char)) (some : parts ≠ []) :
    join separator (parts.modifyHead (c :: ·)) = c :: join separator parts := by
  obtain ⟨first, others, rfl⟩ := List.exists_cons_of_ne_nil some
  cases others <;> rfl

theorem pieces_flatMap (separator : Char) (parts : List (List Char))
    (absent : ∀ part ∈ parts, separator ∉ part) :
    pieces separator (parts.flatMap (separator :: ·)) = [] :: parts := by
  cases parts with
  | nil => rfl
  | cons part rest => rw [flatMap_separator, pieces, if_pos rfl, pieces_join _ _ (by simp) absent]

theorem length_join (separator : Char) (parts : List (List Char)) :
    (join separator parts).length = (parts.flatMap (separator :: ·)).length - 1 := by
  cases parts with
  | nil => rfl
  | cons part rest => rw [flatMap_separator, List.length_cons, Nat.add_sub_cancel]

theorem length_trim_le (text : List Char) : (trim text).length ≤ text.length := by
  have back := (List.dropWhile_sublist isBlank (l := (trimStart text).reverse)).length_le
  have front := (List.dropWhile_sublist isBlank (l := text)).length_le
  rw [List.length_reverse] at back
  rw [trim, trimEnd, List.length_reverse]
  exact Nat.le_trans back front

theorem length_join_tokens_le (separator : Char) (text : List Char) :
    (join separator (tokens separator text)).length ≤ text.length := by
  have shrinks (parts : List (List Char)) :
      (((parts.map trim).filter (· ≠ [])).flatMap (separator :: ·)).length ≤
        (parts.flatMap (separator :: ·)).length := by
    induction parts with
    | nil => simp
    | cons part rest ih =>
      have shorter := length_trim_le part
      simp only [List.map_cons, List.flatMap_cons, List.length_append, List.length_cons]
      by_cases blank : trim part = []
      · rw [List.filter_cons_of_neg (by simpa using blank)]
        omega
      · rw [List.filter_cons_of_pos (by simpa using blank), List.flatMap_cons, List.length_append,
          List.length_cons]
        omega
  have kept := shrinks (pieces separator text)
  rw [flatMap_pieces, List.length_cons] at kept
  rw [length_join, tokens]
  omega

end RowGate.Text
