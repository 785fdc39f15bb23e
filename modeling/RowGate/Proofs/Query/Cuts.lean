import RowGate.Proofs.Query.Group

set_option autoImplicit false

namespace RowGate.Group

section

variable (separator : Char)

theorem join_segmentsFrom (depth : Nat) (text : List Char) :
    Text.join separator (segmentsFrom separator depth text) = text := by
  induction text generalizing depth with
  | nil => rfl
  | cons c rest ih =>
    have filled := segmentsFrom_ne_nil separator (depthAfter depth c) rest
    rw [segmentsFrom_cons]
    split
    next cut =>
      have parted := Text.join_append separator [[]] _ (by simp) filled
      rw [ih] at parted
      rw [cut.1] at parted ⊢
      exact parted
    next => rw [Text.join_modifyHead separator c _ filled, ih]

variable (level : depthAfter 0 separator = 0)

include level

theorem segmentsFrom_cut (depth : Nat) (before after : List Char)
    (bottom : depthFrom depth before = 0) :
    segmentsFrom separator depth (before ++ separator :: after) =
      segmentsFrom separator depth before ++ segmentsFrom separator 0 after := by
  induction before generalizing depth with
  | nil =>
    obtain rfl : depth = 0 := bottom
    rw [List.nil_append, segmentsFrom_cons, if_pos ⟨rfl, rfl⟩, level]
    rfl
  | cons c rest ih =>
    have filled := segmentsFrom_ne_nil separator (depthAfter depth c) rest
    rw [List.cons_append, segmentsFrom_cons, segmentsFrom_cons, ih (depthAfter depth c) bottom]
    split
    next => rfl
    next =>
      obtain ⟨first, others, shape⟩ := List.exists_cons_of_ne_nil filled
      rw [shape]
      rfl

-- The induction is on the text, whose first character opens a segment or extends the first one.
theorem depthFrom_join (depth : Nat) (text : List Char) (front back : List (List Char))
    (before : front ≠ []) (behind : back ≠ [])
    (shape : segmentsFrom separator depth text = front ++ back) :
    depthFrom depth (Text.join separator front) = 0 := by
  obtain ⟨first, others, rfl⟩ := List.exists_cons_of_ne_nil before
  induction text generalizing depth first others with
  | nil =>
    obtain ⟨_, none⟩ := List.cons.inj shape
    exact absurd (List.append_eq_nil_iff.mp none.symm).2 behind
  | cons c rest ih =>
    rw [segmentsFrom_cons] at shape
    split at shape
    next cut =>
      obtain ⟨rfl, rfl⟩ := cut
      obtain ⟨rfl, further⟩ := List.cons.inj shape
      cases others with
      | nil => rfl
      | cons next more =>
        have inner := ih (depthAfter 0 c) next more (by simp) further
        rw [Text.join, List.nil_append, depthFrom_cons]
        exact inner
    next =>
      obtain ⟨piece, pieces, inner⟩ :=
        List.exists_cons_of_ne_nil (segmentsFrom_ne_nil separator (depthAfter depth c) rest)
      rw [inner] at shape
      obtain ⟨rfl, rfl⟩ := List.cons.inj shape
      have extended := Text.join_modifyHead separator c (piece :: others) (by simp)
      rw [List.modifyHead_cons] at extended
      rw [extended, depthFrom_cons]
      exact ih (depthAfter depth c) piece others (by simp) inner

end

theorem withoutEmptyEnd_append (front back : List (List Char)) (some : back ≠ []) :
    withoutEmptyEnd (front ++ back) = front ++ withoutEmptyEnd back := by
  induction front with
  | nil => rfl
  | cons text rest ih =>
    rw [List.cons_append, withoutEmptyEnd_cons text _ (by simp [some]), ih, List.cons_append]

theorem eq_withoutEmptyEnd (texts : List (List Char)) :
    texts = withoutEmptyEnd texts ∨ texts = withoutEmptyEnd texts ++ [[]] := by
  unfold withoutEmptyEnd
  split
  next ends =>
    obtain ⟨front, rfl⟩ := List.getLast?_eq_some_iff.mp ends
    exact .inr (by simp)
  next => exact .inl rfl

-- The text ends in a separator at depth zero.
def EndsInCut (separator : Char) (text : List Char) : Prop :=
  ∃ before, text = before ++ [separator] ∧ depthFrom 0 before = 0

/-- The text with its separators between the pieces, cut where they stand at depth zero; only one at
the end of the text opens no piece. -/
structure Cuts (separator : Char) (text : List Char) (pieces : List (List Char)) : Prop where
  complete : ¬EndsInCut separator text → Text.join separator pieces = text
  closed : EndsInCut separator text → Text.join separator pieces = text.dropLast
  empty : pieces = [] ↔ text = []
  level : ∀ before after, text = before ++ separator :: after →
    (depthFrom 0 before = 0 ↔
      ∃ front back, front ≠ [] ∧ pieces = front ++ back ∧ Text.join separator front = before ∧
        (back = [] → after = []))

section

variable (separator : Char)

theorem endsInCut_of_segments (level : depthAfter 0 separator = 0) (text : List Char)
    (front : List (List Char)) (some : front ≠ [])
    (shape : segments separator text = front ++ [[]]) :
    text = Text.join separator front ++ [separator] ∧ depthFrom 0 (Text.join separator front) = 0 := by
  refine ⟨?_, depthFrom_join separator level 0 text front [[]] some (by simp) shape⟩
  have whole := join_segmentsFrom separator 0 text
  rw [segments] at shape
  rw [shape, Text.join_append separator front [[]] some (by simp)] at whole
  exact whole.symm

variable (level : depthAfter 0 separator = 0)

include level

theorem segments_cases (text : List Char) :
    segments separator text = pieces separator text ∨
      segments separator text = pieces separator text ++ [[]] := by
  rw [pieces_eq_segments separator level]
  exact eq_withoutEmptyEnd (segments separator text)

theorem pieces_eq_nil_iff (text : List Char) : pieces separator text = [] ↔ text = [] := by
  constructor
  next =>
    intro none
    have whole := join_segmentsFrom separator 0 text
    rcases segments_cases separator level text with same | ends
    next => exact absurd (same.trans none) (segmentsFrom_ne_nil separator 0 text)
    next =>
      rw [none, List.nil_append] at ends
      rw [segments] at ends
      rw [← whole, ends]
      rfl
  next =>
    rintro rfl
    rfl

theorem pieces_cut (before after : List Char) (bottom : depthFrom 0 before = 0) :
    pieces separator (before ++ separator :: after) =
      segments separator before ++ pieces separator after := by
  rw [pieces_eq_segments separator level, pieces_eq_segments separator level, segments,
    segmentsFrom_cut separator level 0 before after bottom,
    withoutEmptyEnd_append _ _ (segmentsFrom_ne_nil separator 0 after)]
  rfl

theorem cuts_pieces (text : List Char) : Cuts separator text (pieces separator text) where
  complete := by
    intro unended
    have whole := join_segmentsFrom separator 0 text
    change Text.join separator (segments separator text) = text at whole
    rcases segments_cases separator level text with same | ends
    next => rw [← same, whole]
    next =>
      by_cases none : pieces separator text = []
      next => rw [none, (pieces_eq_nil_iff separator level text).mp none, Text.join]
      next => exact absurd ⟨_, endsInCut_of_segments separator level text _ none ends⟩ unended
  closed := by
    rintro ⟨before, rfl, bottom⟩
    have cut := pieces_cut separator level before [] bottom
    rw [(pieces_eq_nil_iff separator level []).mpr rfl, List.append_nil] at cut
    rw [cut, segments, join_segmentsFrom, List.dropLast_concat]
  empty := pieces_eq_nil_iff separator level text
  level := by
    rintro before after rfl
    constructor
    next =>
      intro bottom
      refine ⟨segments separator before, pieces separator after, segmentsFrom_ne_nil separator 0 before,
        pieces_cut separator level before after bottom, join_segmentsFrom separator 0 before, ?_⟩
      exact (pieces_eq_nil_iff separator level after).mp
    next =>
      rintro ⟨front, back, some, shape, rfl, ends⟩
      have whole := join_segmentsFrom separator 0 (Text.join separator front ++ separator :: after)
      have cut := segments_cases separator level (Text.join separator front ++ separator :: after)
      rw [shape] at cut
      rcases cut with same | longer
      next =>
        by_cases last : back = []
        next =>
          -- All pieces together are shorter than the text, so one more segment is open.
          rw [last, List.append_nil, segments] at same
          rw [same, List.self_eq_append_right] at whole
          cases whole
        next => exact depthFrom_join separator level 0 _ front back some last same
      next =>
        rw [List.append_assoc] at longer
        exact depthFrom_join separator level 0 _ front _ some (by simp) longer

end

theorem pieces_lossless (text : List Char) (texts : List (List Char))
    (proper : ∀ piece ∈ texts, IsPiece ',' piece) :
    Cuts ',' text (pieces ',' text) ∧ pieces ',' (Text.join ',' texts) = texts :=
  ⟨cuts_pieces ',' rfl text, pieces_join ',' texts proper⟩

theorem pieces_lossless_unbalanced :
    (∀ piece ∈ ["a)".toList, "id.in.(1,2)".toList], IsPiece ',' piece) ∧
      pieces ',' "a),b(,c),,d,".toList = ["a)".toList, "b(,c)".toList, [], "d".toList] ∧
      Cuts ',' "a),b(,c),,d,".toList (pieces ',' "a),b(,c),,d,".toList) ∧
      pieces ',' (Text.join ',' ["a)".toList, "id.in.(1,2)".toList]) =
        ["a)".toList, "id.in.(1,2)".toList] := by
  have proper : ∀ piece ∈ ["a)".toList, "id.in.(1,2)".toList], IsPiece ',' piece := by
    simp only [List.forall_mem_cons, List.not_mem_nil, false_implies, implies_true, and_true]
    exact ⟨⟨by decide, by decide, by decide⟩, by decide, by decide, by decide⟩
  obtain ⟨cuts, joined⟩ :=
    pieces_lossless "a),b(,c),,d,".toList ["a)".toList, "id.in.(1,2)".toList] proper
  exact ⟨proper, by decide, cuts, joined⟩

end RowGate.Group
