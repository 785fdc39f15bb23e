import RowGate.Proofs.Grammar
import RowGate.Query.Parse

set_option autoImplicit false

namespace RowGate.Group

def depthFrom (depth : Nat) (text : List Char) : Nat :=
  text.foldl depthAfter depth

@[simp] theorem depthFrom_nil (depth : Nat) : depthFrom depth [] = depth := rfl

@[simp] theorem depthFrom_cons (depth : Nat) (c : Char) (rest : List Char) :
    depthFrom depth (c :: rest) = depthFrom (depthAfter depth c) rest := rfl

theorem depthFrom_append (depth : Nat) (front back : List Char) :
    depthFrom depth (front ++ back) = depthFrom (depthFrom depth front) back :=
  List.foldl_append

theorem depthFrom_of_plain (depth : Nat) (text : List Char) (opens : '(' ∉ text)
    (closes : ')' ∉ text) : depthFrom depth text = depth := by
  induction text with
  | nil => rfl
  | cons c rest ih =>
    simp only [List.mem_cons, not_or] at opens closes
    have level : depthAfter depth c = depth := by
      rw [depthAfter, if_neg (Ne.symm opens.1), if_neg (Ne.symm closes.1)]
    rw [depthFrom_cons, level, ih opens.2 closes.2]

-- No separator of the text stands at depth zero.
def Whole (separator : Char) (depth : Nat) (text : List Char) : Prop :=
  ∀ before after, text = before ++ separator :: after → depthFrom depth before ≠ 0

theorem Whole.tail (separator : Char) (depth : Nat) (c : Char) (rest : List Char)
    (whole : Whole separator depth (c :: rest)) : Whole separator (depthAfter depth c) rest := by
  intro before after shape
  exact whole (c :: before) after (by rw [shape, List.cons_append])

def isWhole (separator : Char) : Nat → List Char → Bool
  | _, [] => true
  | depth, c :: rest =>
    !(decide (c = separator) && decide (depth = 0)) && isWhole separator (depthAfter depth c) rest

theorem isWhole_iff (separator : Char) (depth : Nat) (text : List Char) :
    isWhole separator depth text = true ↔ Whole separator depth text := by
  induction text generalizing depth with
  | nil => simp [isWhole, Whole]
  | cons c rest ih =>
    rw [isWhole, Bool.and_eq_true, ih]
    constructor
    · rintro ⟨inside, further⟩ before after shape
      cases before with
      | nil =>
        cases shape
        simpa using inside
      | cons d before =>
        simp only [List.cons_append, List.cons.injEq] at shape
        obtain ⟨rfl, shape⟩ := shape
        exact further before after shape
    · intro whole
      refine ⟨?_, whole.tail separator depth c rest⟩
      by_cases same : c = separator
      · have level : depth ≠ 0 := whole [] rest (by rw [same, List.nil_append])
        simp [level]
      · simp [same]

instance (separator : Char) (depth : Nat) (text : List Char) :
    Decidable (Whole separator depth text) :=
  decidable_of_iff _ (isWhole_iff separator depth text)

theorem whole_append (separator : Char) (depth : Nat) (front back : List Char)
    (absent : separator ∉ front) (whole : Whole separator (depthFrom depth front) back) :
    Whole separator depth (front ++ back) := by
  intro before after shape
  rcases List.append_eq_append_iff.1 shape with ⟨more, rfl, rest⟩ | ⟨more, rfl, rest⟩
  · rw [depthFrom_append]
    exact whole more after rest
  · cases more with
    | nil =>
      have atStart := whole [] after (by simpa using rest.symm)
      simpa using atStart
    | cons d more =>
      simp only [List.cons_append, List.cons.injEq] at rest
      exact absurd (by simp [rest.1]) absent

-- The open piece takes up a text that has no separator at depth zero.
theorem piecesFrom_append (separator : Char) (depth : Nat) (current text rest : List Char)
    (whole : Whole separator depth text) :
    piecesFrom separator depth current (text ++ rest) =
      piecesFrom separator (depthFrom depth text) (text.reverse ++ current) rest := by
  induction text generalizing depth current with
  | nil => rfl
  | cons c text ih =>
    have inside : ¬(c = separator ∧ depth = 0) := by
      rintro ⟨rfl, bottom⟩
      exact whole [] text rfl bottom
    rw [List.cons_append, piecesFrom, if_neg inside, ih _ _ (whole.tail separator depth c text)]
    simp

structure IsPiece (separator : Char) (text : List Char) : Prop where
  nonempty : text ≠ []
  whole : Whole separator 0 text
  balanced : depthFrom 0 text = 0

theorem pieces_eq_singleton (separator : Char) (text : List Char) (proper : IsPiece separator text) :
    pieces separator text = [text] := by
  have taken := piecesFrom_append separator 0 [] text [] proper.whole
  rw [List.append_nil, List.append_nil] at taken
  rw [pieces, taken, piecesFrom, if_neg (by simpa using proper.nonempty), List.reverse_reverse]

theorem pieces_cons (separator : Char) (text rest : List Char) (proper : IsPiece separator text) :
    pieces separator (text ++ separator :: rest) = text :: pieces separator rest := by
  rw [pieces, piecesFrom_append separator 0 [] text _ proper.whole, proper.balanced, piecesFrom,
    if_pos ⟨rfl, rfl⟩, List.append_nil, List.reverse_reverse]
  rfl

theorem pieces_join (separator : Char) (texts : List (List Char))
    (proper : ∀ text ∈ texts, IsPiece separator text) :
    pieces separator (Text.join separator texts) = texts := by
  induction texts with
  | nil => rfl
  | cons text rest ih =>
    have first := proper text List.mem_cons_self
    cases rest with
    | nil => exact pieces_eq_singleton separator text first
    | cons next more =>
      have others := ih fun other member => proper other (List.mem_cons_of_mem _ member)
      rw [Text.join, pieces_cons separator text _ first, others]

def levels (depth : Nat) : List Char → List Nat
  | [] => []
  | c :: rest => depth :: levels (depthAfter depth c) rest

-- What stands between the separators at depth zero, a text being entered at a depth.
def segmentsFrom (separator : Char) (depth : Nat) (text : List Char) : List (List Char) :=
  ((text.zip (levels depth text)).splitOnP (· == (separator, 0))).map (·.map Prod.fst)

def segments (separator : Char) (text : List Char) : List (List Char) :=
  segmentsFrom separator 0 text

theorem segmentsFrom_cons (separator : Char) (depth : Nat) (c : Char) (rest : List Char) :
    segmentsFrom separator depth (c :: rest) =
      if c = separator ∧ depth = 0 then [] :: segmentsFrom separator (depthAfter depth c) rest
      else (segmentsFrom separator (depthAfter depth c) rest).modifyHead (c :: ·) := by
  rw [segmentsFrom, levels, List.zip_cons_cons, List.splitOnP_cons_eq_if_modifyHead]
  by_cases cut : c = separator ∧ depth = 0
  · rw [if_pos (by simpa using cut), if_pos cut]
    rfl
  · rw [if_neg (by simpa using cut), if_neg cut, segmentsFrom]
    generalize ((rest.zip (levels (depthAfter depth c) rest)).splitOnP (· == (separator, 0))) = parts
    cases parts <;> rfl

theorem segmentsFrom_ne_nil (separator : Char) (depth : Nat) (text : List Char) :
    segmentsFrom separator depth text ≠ [] := by
  rw [segmentsFrom, ne_eq, List.map_eq_nil_iff]
  exact List.splitOnP_ne_nil _ _

-- The texts without an empty one at the end.
def withoutEmptyEnd (texts : List (List Char)) : List (List Char) :=
  if texts.getLast? = some [] then texts.dropLast else texts

theorem withoutEmptyEnd_cons (text : List Char) (texts : List (List Char)) (some : texts ≠ []) :
    withoutEmptyEnd (text :: texts) = text :: withoutEmptyEnd texts := by
  rw [withoutEmptyEnd, withoutEmptyEnd, List.getLast?_cons_of_ne_nil some,
    List.dropLast_cons_of_ne_nil some]
  split <;> rfl

theorem filter_withoutEmptyEnd (test : List Char → Bool) (empty : test [] = false)
    (texts : List (List Char)) : (withoutEmptyEnd texts).filter test = texts.filter test := by
  unfold withoutEmptyEnd
  split
  next ends =>
    obtain ⟨front, rfl⟩ := List.getLast?_eq_some_iff.mp ends
    simp [empty]
  next => rfl

-- The induction is on the text; the open piece stands in front of its first segment.
theorem piecesFrom_eq (separator : Char) (level : depthAfter 0 separator = 0) (depth : Nat)
    (current text : List Char) :
    piecesFrom separator depth current text =
      withoutEmptyEnd ((segmentsFrom separator depth text).modifyHead (current.reverse ++ ·)) := by
  induction text generalizing depth current with
  | nil =>
    by_cases start : current = [] <;>
      simp [piecesFrom, segmentsFrom, levels, withoutEmptyEnd, start]
  | cons c rest ih =>
    have filled := segmentsFrom_ne_nil separator (depthAfter depth c) rest
    rw [piecesFrom, segmentsFrom_cons]
    split
    next cut =>
      obtain ⟨rfl, rfl⟩ := cut
      rw [level] at filled ⊢
      rw [ih, List.modifyHead_cons, List.append_nil, withoutEmptyEnd_cons _ _ filled]
      congr 2
      cases segmentsFrom c 0 rest <;> rfl
    next =>
      rw [ih, List.modifyHead_modifyHead]
      congr 2
      funext piece
      simp

theorem pieces_eq_segments (separator : Char) (level : depthAfter 0 separator = 0)
    (text : List Char) : pieces separator text = withoutEmptyEnd (segments separator text) := by
  rw [pieces, piecesFrom_eq separator level, segments]
  cases segmentsFrom separator 0 text <;> rfl

theorem segmentsFrom_of_not_mem (separator : Char) (depth : Nat) (text : List Char)
    (absent : separator ∉ text) : segmentsFrom separator depth text = [text] := by
  induction text generalizing depth with
  | nil => rfl
  | cons c rest ih =>
    simp only [List.mem_cons, not_or] at absent
    rw [segmentsFrom_cons, if_neg fun cut => absent.1 cut.1.symm, ih _ absent.2]
    rfl

-- A text without separator that is put behind another one extends its last segment.
theorem segmentsFrom_append (separator : Char) (depth : Nat) (text more : List Char)
    (absent : separator ∉ more) :
    ∃ front last, segmentsFrom separator depth text = front ++ [last] ∧
      segmentsFrom separator depth (text ++ more) = front ++ [last ++ more] := by
  induction text generalizing depth with
  | nil => exact ⟨[], [], rfl, segmentsFrom_of_not_mem separator depth more absent⟩
  | cons c rest ih =>
    obtain ⟨front, last, alone, extended⟩ := ih (depthAfter depth c)
    rw [List.cons_append, segmentsFrom_cons, segmentsFrom_cons, alone, extended]
    split
    · exact ⟨[] :: front, last, rfl, rfl⟩
    · cases front with
      | nil => exact ⟨[], c :: last, rfl, rfl⟩
      | cons first others => exact ⟨(c :: first) :: others, last, rfl, rfl⟩

theorem depthAfter_mono (shallow deep : Nat) (c : Char) (le : shallow ≤ deep) :
    depthAfter shallow c ≤ depthAfter deep c := by
  unfold depthAfter
  split
  · omega
  · split <;> omega

-- Read from less deep, a text is cut further up to its first separator at depth zero, and no
-- differently behind it.
theorem segmentsFrom_shallower (separator : Char) (shallow deep : Nat) (le : shallow ≤ deep)
    (text first : List Char) (rest : List (List Char))
    (cut : segmentsFrom separator deep text = first :: rest) :
    segmentsFrom separator shallow text = segmentsFrom separator shallow first ++ rest := by
  induction text generalizing shallow deep first with
  | nil =>
    cases cut
    rfl
  | cons c text ih =>
    have further := ih (depthAfter shallow c) (depthAfter deep c) (depthAfter_mono shallow deep c le)
    rw [segmentsFrom_cons] at cut
    split at cut
    next bottom =>
      obtain ⟨rfl, rfl⟩ := bottom
      obtain rfl : shallow = 0 := Nat.le_zero.mp le
      cases cut
      rw [segmentsFrom_cons, if_pos ⟨rfl, rfl⟩]
      rfl
    next =>
      cases inner : segmentsFrom separator (depthAfter deep c) text with
      | nil => exact absurd inner (segmentsFrom_ne_nil _ _ _)
      | cons piece others =>
        rw [inner] at cut
        cases cut
        rw [segmentsFrom_cons, segmentsFrom_cons, further piece inner]
        split
        · rfl
        · cases parts : segmentsFrom separator (depthAfter shallow c) piece with
          | nil => exact absurd parts (segmentsFrom_ne_nil _ _ _)
          | cons _ _ => rfl

end RowGate.Group

namespace RowGate.Query

theorem value?_clauseFragment (column : List Char) (operator : Operator) (value : List Char)
    (valid : isIdentifierText column = true) :
    (clauseFragment column operator value).value? =
      some ⟨.ofList column, operator, some (.ofList (clauseValue operator value))⟩ := by
  rw [clauseFragment, if_pos valid]
  dsimp only
  split <;> rfl

theorem isPiece_condition (column word value : List Char) (valid : isIdentifierText column = true)
    (bare : ∀ mark ∈ ['(', ')', ','], mark ∉ word) (whole : Group.Whole ',' 0 value)
    (balanced : Group.depthFrom 0 value = 0) :
    Group.IsPiece ',' (column ++ '.' :: (word ++ '.' :: value)) := by
  have front (mark : Char) (special : mark ∈ ['(', ')', ',']) : mark ∉ column ++ '.' :: word ++ ['.'] := by
    have other : isIdentifierChar mark = false ∧ mark ≠ '.' := by
      simp only [List.mem_cons, List.not_mem_nil, or_false] at special
      rcases special with rfl | rfl | rfl <;> decide
    have outside := not_mem_of_isIdentifierText column valid mark other.1
    simp [outside, bare mark special, other.2]
  have level := Group.depthFrom_of_plain 0 _ (front '(' (by decide)) (front ')' (by decide))
  have shape : column ++ '.' :: (word ++ '.' :: value) = (column ++ '.' :: word ++ ['.']) ++ value := by
    simp
  rw [shape]
  refine ⟨by simp, ?_, ?_⟩
  · apply Group.whole_append ',' 0 _ _ (front ',' (by decide))
    rw [level]
    exact whole
  · rw [Group.depthFrom_append, level, balanced]

theorem trimmed_condition (column word value : List Char) (valid : isIdentifierText column = true)
    (ends : ∀ c ∈ value.getLast?, Text.isBlank c = false) :
    Text.Trimmed (column ++ '.' :: (word ++ '.' :: value)) := by
  constructor
  · intro c head
    cases column with
    | nil => exact absurd rfl (ne_nil_of_isIdentifierText _ valid)
    | cons first rest =>
      cases head
      exact isBlank_of_mem_identifier _ valid _ List.mem_cons_self
  · intro c last
    have shape : column ++ '.' :: (word ++ '.' :: value) = (column ++ '.' :: word) ++ '.' :: value := by
      simp
    rw [shape, List.getLast?_append_of_ne_nil _ (by simp)] at last
    cases value with
    | nil =>
      cases last
      decide
    | cons d more =>
      rw [List.getLast?_cons_cons] at last
      exact ends c last

theorem groupTokens_join (texts : List (List Char))
    (proper : ∀ text ∈ texts, Group.IsPiece ',' text) (trimmed : ∀ text ∈ texts, Text.Trimmed text) :
    groupTokens ('(' :: Text.join ',' texts ++ [')']) = texts := by
  have inner : dropClosing (dropOpening (Text.trim ('(' :: Text.join ',' texts ++ [')']))) =
      Text.join ',' texts := by
    rw [Text.trim_eq_self _ (trimmed_parentheses _)]
    simp [dropOpening, dropClosing]
  have trims : texts.map Text.trim = texts.map id :=
    List.map_congr_left fun text member => Text.trim_eq_self text (trimmed text member)
  rw [groupTokens, inner, Group.pieces_join ',' texts proper, trims, List.map_id, List.filter_eq_self]
  intro text member
  simpa using (proper text member).nonempty

end RowGate.Query
