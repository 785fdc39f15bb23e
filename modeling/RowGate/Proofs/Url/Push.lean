import RowGate.Proofs.Text.Percent
import RowGate.Url.Basic

set_option autoImplicit false

namespace RowGate.Url

theorem plainOutside_percent (special : Bool) :
    plainOutside (segmentEscapes special) '%' = false := by
  cases special <;> decide

theorem decode_escape (special : Bool) (text : List Char) :
    Text.Percent.decode (escape (segmentEscapes special) text) = text :=
  Text.Percent.decode_encode _ (plainOutside_percent special) text

theorem escape_injective (special : Bool) {left right : List Char}
    (same : escape (segmentEscapes special) left = escape (segmentEscapes special) right) :
    left = right := by
  rw [← decode_escape special left, same, decode_escape special right]

theorem map_escape_injective (special : Bool) {left right : List (List Char)}
    (same : left.map (escape (segmentEscapes special)) = right.map (escape (segmentEscapes special))) :
    left = right :=
  List.map_injective_iff.2 (fun _ _ => escape_injective special) same

theorem escape_ne_nil (special : Bool) (text : List Char) (nonempty : text ≠ []) :
    escape (segmentEscapes special) text ≠ [] :=
  fun empty => nonempty (escape_injective special empty)

theorem map_escape_filled (special : Bool) (texts : List (List Char))
    (filled : ∀ text ∈ texts, text ≠ []) :
    ∀ part ∈ texts.map (escape (segmentEscapes special)), part ≠ [] := by
  intro part member
  obtain ⟨text, inside, rfl⟩ := List.mem_map.1 member
  exact escape_ne_nil special text (filled text inside)

@[simp] theorem escape_nil (escaped : List Char) : escape escaped [] = [] := rfl

theorem eq_or_upper_of_toLower (c lower : Char) (same : c.toLower = lower) :
    c = lower ∨ 0x41 ≤ c.toNat ∧ c.toNat + 0x20 = lower.toNat := by
  delta Char.toLower at same
  split at same
  next upper =>
    have low : 0x41 ≤ c.toNat := UInt32.le_iff_toNat_le.1 upper.1
    have high : c.toNat ≤ 0x5A := UInt32.le_iff_toNat_le.1 upper.2
    refine .inr ⟨low, ?_⟩
    rw [← same]
    change c.toNat + 0x20 = (c.val + 0x20).toNat
    rw [UInt32.toNat_add]
    change c.toNat + 0x20 = (c.toNat + 0x20) % 2 ^ 32
    omega
  next => exact .inl same

theorem eq_of_toLower (c lower : Char) (small : lower.toNat < 0x61) (same : c.toLower = lower) :
    c = lower := by
  rcases eq_or_upper_of_toLower c lower same with same | ⟨low, above⟩
  next => exact same
  next => omega

theorem spelled_of_isSingleDot (segment : List Char) (dot : isSingleDot segment = true) :
    segment = ['.'] ∨ segment = ['%', '2', 'e'] ∨ segment = ['%', '2', 'E'] := by
  simp only [isSingleDot, List.contains_cons, List.contains_nil, Bool.or_false, Bool.or_eq_true,
    beq_iff_eq] at dot
  rcases dot with coded | plain
  next =>
    obtain ⟨a, b, rfl, first, coded⟩ := List.map_eq_cons_iff.1 coded
    obtain ⟨b, c, rfl, second, coded⟩ := List.map_eq_cons_iff.1 coded
    obtain ⟨c, d, rfl, third, coded⟩ := List.map_eq_cons_iff.1 coded
    obtain rfl := List.map_eq_nil_iff.1 coded
    rw [eq_of_toLower a _ (by decide) first, eq_of_toLower b _ (by decide) second]
    rcases eq_or_upper_of_toLower c _ third with rfl | ⟨_, upper⟩
    next => exact .inr (.inl rfl)
    next =>
      have number : c.toNat + 0x20 = 0x45 + 0x20 := upper
      rw [← Char.ofNat_toNat c, Nat.add_right_cancel number]
      exact .inr (.inr rfl)
  next =>
    obtain ⟨a, b, rfl, first, plain⟩ := List.map_eq_cons_iff.1 plain
    obtain rfl := List.map_eq_nil_iff.1 plain
    rw [eq_of_toLower a _ (by decide) first]
    exact .inl rfl

theorem bytes_of_isSingleDot (segment rest : List Char) (dot : isSingleDot segment = true) :
    Text.Percent.bytes (segment ++ rest) = 0x2E :: Text.Percent.bytes rest := by
  rcases spelled_of_isSingleDot segment dot with rfl | rfl | rfl
  next => exact Text.Percent.bytes_cons '.' rest (by decide)
  next => rfl
  next => rfl

theorem exists_dots_of_isDoubleDot (segment : List Char) (dots : isDoubleDot segment = true) :
    ∃ front back, segment = front ++ back ∧ isSingleDot front = true ∧ isSingleDot back = true := by
  have cut : ∃ front back, segment.map Char.toLower = front ++ back ∧
      front ∈ ["%2e".toList, ['.']] ∧ back ∈ ["%2e".toList, ['.']] := by
    simp only [isDoubleDot, List.contains_cons, List.contains_nil, Bool.or_false, Bool.or_eq_true,
      beq_iff_eq] at dots
    rcases dots with shape | shape | shape | shape
    next => exact ⟨['.'], ['.'], shape, by decide, by decide⟩
    next => exact ⟨['.'], "%2e".toList, shape, by decide, by decide⟩
    next => exact ⟨"%2e".toList, ['.'], shape, by decide, by decide⟩
    next => exact ⟨"%2e".toList, "%2e".toList, shape, by decide, by decide⟩
  obtain ⟨front, back, shape, first, second⟩ := cut
  obtain ⟨front, back, rfl, rfl, rfl⟩ := List.map_eq_append_iff.1 shape
  exact ⟨front, back, rfl, List.contains_iff_mem.2 first, List.contains_iff_mem.2 second⟩

theorem isSingleDot_escape_iff (special : Bool) (text : List Char) :
    isSingleDot (escape (segmentEscapes special) text) = true ↔ text = ['.'] := by
  constructor
  next =>
    intro dot
    have read := bytes_of_isSingleDot _ [] dot
    rw [List.append_nil] at read
    rw [← decode_escape special text, Text.Percent.decode, read]
    rfl
  next =>
    rintro rfl
    cases special <;> decide

theorem isDoubleDot_escape_iff (special : Bool) (text : List Char) :
    isDoubleDot (escape (segmentEscapes special) text) = true ↔ text = ['.', '.'] := by
  constructor
  next =>
    intro dots
    obtain ⟨front, back, shape, first, second⟩ := exists_dots_of_isDoubleDot _ dots
    have read := bytes_of_isSingleDot back [] second
    rw [List.append_nil] at read
    rw [← decode_escape special text, Text.Percent.decode, shape, bytes_of_isSingleDot front back first,
      read]
    rfl
  next =>
    rintro rfl
    cases special <;> decide

def walk (special : Bool) (path : List (List Char)) (text : List Char) : List (List Char) :=
  if text = ['.', '.'] then shorten path ++ [[]]
  else if text = ['.'] then path ++ [[]]
  else path ++ [escape (segmentEscapes special) text]

theorem cutDrive?_eq_none (text : List Char) (absent : ':' ∉ text) : Trail.cutDrive? text = none := by
  unfold Trail.cutDrive?
  split
  next letter rest shape =>
    split
    next more colon =>
      have inside : ':' ∈ rest := (List.dropWhile_sublist _).subset (colon ▸ List.mem_cons_self)
      have within : ':' ∈ text :=
        (List.dropWhile_sublist _).subset (shape ▸ List.mem_cons_of_mem letter inside)
      exact absurd within absent
    next => rfl
  next => rfl

theorem isDrive_eq_false (segment : List Char) (colon : ':' ∉ segment) (bar : '|' ∉ segment) :
    isDrive segment = false := by
  unfold isDrive
  split
  next letter mark =>
    have apart : mark ≠ ':' ∧ mark ≠ '|' :=
      ⟨by rintro rfl; simp at colon, by rintro rfl; simp at bar⟩
    simp [apart]
  next => rfl

theorem not_mem_escape (special : Bool) (text : List Char) (mark : Char)
    (strange : mark ≠ '%' ∧ Text.Percent.isFormPlain mark = false) (absent : mark ∉ text) :
    mark ∉ escape (segmentEscapes special) text := by
  intro member
  rcases Text.Percent.mem_encode _ text mark member with ⟨inside, _⟩ | rfl | plain
  next => exact absent inside
  next => exact strange.1 rfl
  next => simp [strange.2] at plain

theorem withoutBreaks_subset (text : List Char) : withoutBreaks text ⊆ text :=
  List.filter_sublist.subset

-- A drive counts only at the front of the path, and needs a colon or a bar.
theorem Trail.segments_add (scheme : List Char) (special : Bool) (trail : Trail) (text : List Char)
    (driveless : trail.segments = [] → ':' ∉ text ∧ '|' ∉ text) :
    (trail.add scheme (segmentEscapes special) text true).segments =
      walk special trail.segments (withoutBreaks text) := by
  have uncut : (if decide (scheme = file) && decide (trail.segments = []) then cutDrive? text else none) =
      none := by
    split
    next first =>
      have start : trail.segments = [] := by simpa using (Bool.and_eq_true_iff.1 first).2
      exact cutDrive?_eq_none text (driveless start).1
    next => rfl
  have whole : (decide (scheme = file) && decide (trail.segments = []) &&
      isDrive (escape (segmentEscapes special) (withoutBreaks text))) = false := by
    by_cases start : trail.segments = []
    next =>
      have colon : ':' ∉ withoutBreaks text := fun inside =>
        (driveless start).1 (withoutBreaks_subset text inside)
      have bar : '|' ∉ withoutBreaks text := fun inside =>
        (driveless start).2 (withoutBreaks_subset text inside)
      rw [isDrive_eq_false _ (not_mem_escape special _ ':' (by decide) colon)
        (not_mem_escape special _ '|' (by decide) bar), Bool.and_false]
    next => simp [start]
  simp only [Trail.add, uncut, whole, walk, isDoubleDot_escape_iff, isSingleDot_escape_iff]
  split
  next => rfl
  next =>
    split
    next => rfl
    next => rfl

def parts (path : List (List Char)) : List (List Char) :=
  if path = [[]] then [] else path

theorem parts_concat (front : List (List Char)) (last : List Char) (filled : last ≠ []) :
    parts (front ++ [last]) = front ++ [last] := by
  have other : front ++ [last] ≠ [[]] := by
    intro same
    have ends := congrArg List.getLast? same
    rw [List.getLast?_concat] at ends
    exact filled (Option.some.inj ends)
  rw [parts, if_neg other]

theorem settlePath_concat (scheme : List Char) (front : List (List Char)) (last : List Char)
    (filled : ∀ part ∈ front, part ≠ []) : settlePath scheme (front ++ [last]) = front ++ [last] := by
  have settled : withoutLeadingBlanks (front ++ [last]) = front ++ [last] := by
    cases front with
    | nil => cases last <;> rfl
    | cons first rest =>
      cases first with
      | nil => exact absurd rfl (filled [] List.mem_cons_self)
      | cons c more => rfl
  rw [settlePath, settled, ite_self]

theorem shorten_subset (path : List (List Char)) : shorten path ⊆ path := by
  unfold shorten
  split
  next => exact List.Subset.refl path
  next => exact (List.dropLast_sublist path).subset

theorem settlePath_walk (scheme : List Char) (special : Bool) (path : List (List Char))
    (text : List Char) (filled : ∀ part ∈ path, part ≠ []) :
    settlePath scheme (walk special path text) = walk special path text := by
  unfold walk
  split
  next => exact settlePath_concat scheme _ _ fun part member => filled part (shorten_subset path member)
  next =>
    split
    next => exact settlePath_concat scheme path _ filled
    next => exact settlePath_concat scheme path _ filled

theorem segments_push (url : Url) (segment : String) (dots : segment ≠ "." ∧ segment ≠ "..")
    (filled : ∀ part ∈ parts url.segments, part ≠ [])
    (driveless : parts url.segments = [] → ':' ∉ segment.toList ∧ '|' ∉ segment.toList) :
    (url.push segment).segments =
      walk (isSpecial url.scheme) (parts url.segments) (withoutBreaks segment.toList) := by
  rw [push, if_neg (not_or.2 dots)]
  change settlePath url.scheme (Trail.add url.scheme (segmentEscapes (isSpecial url.scheme))
    { segments := parts url.segments } segment.toList true).segments = _
  rw [Trail.segments_add _ _ _ _ driveless, settlePath_walk _ _ _ _ filled]

theorem shorten_concat (path : List (List Char)) (last : List Char) (driveless : isDrive last = false) :
    shorten (path ++ [last]) = path := by
  simp [shorten, driveless]

theorem scheme_push (url : Url) (segment : String) : (url.push segment).scheme = url.scheme := by
  unfold push
  split <;> rfl

-- A text that is a segment as it stands, wherever it is put.
structure IsName (text : List Char) : Prop where
  nonempty : text ≠ []
  solid : ∀ c ∈ text, isBreak c = false ∧ c ≠ '.' ∧ c ≠ ':' ∧ c ≠ '|'

theorem IsName.driveless {text : List Char} (proper : IsName text) : ':' ∉ text ∧ '|' ∉ text :=
  ⟨fun member => (proper.solid ':' member).2.2.1 rfl, fun member => (proper.solid '|' member).2.2.2 rfl⟩

theorem IsName.isDrive_escape {text : List Char} (proper : IsName text) (special : Bool) :
    isDrive (escape (segmentEscapes special) text) = false :=
  isDrive_eq_false _ (not_mem_escape special text ':' (by decide) proper.driveless.1)
    (not_mem_escape special text '|' (by decide) proper.driveless.2)

theorem withoutBreaks_eq_self (text : List Char) (unbroken : ∀ c ∈ text, isBreak c = false) :
    withoutBreaks text = text := by
  refine List.filter_eq_self.2 ?_
  intro c member
  simp [unbroken c member]

theorem segments_push_name (url : Url) (name : String) (proper : IsName name.toList)
    (filled : ∀ part ∈ parts url.segments, part ≠ []) :
    (url.push name).segments =
      parts url.segments ++ [escape (segmentEscapes (isSpecial url.scheme)) name.toList] := by
  have dotless : '.' ∉ name.toList := fun member => (proper.solid '.' member).2.1 rfl
  have dots : name ≠ "." ∧ name ≠ ".." := by
    constructor <;>
      · rintro rfl
        exact dotless (by decide)
  have still : withoutBreaks name.toList = name.toList :=
    withoutBreaks_eq_self _ fun c member => (proper.solid c member).1
  have walks : name.toList ≠ ['.', '.'] ∧ name.toList ≠ ['.'] := by
    constructor <;>
      · intro same
        exact dotless (by simp [same])
  rw [segments_push url name dots filled fun _ => proper.driveless, still, walk, if_neg walks.1, if_neg walks.2]

theorem parts_foldl_push (names : List String) (url : Url) (proper : ∀ name ∈ names, IsName name.toList)
    (filled : ∀ part ∈ parts url.segments, part ≠ []) :
    parts (names.foldl push url).segments = parts url.segments ++
      names.map fun name => escape (segmentEscapes (isSpecial url.scheme)) name.toList := by
  induction names generalizing url with
  | nil => simp
  | cons name rest ih =>
    have here := proper name List.mem_cons_self
    have written := escape_ne_nil (isSpecial url.scheme) name.toList here.nonempty
    have step : parts (url.push name).segments =
        parts url.segments ++ [escape (segmentEscapes (isSpecial url.scheme)) name.toList] := by
      rw [segments_push_name url name here filled, parts_concat _ _ written]
    have more : ∀ part ∈ parts (url.push name).segments, part ≠ [] := by
      intro part member
      rw [step] at member
      rcases List.mem_append.1 member with member | member
      next => exact filled part member
      next => rwa [List.mem_singleton.1 member]
    rw [List.foldl_cons, ih (url.push name) (fun other member => proper other (List.mem_cons_of_mem _ member))
      more, step, scheme_push, List.append_assoc, List.singleton_append, List.map_cons]

theorem scheme_foldl_push (names : List String) (url : Url) :
    (names.foldl push url).scheme = url.scheme := by
  induction names generalizing url with
  | nil => rfl
  | cons name rest ih => rw [List.foldl_cons, ih, scheme_push]

end RowGate.Url
