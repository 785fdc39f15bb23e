import Mathlib.Data.List.TakeWhile
import RowGate.Grammar
import RowGate.Proofs.Text.Pieces

set_option autoImplicit false

namespace RowGate

theorem toNat_of_isIdentifierChar (c : Char) (inside : isIdentifierChar c = true) :
    0x30 ≤ c.toNat ∧ c.toNat ≤ 0x7A := by
  delta isIdentifierChar Char.isAlphanum Char.isAlpha Char.isUpper Char.isLower Char.isDigit at inside
  simp only [Bool.or_eq_true, Bool.and_eq_true, decide_eq_true_eq, ge_iff_le,
    UInt32.le_iff_toNat_le] at inside
  rcases inside with ((⟨low, high⟩ | ⟨low, high⟩) | ⟨low, high⟩) | rfl
  · exact ⟨Nat.le_trans (by decide) low, Nat.le_trans high (by decide)⟩
  · exact ⟨Nat.le_trans (by decide) low, Nat.le_trans high (by decide)⟩
  · exact ⟨Nat.le_trans (by decide) low, Nat.le_trans high (by decide)⟩
  · decide

theorem isBlank_eq_false_of_range (c : Char) (low : 0x21 ≤ c.toNat) (high : c.toNat ≤ 0x7E) :
    Text.isBlank c = false := by
  simp [Text.isBlank]
  omega

theorem isIdentifierChar_of_mem (text : List Char) (valid : isIdentifierText text = true) (c : Char)
    (member : c ∈ text) : isIdentifierChar c = true := by
  simp only [isIdentifierText, Bool.and_eq_true, List.all_eq_true] at valid
  exact valid.2 c member

theorem not_mem_of_isIdentifierText (text : List Char) (valid : isIdentifierText text = true)
    (mark : Char) (special : isIdentifierChar mark = false) : mark ∉ text := by
  intro member
  have inside := isIdentifierChar_of_mem text valid mark member
  simp [special] at inside

theorem ne_nil_of_isIdentifierText (text : List Char) (valid : isIdentifierText text = true) :
    text ≠ [] := by
  rintro rfl
  exact absurd valid (by decide)

theorem isBlank_of_mem_identifier (text : List Char) (valid : isIdentifierText text = true)
    (c : Char) (member : c ∈ text) : Text.isBlank c = false := by
  have range := toNat_of_isIdentifierChar c (isIdentifierChar_of_mem text valid c member)
  exact isBlank_eq_false_of_range c (by omega) (by omega)

theorem trim_identifier (text : List Char) (valid : isIdentifierText text = true) :
    Text.trim text = text :=
  Text.trim_eq_self text (Text.trimmed_of_forall text (isBlank_of_mem_identifier text valid))

theorem Key.ofText_of_dot (text : String) (dotted : '.' ∈ text.toList) :
    Key.ofText text = .filter text := by
  have reserved : ∀ key ∈ Key.reserved, '.' ∉ key.text.toList := by decide
  have unknown : Key.reserved.find? (fun key => decide (key.text = text)) = none := by
    rw [List.find?_eq_none]
    intro key member same
    have equal : key.text = text := by simpa using same
    exact reserved key member (equal ▸ dotted)
  rw [Key.ofText, unknown]

theorem Key.ofText_key (connective : Connective) : Key.ofText connective.key = .group connective := by
  cases connective <;> decide

def withoutParentheses (text : List Char) : List Char :=
  let inside := Text.trim text
  if inside.head? = some '(' ∧ inside.getLast? = some ')' then inside.tail.dropLast else text

theorem unwrapList_eq (text : List Char) : unwrapList text = withoutParentheses text := by
  unfold unwrapList withoutParentheses
  cases Text.trim text with
  | nil => simp
  | cons c inner =>
    by_cases opens : c = '('
    · subst opens
      cases inner with
      | nil => simp
      | cons d more => simp [List.getLast?_cons_cons]
    · split
      · next found =>
        simp only [List.cons.injEq] at found
        exact absurd found.1 opens
      · simp [opens]

theorem trimmed_parentheses (inner : List Char) : Text.Trimmed ('(' :: inner ++ [')']) := by
  constructor
  · intro c head
    cases head
    decide
  · intro c last
    rw [List.getLast?_concat] at last
    cases last
    decide

theorem withoutParentheses_parentheses (inner : List Char) :
    withoutParentheses ('(' :: inner ++ [')']) = inner := by
  have last : ('(' :: inner ++ [')']).getLast? = some ')' := List.getLast?_concat
  simp only [withoutParentheses, Text.trim_eq_self _ (trimmed_parentheses inner), last]
  simp

theorem isBlank_of_isDigit (c : Char) (digit : Decimal.isDigit c = true) :
    Text.isBlank c = false := by
  simp only [Decimal.isDigit, Bool.and_eq_true, decide_eq_true_eq] at digit
  have low : 0x30 ≤ c.toNat := digit.1
  have high : c.toNat ≤ 0x39 := digit.2
  exact isBlank_eq_false_of_range c (by omega) (by omega)

theorem Decimal.span_isDigit (digits rest : List Char)
    (solid : ∀ c ∈ digits, Decimal.isDigit c = true)
    (stops : ∀ c ∈ rest.head?, Decimal.isDigit c = false) :
    (digits ++ rest).takeWhile Decimal.isDigit = digits ∧
      (digits ++ rest).dropWhile Decimal.isDigit = rest := by
  rw [List.takeWhile_append_of_pos solid, List.dropWhile_append_of_pos solid]
  cases rest with
  | nil => simp
  | cons c rest => simp [stops c rfl]

def withoutPlus : List Char → List Char
  | '+' :: rest => rest
  | rest => rest

theorem withoutPlus_eq_self (text : List Char) (unsigned : text.head? ≠ some '+') :
    withoutPlus text = text := by
  unfold withoutPlus
  split
  next => exact absurd rfl unsigned
  next => rfl

theorem exists_sign (text : List Char) :
    ∃ sign, text = sign ++ withoutPlus text ∧
      (sign = ['+'] ∨ sign = [] ∧ (withoutPlus text).head? ≠ some '+') := by
  by_cases signed : text.head? = some '+'
  next =>
    obtain ⟨rest, rfl⟩ := List.head?_eq_some_iff.mp signed
    exact ⟨['+'], rfl, .inl rfl⟩
  next =>
    rw [withoutPlus_eq_self text signed]
    exact ⟨[], rfl, .inr ⟨rfl, signed⟩⟩

/-- The longest run of digits behind blanks and at most one plus sign; what follows is not read. -/
inductive LeadingInteger (text : List Char) : Nat → Prop
  | digits (blanks sign digits rest : List Char)
    (shape : text = blanks ++ (sign ++ (digits ++ rest)))
    (blank : ∀ c ∈ blanks, Text.isBlank c = true)
    (start : ∀ c ∈ (sign ++ (digits ++ rest)).head?, Text.isBlank c = false)
    (signed : sign = ['+'] ∨ sign = [] ∧ (digits ++ rest).head? ≠ some '+')
    (solid : ∀ c ∈ digits, Decimal.isDigit c = true)
    (longest : ∀ c ∈ rest.head?, Decimal.isDigit c = false) :
    LeadingInteger text (min (Decimal.value digits) maxInteger)

theorem coerceInteger_eq (text : List Char) :
    coerceInteger text =
      min (Decimal.value ((withoutPlus (Text.trimStart text)).takeWhile Decimal.isDigit))
        maxInteger := rfl

theorem LeadingInteger.read {text : List Char} {n : Nat} (leads : LeadingInteger text n) :
    coerceInteger text = n := by
  cases leads with
  | digits blanks sign digits rest shape blank start signed solid longest =>
    have front : Text.trimStart text = sign ++ (digits ++ rest) := by
      rw [shape, Text.trimStart, List.dropWhile_append_of_pos blank]
      exact Text.trimStart_eq_self _ start
    have unsigned : withoutPlus (sign ++ (digits ++ rest)) = digits ++ rest := by
      rcases signed with rfl | ⟨rfl, plain⟩
      next => rfl
      next => exact withoutPlus_eq_self _ plain
    rw [coerceInteger_eq, front, unsigned, (Decimal.span_isDigit _ _ solid longest).1]

theorem isBlank_head_digits (digits rest : List Char) (nonempty : digits ≠ [])
    (solid : ∀ c ∈ digits, Decimal.isDigit c = true) :
    ∀ c ∈ (digits ++ rest).head?, Text.isBlank c = false ∧ c ≠ '+' := by
  obtain ⟨first, more, rfl⟩ := List.exists_cons_of_ne_nil nonempty
  rintro c ⟨⟩
  have digit := solid first List.mem_cons_self
  refine ⟨isBlank_of_isDigit first digit, ?_⟩
  rintro rfl
  cases digit

theorem leadingInteger_of_trim (text digits : List Char) (nonempty : digits ≠ [])
    (solid : ∀ c ∈ digits, Decimal.isDigit c = true) (run : withoutPlus (Text.trim text) = digits) :
    LeadingInteger text (min (Decimal.value digits) maxInteger) := by
  obtain ⟨before, after, shape, blank⟩ := Text.exists_append_trim text
  obtain ⟨blankBefore, blankAfter⟩ := List.forall_mem_append.mp blank
  obtain ⟨sign, signShape, signed⟩ := exists_sign (Text.trim text)
  rw [run] at signShape signed
  have first := isBlank_head_digits digits after nonempty solid
  rw [signShape] at shape
  refine .digits before sign digits after (by rw [shape]; simp) blankBefore ?_ ?_ solid ?_
  next =>
    rcases signed with rfl | ⟨rfl, -⟩
    next =>
      rintro c ⟨⟩
      decide
    next => exact fun c head => (first c head).1
  next =>
    exact signed.imp_right fun ⟨unsigned, _⟩ => ⟨unsigned, fun head => (first '+' head).2 rfl⟩
  next =>
    intro c head
    have spaced := blankAfter c (List.mem_of_mem_head? head)
    cases digit : Decimal.isDigit c with
    | false => rfl
    | true => rw [isBlank_of_isDigit c digit] at spaced; cases spaced

theorem coerceInteger_of_integer? (text : List Char) (n : Nat) (read : integer? text = some n) :
    coerceInteger text = n := by
  change (if withoutPlus (Text.trim text) = [] ∨ (withoutPlus (Text.trim text)).any
      (!Decimal.isDigit ·) then none
    else if Decimal.value (withoutPlus (Text.trim text)) ≤ maxInteger then
      some (Decimal.value (withoutPlus (Text.trim text))) else none) = some n at read
  split at read
  next => cases read
  next proper =>
    rw [not_or] at proper
    have solid : ∀ c ∈ withoutPlus (Text.trim text), Decimal.isDigit c = true := by
      simpa using proper.2
    rw [(leadingInteger_of_trim text _ proper.1 solid rfl).read]
    split at read
    next small =>
      cases read
      exact Nat.min_eq_left small
    next => cases read

theorem coerceInteger_write (n : Nat) (bound : n ≤ maxInteger) :
    coerceInteger (Decimal.write n) = n := by
  have digits := Decimal.isDigit_of_mem_write n
  have first := isBlank_head_digits _ [] (Decimal.write_ne_nil n) digits
  have leads : LeadingInteger (Decimal.write n) (min (Decimal.value (Decimal.write n)) maxInteger) :=
    .digits [] [] (Decimal.write n) [] (by simp) (by simp) (fun c head => (first c head).1)
      (.inr ⟨rfl, fun head => (first '+' head).2 rfl⟩) digits (by simp)
  rw [leads.read, Decimal.value_write, Nat.min_eq_left bound]

theorem coerceInteger_integerText (n : Int) (bound : n ≤ maxInteger) :
    coerceInteger (Decimal.integerText n).toList = n.toNat := by
  by_cases negative : n < 0
  · have sign : (Decimal.integerText n).toList = '-' :: Decimal.write n.natAbs := by
      simp [Decimal.integerText, negative, Decimal.text]
    rw [sign, Int.toNat_of_nonpos (by omega)]
    rfl
  · have plain : (Decimal.integerText n).toList = Decimal.write n.natAbs := by
      simp [Decimal.integerText, negative, Decimal.text]
    rw [plain, coerceInteger_write _ (by omega)]
    omega

end RowGate
