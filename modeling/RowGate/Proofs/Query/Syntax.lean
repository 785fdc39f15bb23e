import RowGate.Proofs.Grammar
import RowGate.Query.Parse

set_option autoImplicit false

namespace RowGate

def Operator.Spells (operator : Operator) (word : List Char) : Prop :=
  ∃ spelling ∈ operator.spellings, lowerAscii word = spelling.toList

namespace Query

inductive OrderToken : List Char → Order → Prop
  | plain (name : List Char) (valid : isIdentifierText name = true) :
    OrderToken name ⟨.ofList name, .asc⟩
  | directed (name word : List Char) (direction : Direction) (valid : isIdentifierText name = true)
    (spelled : lowerAscii word = direction.token.toList) :
    OrderToken (name ++ '.' :: word) ⟨.ofList name, direction⟩

structure ClauseParts (column : List Char) (operator : Operator) (value : List Char)
    (clause : Clause) : Prop where
  valid : isIdentifierText column = true
  known : operator = .is → lowerAscii (Text.trim value) = "null".toList ∨
    lowerAscii (Text.trim value) = "not.null".toList
  clause_eq : clause = ⟨.ofList column, operator, some (.ofList (clauseValue operator value))⟩

inductive FilterPair : List Char → List Char → Clause → Prop
  | bare (column value : List Char) (clause : Clause) (parts : ClauseParts column .eq value clause) :
    FilterPair column value clause
  | operated (column word value : List Char) (operator : Operator) (clause : Clause)
    (spelled : operator.Spells word) (parts : ClauseParts column operator value clause) :
    FilterPair (column ++ '.' :: word) value clause

inductive GroupToken : List Char → Clause → Prop
  | condition (column word value : List Char) (operator : Operator) (clause : Clause)
    (spelled : operator.Spells word) (parts : ClauseParts column operator value clause) :
    GroupToken (column ++ '.' :: (word ++ '.' :: value)) clause

inductive JoinToken (kind : JoinKind) : List Char → Join → Prop
  | keys (table left right : List Char) (validTable : isIdentifierText (Text.trim table) = true)
    (validLeft : isIdentifierText (Text.trim left) = true)
    (validRight : isIdentifierText (Text.trim right) = true) :
    JoinToken kind (table ++ ':' :: (left ++ '=' :: right))
      ⟨kind, .ofList (Text.trim table), .ofList (Text.trim left), .ofList (Text.trim right)⟩

inductive IntegerText (value : List Char) : Nat → Prop
  | digits (digits : List Char) (nonempty : digits ≠ [])
    (solid : ∀ c ∈ digits, Decimal.isDigit c = true) (bound : Decimal.value digits ≤ maxInteger)
    (shape : Text.trim value = digits ∨ Text.trim value = '+' :: digits) :
    IntegerText value (Decimal.value digits)

end Query

theorem Text.mem_of_mem_trim (text : List Char) (c : Char) (solid : Text.isBlank c = false)
    (member : c ∈ text) : c ∈ Text.trim text := by
  have start : c ∈ Text.trimStart text := by
    have whole : text.takeWhile Text.isBlank ++ Text.trimStart text = text :=
      List.takeWhile_append_dropWhile
    rw [← whole] at member
    rcases List.mem_append.mp member with blank | rest
    · have all : (text.takeWhile Text.isBlank).all Text.isBlank = true := List.all_takeWhile
      exact absurd (List.all_eq_true.mp all c blank) (by simp [solid])
    · exact rest
  obtain ⟨blanks, shape, all⟩ := Text.exists_append_trimEnd (Text.trimStart text)
  rw [shape] at start
  rcases List.mem_append.mp start with kept | blank
  · exact kept
  · exact absurd (all c blank) (by simp [solid])

theorem not_mem_of_isIdentifierText_trim (text : List Char)
    (valid : isIdentifierText (Text.trim text) = true) (mark : Char)
    (special : isIdentifierChar mark = false) (solid : Text.isBlank mark = false) : mark ∉ text :=
  fun member => not_mem_of_isIdentifierText _ valid mark special
    (Text.mem_of_mem_trim text mark solid member)

theorem Direction.ofText?_eq_some_iff (word : List Char) (direction : Direction) :
    Direction.ofText? word = some direction ↔ lowerAscii word = direction.token.toList := by
  constructor
  next =>
    intro read
    rw [Direction.ofText?] at read
    split at read
    next ascending => cases read; exact ascending
    next =>
      split at read
      next descending => cases read; exact descending
      next => cases read
  next =>
    intro spelled
    rw [Direction.ofText?, spelled]
    cases direction <;> decide

theorem Operator.ofText?_eq_some_iff (word : List Char) (operator : Operator) :
    Operator.ofText? word = some operator ↔ operator.Spells word := by
  constructor
  next =>
    intro read
    have found := List.find?_some read
    obtain ⟨spelling, member, same⟩ := List.any_eq_true.mp found
    exact ⟨spelling, member, (of_decide_eq_true same).symm⟩
  next =>
    rintro ⟨spelling, member, same⟩
    rw [Operator.ofText?, same]
    have finite : ∀ spelling ∈ operator.spellings, Operator.all.find? (fun operator =>
        operator.spellings.any fun known => known.toList = spelling.toList) = some operator := by
      cases operator <;> decide
    exact finite spelling member

-- Only `not.in` has a dot, and only it is taken for two words in a group.
theorem Operator.Spells.cases {operator : Operator} {word : List Char}
    (spelled : operator.Spells word) :
    lowerAscii word = "not.in".toList ∨
      '.' ∉ word ∧ ∀ value, lowerAscii ((word ++ '.' :: value).take 4) ≠ Group.negation := by
  obtain ⟨spelling, member, same⟩ := spelled
  have finite : ∀ spelling ∈ operator.spellings, spelling = "not.in" ∨
      '.' ∉ spelling.toList ∧
        ∀ tail, (spelling.toList ++ '.' :: tail).take 4 ≠ Group.negation := by
    cases operator <;> simp [Operator.spellings, Operator.token, Group.negation]
  rcases finite spelling member with rfl | ⟨dotless, positive⟩
  · exact .inl same
  · rw [← same] at dotless positive
    refine .inr ⟨fun member => dotless (List.mem_map_of_mem member), fun value => ?_⟩
    have lowered := positive (lowerAscii value)
    rwa [lowerAscii, List.map_take, List.map_append]

namespace Query

theorem orderFragment_eq_wellFormed_iff (token : List Char) (order : Order) :
    orderFragment token = .wellFormed order ↔ OrderToken token order := by
  constructor
  next =>
    intro read
    cases found : Text.cut? '.' token with
    | none =>
      simp only [orderFragment, found, Option.map_none] at read
      split at read
      next valid => cases read; exact .plain token valid
      next => cases read
    | some parts =>
      obtain ⟨name, word⟩ := parts
      obtain ⟨rfl, -⟩ := (Text.cut?_eq_some_iff '.' token name word).mp found
      simp only [orderFragment, found, Option.map_some] at read
      split at read
      next valid =>
        cases direction : Direction.ofText? word with
        | none => simp [direction] at read
        | some direction' =>
          simp only [direction, Fragment.wellFormed.injEq] at read
          subst read
          exact .directed name word direction' valid
            ((Direction.ofText?_eq_some_iff word direction').mp direction)
      next => cases read
  next =>
    intro written
    cases written with
    | plain _ valid =>
      have dotless := not_mem_of_isIdentifierText token valid '.' (by decide)
      have uncut : Text.cut? '.' token = none := (Text.cut?_eq_none_iff '.' token).mpr dotless
      simp [orderFragment, uncut, valid]
    | directed name word direction valid spelled =>
      have dotless := not_mem_of_isIdentifierText name valid '.' (by decide)
      have read := (Direction.ofText?_eq_some_iff word direction).mpr spelled
      simp [orderFragment, Text.cut?_append '.' name word dotless, valid, read]

theorem isSome_ofClause?_iff (column value : String) (operator : Operator) :
    (Predicate.ofClause? ⟨column, operator, some value⟩).isSome = true ↔
      (operator = .is → lowerAscii (Text.trim value.toList) = "null".toList ∨
        lowerAscii (Text.trim value.toList) = "not.null".toList) := by
  cases operator with
  | is =>
    simp only [Predicate.ofClause?]
    split
    next null => simp [null]
    next other =>
      split
      next filled => simp [filled]
      next neither =>
        exact iff_of_false (by simp) (by simpa using ⟨other, neither⟩)
  | _ => simp [Predicate.ofClause?]

theorem clauseFragment_eq_wellFormed_iff (column : List Char) (operator : Operator)
    (value : List Char) (clause : Clause) :
    clauseFragment column operator value = .wellFormed clause ↔
      ClauseParts column operator value clause := by
  have meaningful := isSome_ofClause?_iff (.ofList column) (.ofList (clauseValue operator value)) operator
  have kept : operator = .is → clauseValue operator value = value := by
    rintro rfl
    rfl
  rw [String.toList_ofList] at meaningful
  constructor
  next =>
    intro read
    rw [clauseFragment] at read
    split at read
    next valid =>
      dsimp only at read
      split at read
      next some =>
        cases read
        exact ⟨valid, fun is => kept is ▸ meaningful.mp some is, rfl⟩
      next => cases read
    next => cases read
  next =>
    rintro ⟨valid, known, rfl⟩
    have some := meaningful.mpr fun is => (kept is).symm ▸ known is
    rw [clauseFragment, if_pos valid]
    dsimp only
    rw [if_pos some]

theorem filterFragment_of_spells (column word value : List Char) (operator : Operator)
    (dotless : '.' ∉ column) (spelled : operator.Spells word) :
    filterFragment (column ++ '.' :: word) value = clauseFragment column operator value := by
  have read := (Operator.ofText?_eq_some_iff word operator).mpr spelled
  rw [filterFragment, Text.cut?_append '.' column word dotless]
  simp only [read]

theorem filterFragment_eq_wellFormed_iff (key value : List Char) (clause : Clause) :
    filterFragment key value = .wellFormed clause ↔ FilterPair key value clause := by
  constructor
  next =>
    intro read
    cases found : Text.cut? '.' key with
    | none =>
      simp only [filterFragment, found] at read
      exact .bare key value clause ((clauseFragment_eq_wellFormed_iff _ _ _ _).mp read)
    | some parts =>
      obtain ⟨column, word⟩ := parts
      obtain ⟨rfl, -⟩ := (Text.cut?_eq_some_iff '.' key column word).mp found
      cases operator : Operator.ofText? word with
      | none => simp [filterFragment, found, operator] at read
      | some operator' =>
        simp only [filterFragment, found, operator] at read
        exact .operated column word value operator' clause
          ((Operator.ofText?_eq_some_iff word operator').mp operator)
          ((clauseFragment_eq_wellFormed_iff _ _ _ _).mp read)
  next =>
    intro pair
    cases pair with
    | bare _ _ _ parts =>
      have dotless := not_mem_of_isIdentifierText key parts.valid '.' (by decide)
      rw [filterFragment, (Text.cut?_eq_none_iff '.' key).mpr dotless]
      exact (clauseFragment_eq_wellFormed_iff _ _ _ _).mpr parts
    | operated column word _ operator _ spelled parts =>
      have dotless := not_mem_of_isIdentifierText column parts.valid '.' (by decide)
      rw [filterFragment_of_spells column word value operator dotless spelled]
      exact (clauseFragment_eq_wellFormed_iff _ _ _ _).mpr parts

theorem lowerAscii_append (front back : List Char) :
    lowerAscii (front ++ back) = lowerAscii front ++ lowerAscii back :=
  List.map_append

theorem spells_congr (operator : Operator) (first second : List Char)
    (same : lowerAscii first = lowerAscii second) :
    operator.Spells first ↔ operator.Spells second := by
  rw [Operator.Spells, Operator.Spells, same]

theorem shape_of_parts? (token : List Char) (parts : Group.Parts)
    (found : Group.parts? token = some parts) :
    ∃ word, token = parts.column ++ '.' :: (word ++ '.' :: parts.value) ∧
      lowerAscii word = lowerAscii parts.operator := by
  simp only [Group.parts?, Option.bind_eq_bind, Option.bind_eq_some_iff, Prod.exists] at found
  obtain ⟨column, rest, first, found⟩ := found
  obtain ⟨rfl, -⟩ := (Text.cut?_eq_some_iff '.' token column rest).mp first
  split at found
  next negated =>
    simp only [Option.bind_eq_some_iff, Prod.exists] at found
    obtain ⟨word, value, second, made⟩ := found
    obtain ⟨shape, -⟩ := (Text.cut?_eq_some_iff '.' _ word value).mp second
    cases made
    refine ⟨rest.take 4 ++ word, ?_, ?_⟩
    · rw [List.append_assoc, ← shape, List.take_append_drop]
    · rw [lowerAscii_append, lowerAscii_append]
      exact congrArg (· ++ lowerAscii word) negated
  next =>
    simp only [Option.bind_eq_some_iff, Prod.exists] at found
    obtain ⟨word, value, second, made⟩ := found
    obtain ⟨rfl, -⟩ := (Text.cut?_eq_some_iff '.' rest word value).mp second
    cases made
    exact ⟨word, rfl, rfl⟩

theorem parts?_of_negation (column word value : List Char) (dotless : '.' ∉ column)
    (spelled : lowerAscii word = "not.in".toList) :
    Group.parts? (column ++ '.' :: (word ++ '.' :: value)) =
      some ⟨column, Group.negation ++ word.drop 4, value⟩ := by
  have long : 4 ≤ word.length := by
    have length := congrArg List.length spelled
    rw [lowerAscii, List.length_map] at length
    exact length ▸ by decide
  have opening : lowerAscii (word.take 4) = Group.negation := by
    rw [lowerAscii, List.map_take]
    exact congrArg (List.take 4) spelled
  have last : '.' ∉ word.drop 4 := by
    intro member
    have lowered : Char.toLower '.' ∈ lowerAscii (word.drop 4) := List.mem_map_of_mem member
    rw [lowerAscii, List.map_drop] at lowered
    change _ ∈ (lowerAscii word).drop 4 at lowered
    rw [spelled] at lowered
    exact absurd lowered (by decide)
  have split : (word ++ '.' :: value).take 4 = word.take 4 ∧
      (word ++ '.' :: value).drop 4 = word.drop 4 ++ '.' :: value :=
    ⟨List.take_append_of_le_length long, List.drop_append_of_le_length long⟩
  rw [Group.parts?, Text.cut?_append '.' column _ dotless]
  simp only [Option.bind_eq_bind, Option.bind_some, split]
  rw [if_pos (by exact opening), Text.cut?_append '.' _ value last]
  rfl

theorem parts?_of_word (column word value : List Char) (dotless : '.' ∉ column)
    (single : '.' ∉ word)
    (positive : lowerAscii ((word ++ '.' :: value).take 4) ≠ Group.negation) :
    Group.parts? (column ++ '.' :: (word ++ '.' :: value)) = some ⟨column, word, value⟩ := by
  rw [Group.parts?, Text.cut?_append '.' column _ dotless]
  simp only [Option.bind_eq_bind, Option.bind_some]
  rw [if_neg (by exact positive), Text.cut?_append '.' word value single]
  rfl

theorem groupFragment_of_spells (column word value : List Char) (operator : Operator)
    (dotless : '.' ∉ column) (spelled : operator.Spells word) :
    groupFragment (column ++ '.' :: (word ++ '.' :: value)) =
      clauseFragment column operator value := by
  rcases spelled.cases with negated | ⟨single, positive⟩
  next =>
    have same : lowerAscii (Group.negation ++ word.drop 4) = lowerAscii word := by
      rw [lowerAscii, List.map_append, List.map_drop]
      change _ ++ (lowerAscii word).drop 4 = _
      rw [negated]
      decide
    have read := (Operator.ofText?_eq_some_iff _ operator).mpr
      ((spells_congr operator _ word same).mpr spelled)
    rw [groupFragment, parts?_of_negation column word value dotless negated]
    simp only [read]
  next =>
    have read := (Operator.ofText?_eq_some_iff word operator).mpr spelled
    rw [groupFragment, parts?_of_word column word value dotless single (positive value)]
    simp only [read]

theorem groupFragment_eq_wellFormed_iff (token : List Char) (clause : Clause) :
    groupFragment token = .wellFormed clause ↔ GroupToken token clause := by
  constructor
  next =>
    intro read
    cases found : Group.parts? token with
    | none => simp [groupFragment, found] at read
    | some parts =>
      obtain ⟨word, rfl, same⟩ := shape_of_parts? token parts found
      cases operator : Operator.ofText? parts.operator with
      | none => simp [groupFragment, found, operator] at read
      | some operator' =>
        simp only [groupFragment, found, operator] at read
        have spelled := (Operator.ofText?_eq_some_iff parts.operator operator').mp operator
        exact .condition parts.column word parts.value operator' clause
          ((spells_congr operator' word parts.operator same).mpr spelled)
          ((clauseFragment_eq_wellFormed_iff _ _ _ _).mp read)
  next =>
    intro written
    cases written with
    | condition column word value operator _ spelled parts =>
      have dotless := not_mem_of_isIdentifierText column parts.valid '.' (by decide)
      rw [groupFragment_of_spells column word value operator dotless spelled]
      exact (clauseFragment_eq_wellFormed_iff _ _ _ _).mpr parts

theorem joinFragment_eq_wellFormed_iff (kind : JoinKind) (token : List Char) (join : Join) :
    joinFragment kind token = .wellFormed join ↔ JoinToken kind token join := by
  constructor
  next =>
    intro read
    cases names : joinNames? token with
    | none => simp [joinFragment, names] at read
    | some triple =>
      have cut := names
      simp only [joinNames?, Option.bind_eq_bind, Option.bind_eq_some_iff, Prod.exists] at cut
      obtain ⟨table, keys, first, left, right, second, trims⟩ := cut
      obtain ⟨rfl, -⟩ := (Text.cut?_eq_some_iff ':' token table keys).mp first
      obtain ⟨rfl, -⟩ := (Text.cut?_eq_some_iff '=' keys left right).mp second
      cases trims
      simp only [joinFragment, names] at read
      split at read
      next => cases read
      next valid =>
        cases read
        simp only [List.find?_eq_none, List.forall_mem_cons, Bool.not_eq_true', Bool.not_eq_false] at valid
        exact .keys table left right valid.1 valid.2.1 valid.2.2.1
  next =>
    intro written
    cases written with
    | keys table left right validTable validLeft validRight =>
      have colonless := not_mem_of_isIdentifierText_trim table validTable ':' (by decide) (by decide)
      have equalless := not_mem_of_isIdentifierText_trim left validLeft '=' (by decide) (by decide)
      have names : joinNames? (table ++ ':' :: (left ++ '=' :: right)) =
          some (Text.trim table, Text.trim left, Text.trim right) := by
        simp [joinNames?, Text.cut?_append ':' table _ colonless, Text.cut?_append '=' left _ equalless]
      simp [joinFragment, names, validTable, validLeft, validRight]

theorem withoutPlus_eq_iff (text digits : List Char) (nonempty : digits ≠ [])
    (solid : ∀ c ∈ digits, Decimal.isDigit c = true) :
    withoutPlus text = digits ↔ text = digits ∨ text = '+' :: digits := by
  unfold withoutPlus
  split
  next rest =>
    have signed : '+' :: rest ≠ digits := by
      rintro rfl
      exact absurd (solid '+' List.mem_cons_self) (by decide)
    simp [signed]
  next other =>
    have unsigned : text ≠ '+' :: digits := other digits
    simp [unsigned]

theorem integer?_eq_some_iff (text : List Char) (n : Nat) :
    integer? text = some n ↔ IntegerText text n := by
  change (if withoutPlus (Text.trim text) = [] ∨ (withoutPlus (Text.trim text)).any
      (!Decimal.isDigit ·) then none
    else if Decimal.value (withoutPlus (Text.trim text)) ≤ maxInteger then
      some (Decimal.value (withoutPlus (Text.trim text))) else none) = some n ↔ _
  constructor
  next =>
    intro read
    split at read
    next => cases read
    next proper =>
      rw [not_or] at proper
      have solid : ∀ c ∈ withoutPlus (Text.trim text), Decimal.isDigit c = true := by
        simpa using proper.2
      split at read
      next bound =>
        cases read
        exact .digits _ proper.1 solid bound ((withoutPlus_eq_iff _ _ proper.1 solid).mp rfl)
      next => cases read
  next =>
    intro written
    cases written with
    | digits digits nonempty solid bound shape =>
      rw [(withoutPlus_eq_iff _ digits nonempty solid).mpr shape, if_neg, if_pos bound]
      simpa [nonempty] using solid

theorem readInteger_strict_eq_ok_iff (key value : String) (n : Nat) :
    readInteger .strict key value = .ok n ↔ IntegerText value.toList n := by
  rw [← integer?_eq_some_iff, readInteger]
  cases integer? value.toList <;> simp

end Query

end RowGate
