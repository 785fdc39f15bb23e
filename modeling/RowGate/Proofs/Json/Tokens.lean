import RowGate.Proofs.Json.Numbers

set_option autoImplicit false

/-!
# The tokens of a written value

A mark stands behind each word that is written, and a string ends at the first quote that is not
escaped, so a written value is cut into its tokens whatever follows it (`lexes_write`).
-/

namespace RowGate.Json

def EndsWord (text : List Char) : Prop :=
  ∀ c ∈ text.head?, isWordChar c = false

-- The text is cut into the tokens wherever it stands, unless a word goes on behind it.
def Lexes (text : List Char) (tokens : List Token) : Prop :=
  ∀ done rest, EndsWord rest →
    tokensFrom? done .between (text ++ rest) = tokensFrom? (tokens.reverse ++ done) .between rest

theorem Lexes.nil : Lexes [] [] :=
  fun _ _ _ => rfl

theorem Lexes.append {front back : List Char} {before after : List Token} (first : Lexes front before)
    (second : Lexes back after) (cut : ∀ rest, EndsWord rest → EndsWord (back ++ rest)) :
    Lexes (front ++ back) (before ++ after) := by
  intro done rest ends
  rw [List.append_assoc, first done (back ++ rest) (cut rest ends), second _ rest ends,
    List.reverse_append, List.append_assoc]

theorem Lexes.mark {text : List Char} {tokens : List Token} (lexes : Lexes text tokens) (c : Char)
    (token : Token) (started : start? c = some ([token], .between)) :
    Lexes (c :: text) (token :: tokens) := by
  intro done rest ends
  rw [List.cons_append, tokensFrom?]
  simp only [advance?, started]
  rw [lexes _ rest ends]
  simp

theorem Lexes.tokens? {text : List Char} {tokens : List Token} (lexes : Lexes text tokens) :
    tokens? text = some tokens := by
  have cut := lexes [] [] (by simp [EndsWord])
  rw [List.append_nil, List.append_nil] at cut
  simp [Json.tokens?, cut, tokensFrom?]

theorem start?_of_isWordChar (c : Char) (letter : isWordChar c = true) :
    start? c = some ([], .word [c]) := by
  unfold start?
  split
  case h_12 => rw [if_pos letter]
  all_goals cases letter

theorem tokensFrom?_word (done : List Token) (read word rest : List Char)
    (solid : ∀ c ∈ word, isWordChar c = true) :
    tokensFrom? done (.word read) (word ++ rest) =
      tokensFrom? done (.word (word.reverse ++ read)) rest := by
  induction word generalizing read with
  | nil => rfl
  | cons c word ih =>
    obtain ⟨letter, others⟩ := List.forall_mem_cons.mp solid
    rw [List.cons_append, tokensFrom?]
    simp only [advance?, letter, if_true]
    rw [List.nil_append, ih (c :: read) others]
    simp

theorem tokensFrom?_wordEnd (done : List Token) (read rest : List Char) (token : Token)
    (spelled : word? read.reverse = some token) (ends : EndsWord rest) :
    tokensFrom? done (.word read) rest = tokensFrom? (token :: done) .between rest := by
  cases rest with
  | nil => simp [tokensFrom?, spelled]
  | cons c rest =>
    have stop : isWordChar c = false := ends c rfl
    rw [tokensFrom?, tokensFrom?]
    simp only [advance?, stop, spelled, Bool.false_eq_true, if_false]
    cases start? c with
    | none => rfl
    | some started => simp

theorem lexes_word (word : List Char) (token : Token) (nonempty : word ≠ [])
    (solid : ∀ c ∈ word, isWordChar c = true) (spelled : word? word = some token) :
    Lexes word [token] := by
  intro done rest ends
  obtain ⟨c, word, rfl⟩ := List.exists_cons_of_ne_nil nonempty
  obtain ⟨letter, others⟩ := List.forall_mem_cons.mp solid
  rw [List.cons_append, tokensFrom?]
  simp only [advance?, start?_of_isWordChar c letter]
  rw [List.nil_append, tokensFrom?_word done [c] word rest others,
    tokensFrom?_wordEnd done _ rest token (by simpa using spelled) ends]
  rfl

theorem lexes_writeNumber (n : Number) :
    Lexes (writeNumber n) [.scalar ((rereadNumber n).map .number)] := by
  refine lexes_word _ _ ?_ (isWordChar_of_mem_writeNumber n) (word?_writeNumber n)
  intro empty
  have spelled := word?_writeNumber n
  rw [empty] at spelled
  exact absurd spelled (by simp [word?, numberParts?])

def unit (c : Char) : CodeUnit :=
  if c.toNat < 0x20 ∧ c ∉ ['\x08', '\t', '\n', '\x0c', '\r'] then .escaped c.toNat else .char c

theorem tokensFrom?_escape (done : List Token) (read : List CodeUnit) (c : Char) (rest : List Char) :
    tokensFrom? done (.string read) (escape c ++ rest) =
      tokensFrom? done (.string (unit c :: read)) rest := by
  have short (plain letter : Char) (named : plain ≠ 'u') (meant : escaped? plain = some letter)
      (known : unit letter = .char letter) :
      tokensFrom? done (.string read) ('\\' :: plain :: rest) =
        tokensFrom? done (.string (unit letter :: read)) rest := by
    simp [tokensFrom?, advance?, named, meant, known]
  unfold escape
  split
  next same => exact same ▸ short '"' '"' (by decide) rfl rfl
  split
  next same => exact same ▸ short '\\' '\\' (by decide) rfl rfl
  split
  next same => exact same ▸ short 'b' '\x08' (by decide) rfl rfl
  split
  next same => exact same ▸ short 't' '\t' (by decide) rfl rfl
  split
  next same => exact same ▸ short 'n' '\n' (by decide) rfl rfl
  split
  next same => exact same ▸ short 'f' '\x0c' (by decide) rfl rfl
  split
  next same => exact same ▸ short 'r' '\r' (by decide) rfl rfl
  next quote slash back tab line form carriage =>
    split
    next control =>
      have zero : Text.Hex.value? '0' = some 0 := by decide
      have high := Text.Hex.value?_lower (c.toNat / 16) (by omega)
      have low := Text.Hex.value?_lower (c.toNat % 16) (by omega)
      have value : c.toNat / 16 * 16 + c.toNat % 16 = c.toNat := by omega
      have known : unit c = .escaped c.toNat := by simp [unit, *]
      simp [tokensFrom?, advance?, zero, high, low, value, known]
    next printed =>
      have known : unit c = .char c := by simp [unit, printed]
      simp [tokensFrom?, advance?, quote, slash, printed, known]

theorem ofUnits?_escaped (n : Nat) (control : n < 0x20) (units : List CodeUnit) :
    ofUnits? (.escaped n :: units) = (ofUnits? units).map (Char.ofNat n :: ·) := by
  have high : isHighSurrogate n = false := by simp [isHighSurrogate]; omega
  have low : isLowSurrogate n = false := by simp [isLowSurrogate]; omega
  cases units with
  | nil => simp [ofUnits?, high, low]
  | cons unit units => cases unit <;> simp [ofUnits?, high, low]

theorem ofUnits?_map_unit (text : List Char) : ofUnits? (text.map unit) = some text := by
  induction text with
  | nil => rfl
  | cons c rest ih =>
    rw [List.map_cons, unit]
    split
    next control =>
      rw [ofUnits?_escaped _ control.1, ih]
      simp
    next => simp [ofUnits?, ih]

theorem tokensFrom?_escapes (done : List Token) (read : List CodeUnit) (text rest : List Char) :
    tokensFrom? done (.string read) (text.flatMap escape ++ rest) =
      tokensFrom? done (.string ((text.map unit).reverse ++ read)) rest := by
  induction text generalizing read with
  | nil => rfl
  | cons c text ih =>
    rw [List.flatMap_cons, List.append_assoc, tokensFrom?_escape, ih]
    simp

theorem lexes_quote (text : List Char) : Lexes (quote text) [.string (some (.ofList text))] := by
  intro done rest ends
  have opened : quote text ++ rest = '"' :: (text.flatMap escape ++ '"' :: rest) := by simp [quote]
  rw [opened, tokensFrom?]
  simp only [advance?, start?]
  rw [List.nil_append, tokensFrom?_escapes, tokensFrom?]
  simp [advance?, ofUnits?_map_unit]

mutual

def tokens : Json → List Token
  | .null => [.scalar (some .null)]
  | .bool value => [.scalar (some (.bool value))]
  | .number n => [.scalar ((rereadNumber n).map .number)]
  | .string text => [.string (some text)]
  | .array [] => [.arrayStart, .arrayEnd]
  | .array (item :: rest) => .arrayStart :: (tokens item ++ itemTokens rest)
  | .object [] => [.objectStart, .objectEnd]
  | .object ((key, value) :: rest) =>
    .objectStart :: .string (some key) :: .colon :: (tokens value ++ fieldTokens rest)

def itemTokens : List Json → List Token
  | [] => [.arrayEnd]
  | item :: rest => .comma :: (tokens item ++ itemTokens rest)

def fieldTokens : List (String × Json) → List Token
  | [] => [.objectEnd]
  | (key, value) :: rest =>
    .comma :: .string (some key) :: .colon :: (tokens value ++ fieldTokens rest)

end

theorem endsWord_writeItems (items : List Json) (rest : List Char) :
    EndsWord (writeItems items ++ rest) := by
  cases items <;> simp [EndsWord, writeItems] <;> decide

theorem endsWord_writeFields (fields : List (String × Json)) (rest : List Char) :
    EndsWord (writeFields fields ++ rest) := by
  cases fields <;> simp [EndsWord, writeFields] <;> decide

theorem lexes_key (key : String) (text : List Char) (tokens : List Token) (lexes : Lexes text tokens) :
    Lexes (quote key.toList ++ ':' :: text) (.string (some key) :: .colon :: tokens) := by
  have quoted := lexes_quote key.toList
  rw [String.ofList_toList] at quoted
  have cut (rest : List Char) : EndsWord (':' :: text ++ rest) := by
    simp [EndsWord]
    decide
  exact quoted.append (lexes.mark ':' .colon rfl) fun rest _ => cut rest

mutual

theorem lexes_write : (value : Json) → Lexes value.write value.tokens
  | .null => lexes_word _ _ (by decide) (List.all_eq_true.mp (by decide)) rfl
  | .bool true => lexes_word _ _ (by decide) (List.all_eq_true.mp (by decide)) rfl
  | .bool false => lexes_word _ _ (by decide) (List.all_eq_true.mp (by decide)) rfl
  | .number n => lexes_writeNumber n
  | .string text => by
    have quoted := lexes_quote text.toList
    rw [String.ofList_toList] at quoted
    exact quoted
  | .array [] => (Lexes.nil.mark ']' .arrayEnd rfl).mark '[' .arrayStart rfl
  | .array (item :: rest) => by
    have items := (lexes_write item).append (lexes_writeItems rest) fun _ _ => endsWord_writeItems rest _
    exact items.mark '[' .arrayStart rfl
  | .object [] => (Lexes.nil.mark '\x7d' .objectEnd rfl).mark '\x7b' .objectStart rfl
  | .object ((key, value) :: rest) => by
    have fields := (lexes_write value).append (lexes_writeFields rest) fun _ _ =>
      endsWord_writeFields rest _
    exact (lexes_key key _ _ fields).mark '\x7b' .objectStart rfl

theorem lexes_writeItems : (items : List Json) → Lexes (writeItems items) (itemTokens items)
  | [] => Lexes.nil.mark ']' .arrayEnd rfl
  | item :: rest => by
    have items := (lexes_write item).append (lexes_writeItems rest) fun _ _ => endsWord_writeItems rest _
    exact items.mark ',' .comma rfl

theorem lexes_writeFields :
    (fields : List (String × Json)) → Lexes (writeFields fields) (fieldTokens fields)
  | [] => Lexes.nil.mark '\x7d' .objectEnd rfl
  | (key, value) :: rest => by
    have fields := (lexes_write value).append (lexes_writeFields rest) fun _ _ =>
      endsWord_writeFields rest _
    exact (lexes_key key _ _ fields).mark ',' .comma rfl

end

end RowGate.Json
