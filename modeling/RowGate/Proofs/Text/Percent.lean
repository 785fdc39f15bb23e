import RowGate.Proofs.Text.Pieces
import RowGate.Proofs.Text.Utf8
import RowGate.Text.Percent

set_option autoImplicit false

namespace RowGate.Text.Percent

theorem bytes_cons (c : Char) (rest : List Char) (plain : c ≠ '%') :
    bytes (c :: rest) = Utf8.encodeChar c ++ bytes rest := by
  rw [bytes]
  rintro high low more rfl
  exact absurd rfl plain

theorem bytes_encodeByte (byte : UInt8) (rest : List Char) :
    bytes (encodeByte byte ++ rest) = byte :: bytes rest := by
  have bound : byte.toNat < 256 := byte.toNat_lt
  have whole : 16 * (byte.toNat / 16) + byte.toNat % 16 = byte.toNat := by omega
  simp only [encodeByte, List.cons_append, List.nil_append, bytes]
  rw [Hex.value?_upper _ (by omega), Hex.value?_upper _ (by omega)]
  simp only [whole, UInt8.ofNat_toNat]

theorem bytes_flatMap_encodeByte (encoded : List UInt8) (rest : List Char) :
    bytes (encoded.flatMap encodeByte ++ rest) = encoded ++ bytes rest := by
  induction encoded with
  | nil => rfl
  | cons byte more ih =>
    rw [List.flatMap_cons, List.append_assoc, bytes_encodeByte, ih, List.cons_append]

theorem isFormPlain_upper (n : Nat) (digit : n < 16) : isFormPlain (Hex.upper n) = true := by
  have finite : ∀ m, m < 16 → isFormPlain (Hex.upper m) = true := by decide
  exact finite n digit

theorem mem_encodeByte (byte : UInt8) (c : Char) (member : c ∈ encodeByte byte) :
    c = '%' ∨ isFormPlain c = true := by
  have bound : byte.toNat < 256 := byte.toNat_lt
  simp only [encodeByte, List.mem_cons, List.not_mem_nil, or_false] at member
  rcases member with rfl | rfl | rfl
  · exact .inl rfl
  · exact .inr (isFormPlain_upper _ (by omega))
  · exact .inr (isFormPlain_upper _ (by omega))

theorem mem_formEncode (text : List Char) (c : Char) (member : c ∈ formEncode text) :
    c = '+' ∨ c = '%' ∨ isFormPlain c = true := by
  obtain ⟨d, -, written⟩ := List.mem_flatMap.1 member
  split at written
  · exact .inl (List.mem_singleton.1 written)
  split at written
  · next plain =>
    rw [List.mem_singleton.1 written]
    exact .inr (.inr plain)
  · obtain ⟨byte, -, inside⟩ := List.mem_flatMap.1 written
    exact .inr (mem_encodeByte byte c inside)

theorem mark_not_mem_formEncode (text : List Char) (mark : Char)
    (special : mark ≠ '+' ∧ mark ≠ '%' ∧ isFormPlain mark = false) : mark ∉ formEncode text := by
  intro member
  rcases mem_formEncode text mark member with plus | percent | plain
  · exact special.1 plus
  · exact special.2.1 percent
  · simp [special.2.2] at plain

theorem mem_encode (plain : Char → Bool) (text : List Char) (c : Char)
    (member : c ∈ encode plain text) :
    c ∈ text ∧ plain c = true ∨ c = '%' ∨ isFormPlain c = true := by
  obtain ⟨d, inside, written⟩ := List.mem_flatMap.1 member
  split at written
  · next same =>
    rw [List.mem_singleton.1 written]
    exact .inl ⟨inside, same⟩
  · obtain ⟨byte, -, digit⟩ := List.mem_flatMap.1 written
    exact .inr (mem_encodeByte byte c digit)

theorem bytes_encode (plain : Char → Bool) (percent : plain '%' = false) (text rest : List Char) :
    bytes (encode plain text ++ rest) = Utf8.encode text ++ bytes rest := by
  induction text with
  | nil => rfl
  | cons c more ih =>
    simp only [encode, Utf8.encode, List.flatMap_cons, List.append_assoc] at ih ⊢
    by_cases same : plain c = true
    · have solid : c ≠ '%' := by
        rintro rfl
        simp [percent] at same
      rw [if_pos same, List.cons_append, List.nil_append, bytes_cons c _ solid, ih]
    · rw [if_neg same, bytes_flatMap_encodeByte, ih]

theorem decode_encode (plain : Char → Bool) (percent : plain '%' = false) (text : List Char) :
    decode (encode plain text) = text := by
  have whole := bytes_encode plain percent text []
  rw [List.append_nil, bytes, List.append_nil] at whole
  rw [decode, whole, Utf8.decodeLossy_encode]

theorem map_encodeByte (f : Char → Char) (keeps : ∀ c, c = '%' ∨ isFormPlain c = true → f c = c)
    (encoded : List UInt8) : (encoded.flatMap encodeByte).map f = encoded.flatMap encodeByte := by
  have same : ∀ c ∈ encoded.flatMap encodeByte, f c = id c := by
    intro c member
    obtain ⟨byte, -, inside⟩ := List.mem_flatMap.1 member
    exact keeps c (mem_encodeByte byte c inside)
  rw [List.map_congr_left same, List.map_id]

theorem formDecode_formEncode (text : List Char) : formDecode (formEncode text) = text := by
  have keeps : ∀ c, c = '%' ∨ isFormPlain c = true → (if c = '+' then ' ' else c) = c := by
    rintro c (rfl | plain)
    · rfl
    · have other : c ≠ '+' := by
        rintro rfl
        exact absurd plain (by decide)
      exact if_neg other
  have read : bytes ((formEncode text).map fun c => if c = '+' then ' ' else c) =
      Utf8.encode text := by
    induction text with
    | nil => rfl
    | cons c rest ih =>
      simp only [formEncode, Utf8.encode, List.flatMap_cons, List.map_append] at ih ⊢
      by_cases blank : c = ' '
      · subst blank
        simp only [if_true, List.map_cons, List.map_nil, List.cons_append, List.nil_append]
        rw [bytes_cons _ _ (by decide), ih]
      by_cases plain : isFormPlain c = true
      · simp only [if_neg blank, if_pos plain, List.map_cons, List.map_nil, keeps c (.inr plain),
          List.cons_append, List.nil_append]
        have solid : c ≠ '%' := by
          rintro rfl
          exact absurd plain (by decide)
        rw [bytes_cons c _ solid, ih]
      · rw [if_neg blank, if_neg plain, map_encodeByte _ keeps, bytes_flatMap_encodeByte, ih]
  rw [formDecode, decode, read, Utf8.decodeLossy_encode]

def formPart (pair : String × String) : List Char :=
  formEncode pair.1.toList ++ '=' :: formEncode pair.2.toList

theorem formPair_formPart (pair : String × String) : formPair (formPart pair) = pair := by
  have absent : '=' ∉ formEncode pair.1.toList :=
    mark_not_mem_formEncode pair.1.toList '=' (by decide)
  simp [formPair, formPart, cut?_append '=' _ _ absent, formDecode_formEncode]

theorem formPairs_formText (pairs : List (String × String)) :
    formPairs (formText pairs) = pairs := by
  have single : ∀ part ∈ pairs.map formPart, '&' ∉ part := by
    intro part member
    obtain ⟨pair, -, rfl⟩ := List.mem_map.1 member
    have key := mark_not_mem_formEncode pair.1.toList '&' (by decide)
    have value := mark_not_mem_formEncode pair.2.toList '&' (by decide)
    simp [formPart, key, value]
  have filled : ∀ part ∈ pairs.map formPart, decide (part ≠ []) = true := by
    intro part member
    obtain ⟨pair, -, rfl⟩ := List.mem_map.1 member
    simp [formPart]
  cases pairs with
  | nil => decide
  | cons pair rest =>
    have cut := pieces_join '&' ((pair :: rest).map formPart) (by simp) single
    have whole : formText (pair :: rest) = join '&' ((pair :: rest).map formPart) := rfl
    have back : (pair :: rest).map (formPair ∘ formPart) = (pair :: rest).map id :=
      List.map_congr_left fun other _ => formPair_formPart other
    rw [formPairs, whole, cut, List.filter_eq_self.2 filled, List.map_map, back, List.map_id]

theorem formPairs_append (front back : List Char) :
    formPairs (front ++ '&' :: back) = formPairs front ++ formPairs back := by
  simp [formPairs, pieces_append]

end RowGate.Text.Percent
