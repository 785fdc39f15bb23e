import RowGate.Proofs.Service.Path

set_option autoImplicit false

namespace RowGate.Service

theorem matchedBytes_percent (rest : List Char)
    (loose : ∀ high low more, rest = high :: low :: more →
      Text.Hex.value? high = none ∨ Text.Hex.value? low = none) :
    matchedBytes ('%' :: rest) = Text.Utf8.encodeChar '%' ++ matchedBytes rest := by
  rcases rest with _ | ⟨high, _ | ⟨low, more⟩⟩
  next => rfl
  next => rfl
  next =>
    rw [matchedBytes]
    rcases loose high low more rfl with none | none
    next => rw [none]
    next => cases Text.Hex.value? high <;> rw [none]

theorem slash_value? : Text.Hex.value? '/' = none := by decide

theorem matchedBytes_slash (front back : List Char) :
    matchedBytes (front ++ '/' :: back) = matchedBytes front ++ 0x2F :: matchedBytes back := by
  have slash : matchedBytes ('/' :: back) = 0x2F :: matchedBytes back :=
    matchedBytes_cons '/' back (by decide)
  fun_induction matchedBytes front with
  | case1 high low rest h l first second kept ih =>
    simp only [List.cons_append] at ih ⊢
    rw [matchedBytes]
    simp only [first, second, if_pos kept]
    rw [ih, List.append_assoc]
  | case2 high low rest h l first second decoded ih =>
    simp only [List.cons_append]
    rw [matchedBytes]
    simp only [first, second, if_neg decoded]
    rw [ih]
  | case3 high low rest loose ih =>
    simp only [List.cons_append] at ih ⊢
    rw [matchedBytes_percent, ih, List.append_assoc]
    rintro h l more same
    cases same
    cases first : Text.Hex.value? high with
    | none => exact .inl rfl
    | some h => exact .inr (by cases second : Text.Hex.value? low <;> simp_all)
  | case4 c rest plain ih =>
    rw [List.cons_append, List.append_assoc, ← ih]
    by_cases percent : c = '%'
    next =>
      subst percent
      refine matchedBytes_percent _ fun high low more same => ?_
      rcases rest with _ | ⟨_, _ | ⟨_, _⟩⟩
      next =>
        cases same
        exact .inl slash_value?
      next =>
        cases same
        exact .inr slash_value?
      next => exact absurd rfl (plain _ _ _ rfl)
    next => exact matchedBytes_cons c _ percent
  | case5 => exact slash

theorem value?_lt (c : Char) (n : Nat) (digit : Text.Hex.value? c = some n) : n < 16 := by
  unfold Text.Hex.value? at digit
  split_ifs at digit with decimal lower upper <;> obtain rfl := Option.some.inj digit
  next =>
    have high : c.toNat ≤ '9'.toNat := decimal.2
    have bounds : '9'.toNat = 57 ∧ '0'.toNat = 48 := by decide
    omega
  next =>
    have high : c.toNat ≤ 'f'.toNat := lower.2
    have bounds : 'f'.toNat = 102 ∧ 'a'.toNat = 97 := by decide
    omega
  next =>
    have high : c.toNat ≤ 'F'.toNat := upper.2
    have bounds : 'F'.toNat = 70 ∧ 'A'.toNat = 65 := by decide
    omega

theorem slash_of_mem_encodeChar (c : Char) (member : 0x2F ∈ Text.Utf8.encodeChar c) : c = '/' := by
  rcases Text.Utf8.toNat_of_mem_encodeChar c 0x2F member with same | beyond
  next => exact Char.toNat_inj.mp same.symm
  next => cases (by decide : ¬0x80 ≤ (0x2F : UInt8).toNat) beyond

theorem slash_of_mem_matchedBytes (text : List Char) (member : 0x2F ∈ matchedBytes text) :
    '/' ∈ text := by
  have percent : (0x2F : UInt8) ∉ Text.Utf8.encodeChar '%' := by decide
  fun_induction matchedBytes text with
  | case1 high low rest h l first second kept ih =>
    exact List.mem_cons_of_mem _ (ih ((List.mem_append.mp member).resolve_left percent))
  | case2 high low rest h l first second decoded ih =>
    rcases List.mem_cons.mp member with here | later
    next =>
      have byte := congrArg UInt8.toNat here
      rw [UInt8.toNat_ofNat'] at byte
      have least := value?_lt high h second
      have last := value?_lt low l first
      have slash : (0x2F : UInt8).toNat = '/'.toNat := by decide
      have same : 16 * h + l = '/'.toNat := by omega
      exact absurd (by simp [keepsEncoded, same]) decoded
    next =>
      have there := ih later
      simp [there]
  | case3 high low rest loose ih =>
    exact List.mem_cons_of_mem _ (ih ((List.mem_append.mp member).resolve_left percent))
  | case4 c rest plain ih =>
    rcases List.mem_append.mp member with here | later
    next => exact List.mem_cons.mpr (.inl (slash_of_mem_encodeChar c here).symm)
    next => exact List.mem_cons_of_mem c (ih later)
  | case5 => cases member

theorem encodeChar_ne_nil (c : Char) : Text.Utf8.encodeChar c ≠ [] := by
  simp only [Text.Utf8.encodeChar]
  split_ifs <;> simp

theorem matchedBytes_ne_nil (text : List Char) (some : text ≠ []) : matchedBytes text ≠ [] := by
  fun_cases matchedBytes text with
  | case5 => exact absurd rfl some
  | case2 => simp
  | _ => simp [encodeChar_ne_nil]

theorem matchedPath_slash (front back : List Char) :
    matchedPath (front ++ '/' :: back) = matchedPath front ++ '/' :: matchedPath back := by
  rw [matchedPath, matchedBytes_slash]
  exact Text.Utf8.decodeLossy_append _ _ 0x2F (by decide)

theorem matchedPath_join (parts : List (List Char)) :
    matchedPath (Text.join '/' parts) = Text.join '/' (parts.map matchedPath) := by
  induction parts with
  | nil => decide
  | cons part rest ih =>
    cases rest with
    | nil => rfl
    | cons next more =>
      rw [Text.join, matchedPath_slash, ih]
      rfl

theorem matchedPath_flatMap (parts : List (List Char)) :
    matchedPath (parts.flatMap ('/' :: ·)) = (parts.map matchedPath).flatMap ('/' :: ·) := by
  cases parts with
  | nil => decide
  | cons part rest =>
    have first : matchedPath [] = [] := by decide
    have slash := matchedPath_slash [] (Text.join '/' (part :: rest))
    rw [first, List.nil_append] at slash
    rw [Text.flatMap_separator, slash, matchedPath_join, List.map_cons, Text.flatMap_separator,
      List.nil_append]

theorem slash_not_mem_matchedPath (text : List Char) (absent : '/' ∉ text) : '/' ∉ matchedPath text := by
  intro member
  obtain ⟨byte, there, same⟩ :=
    Text.Utf8.mem_of_mem_decodeLossy _ '/' (by decide) (by decide) member
  obtain rfl : byte = 0x2F := UInt8.toNat_inj.mp same
  exact absent (slash_of_mem_matchedBytes text there)

theorem pieces_matchedPath (path : List Char) :
    Text.pieces '/' (matchedPath path) = (Text.pieces '/' path).map matchedPath := by
  have whole := matchedPath_join (Text.pieces '/' path)
  rw [Text.join_pieces] at whole
  rw [whole]
  refine Text.pieces_join '/' _ (by simp [Text.pieces_ne_nil]) fun part member => ?_
  obtain ⟨piece, cut, rfl⟩ := List.mem_map.mp member
  exact slash_not_mem_matchedPath piece (Text.not_mem_of_mem_pieces '/' path piece cut)

theorem matchedPath_ne_nil (text : List Char) (some : text ≠ []) : matchedPath text ≠ [] :=
  Text.Utf8.decodeLossy_ne_nil _ (matchedBytes_ne_nil text some)

-- Both decodings take an unescaped character as it is.
theorem encode_of_unescaped (bytes : List Char → List UInt8) (nil : bytes [] = [])
    (cons : ∀ c rest, c ≠ '%' → bytes (c :: rest) = Text.Utf8.encodeChar c ++ bytes rest)
    (text : List Char) (plain : '%' ∉ text) : bytes text = Text.Utf8.encode text := by
  induction text with
  | nil => exact nil
  | cons c rest ih =>
    obtain ⟨here, later⟩ := not_or.mp (List.mem_cons.not.mp plain)
    rw [cons c rest (Ne.symm here), ih later]
    rfl

theorem matchedPath_of_unescaped (text : List Char) (plain : '%' ∉ text) : matchedPath text = text := by
  rw [matchedPath, encode_of_unescaped matchedBytes rfl matchedBytes_cons text plain,
    Text.Utf8.decodeLossy_encode]

theorem decode_of_unescaped (text : List Char) (plain : '%' ∉ text) : Text.Percent.decode text = text := by
  rw [Text.Percent.decode, encode_of_unescaped Text.Percent.bytes rfl Text.Percent.bytes_cons text plain,
    Text.Utf8.decodeLossy_encode]

def segmentText (segment : List Char) : String :=
  decodeSegment (matchedPath segment)

def segmentTexts (path : List Char) : List String :=
  (Text.pieces '/' path).map segmentText

theorem segmentTexts_eq (path : List Char) :
    segmentTexts path = (Text.pieces '/' (matchedPath path)).map decodeSegment := by
  rw [segmentTexts, pieces_matchedPath, List.map_map]
  rfl

theorem segmentText_of_unescaped (segment : List Char) (plain : '%' ∉ segment) :
    segmentText segment = .ofList segment := by
  rw [segmentText, decodeSegment, matchedPath_of_unescaped segment plain,
    decode_of_unescaped segment plain]

end RowGate.Service
