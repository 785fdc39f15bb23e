import RowGate.Proofs.Url.Push
import RowGate.Service.Route

set_option autoImplicit false

namespace RowGate.Service

theorem matchedBytes_cons (c : Char) (rest : List Char) (plain : c ≠ '%') :
    matchedBytes (c :: rest) = Text.Utf8.encodeChar c ++ matchedBytes rest := by
  rw [matchedBytes]
  rintro high low more rfl
  exact absurd rfl plain

theorem upper_ne_percent (n : Nat) (digit : n < 16) : Text.Hex.upper n ≠ '%' := by
  have finite : ∀ m, m < 16 → Text.Hex.upper m ≠ '%' := by decide
  exact finite n digit

theorem matchedBytes_encodeByte (byte : UInt8) (rest : List Char) :
    matchedBytes (Text.Percent.encodeByte byte ++ rest) =
      (if keepsEncoded byte.toNat then Text.Utf8.encode (Text.Percent.encodeByte byte) else [byte]) ++
        matchedBytes rest := by
  have bound : byte.toNat < 256 := byte.toNat_lt
  have whole : 16 * (byte.toNat / 16) + byte.toNat % 16 = byte.toNat := by omega
  simp only [Text.Percent.encodeByte, List.cons_append, List.nil_append, matchedBytes]
  rw [Text.Hex.value?_upper _ (by omega), Text.Hex.value?_upper _ (by omega)]
  simp only [whole, UInt8.ofNat_toNat]
  split
  next =>
    rw [matchedBytes_cons _ _ (upper_ne_percent _ (by omega)),
      matchedBytes_cons _ _ (upper_ne_percent _ (by omega))]
    simp [Text.Utf8.encode]
  next => rfl

theorem matchedBytes_flatMap_encodeByte (encoded : List UInt8) (rest : List Char)
    (decoded : ∀ byte ∈ encoded, keepsEncoded byte.toNat = false) :
    matchedBytes (encoded.flatMap Text.Percent.encodeByte ++ rest) = encoded ++ matchedBytes rest := by
  induction encoded with
  | nil => rfl
  | cons byte more ih =>
    have here := decoded byte List.mem_cons_self
    have later := ih fun other member => decoded other (List.mem_cons_of_mem byte member)
    rw [List.flatMap_cons, List.append_assoc, matchedBytes_encodeByte, here, later]
    rfl

theorem keepsEncoded_eq_false (byte : Nat) (apart : byte ≠ 0x25 ∧ byte ≠ 0x2F ∧ byte ≠ 0x2B) :
    keepsEncoded byte = false := by
  simp [keepsEncoded, apart]

theorem keepsEncoded_of_mem_encodeChar (c : Char) (apart : c ≠ '%' ∧ c ≠ '/' ∧ c ≠ '+') (byte : UInt8)
    (member : byte ∈ Text.Utf8.encodeChar c) : keepsEncoded byte.toNat = false := by
  apply keepsEncoded_eq_false
  rcases Text.Utf8.toNat_of_mem_encodeChar c byte member with same | beyond
  next =>
    rw [same]
    exact ⟨fun percent => apart.1 (Char.toNat_inj.1 percent),
      fun slash => apart.2.1 (Char.toNat_inj.1 slash), fun plus => apart.2.2 (Char.toNat_inj.1 plus)⟩
  next => omega

-- The characters that stay encoded in the path that is matched.
def isMatchedPlain (c : Char) : Bool :=
  c ≠ '%' && c ≠ '/'

def matchedText (text : List Char) : List Char :=
  Text.Percent.encode isMatchedPlain text

theorem matchedBytes_escape (special : Bool) (text rest : List Char) :
    matchedBytes (Url.escape (Url.segmentEscapes special) text ++ rest) =
      Text.Utf8.encode (matchedText text) ++ matchedBytes rest := by
  have slash : Url.plainOutside (Url.segmentEscapes special) '/' = false := by
    cases special <;> decide
  have plus : Url.plainOutside (Url.segmentEscapes special) '+' = true := by
    cases special <;> decide
  induction text with
  | nil => rfl
  | cons c more ih =>
    simp only [Url.escape, matchedText, Text.Percent.encode, Text.Utf8.encode, List.flatMap_cons,
      List.append_assoc, List.flatMap_append] at ih ⊢
    rw [← ih]
    by_cases kept : c = '%' ∨ c = '/'
    next =>
      -- These two are escaped, and stay so.
      rcases kept with rfl | rfl
      next => rw [if_neg (by simp [Url.plainOutside_percent])]; rfl
      next => rw [if_neg (by simp [slash])]; rfl
    next =>
      obtain ⟨percent, solid⟩ := not_or.1 kept
      have shown : isMatchedPlain c = true := by simp [isMatchedPlain, percent, solid]
      rw [if_pos shown, List.flatMap_singleton]
      by_cases plain : Url.plainOutside (Url.segmentEscapes special) c = true
      next => rw [if_pos plain, List.singleton_append, matchedBytes_cons c _ percent]
      next =>
        have other : c ≠ '+' := by
          rintro rfl
          exact plain plus
        rw [if_neg plain, matchedBytes_flatMap_encodeByte _ _
          (keepsEncoded_of_mem_encodeChar c ⟨percent, solid, other⟩)]

theorem matchedPath_of_texts (special : Bool) (texts : List (List Char)) :
    matchedPath ((texts.map (Url.escape (Url.segmentEscapes special))).flatMap ('/' :: ·)) =
      (texts.map matchedText).flatMap ('/' :: ·) := by
  have read : matchedBytes ((texts.map (Url.escape (Url.segmentEscapes special))).flatMap ('/' :: ·)) =
      Text.Utf8.encode ((texts.map matchedText).flatMap ('/' :: ·)) := by
    induction texts with
    | nil => rfl
    | cons text rest ih =>
      rw [List.map_cons, List.flatMap_cons, List.cons_append, matchedBytes_cons _ _ (by decide),
        matchedBytes_escape, ih]
      simp [Text.Utf8.encode]
  rw [matchedPath, read, Text.Utf8.decodeLossy_encode]

theorem matchedText_eq_self (text : List Char) (plain : ∀ c ∈ text, c ≠ '%' ∧ c ≠ '/') :
    matchedText text = text := by
  induction text with
  | nil => rfl
  | cons c rest ih =>
    have here : isMatchedPlain c = true := by simp [isMatchedPlain, plain c List.mem_cons_self]
    have later := ih fun other member => plain other (List.mem_cons_of_mem c member)
    rw [matchedText, Text.Percent.encode] at later ⊢
    rw [List.flatMap_cons, if_pos here, later, List.singleton_append]

theorem slash_not_mem_matchedText (text : List Char) : '/' ∉ matchedText text := by
  intro member
  rcases Text.Percent.mem_encode _ text '/' member with ⟨_, plain⟩ | percent | plain
  next => exact absurd plain (by decide)
  next => exact absurd percent (by decide)
  next => exact absurd plain (by decide)

theorem decode_matchedText (text : List Char) : Text.Percent.decode (matchedText text) = text :=
  Text.Percent.decode_encode isMatchedPlain (by decide) text

theorem matchedText_eq_nil_iff (text : List Char) : matchedText text = [] ↔ text = [] := by
  constructor
  next =>
    intro empty
    rw [← decode_matchedText text, empty]
    rfl
  next =>
    rintro rfl
    rfl

def targetOf : List (List Char) → Option Target
  | [slug] => if slug = [] then none else some (.rows (.ofList slug))
  | [slug, id] => if slug = [] ∨ id = [] then none else some (.record (.ofList slug) (.ofList id))
  | _ => none

theorem target?_of_texts (texts : List (List Char)) :
    target? ((texts.map matchedText).flatMap ('/' :: ·)) = targetOf texts := by
  cases texts with
  | nil => rfl
  | cons text rest =>
    have single : ∀ part ∈ (text :: rest).map matchedText, '/' ∉ part := by
      intro part member
      obtain ⟨other, -, rfl⟩ := List.mem_map.1 member
      exact slash_not_mem_matchedText other
    have cut := Text.pieces_join '/' ((text :: rest).map matchedText) (by simp) single
    rw [List.map_cons] at cut ⊢
    rw [Text.flatMap_separator, target?, cut]
    rcases rest with _ | ⟨next, _ | ⟨third, more⟩⟩
    next => simp [targetOf, decodeSegment, decode_matchedText, matchedText_eq_nil_iff]
    next => simp [targetOf, decodeSegment, decode_matchedText, matchedText_eq_nil_iff]
    next => rfl

theorem afterBase?_append (base rest : List Char) : afterBase? base (base ++ rest) = some rest := by
  induction base with
  | nil => cases rest <;> rfl
  | cons c more ih => rw [List.cons_append, afterBase?, if_pos rfl, ih]

theorem count_slash (texts : List (List Char)) :
    ((texts.map matchedText).flatMap ('/' :: ·)).count '/' = texts.length := by
  induction texts with
  | nil => rfl
  | cons text rest ih =>
    have none := List.count_eq_zero.2 (slash_not_mem_matchedText text)
    rw [List.map_cons, List.flatMap_cons, List.count_append, ih, List.count_cons_self, none,
      List.length_cons]
    omega

theorem Target.eq_of_route? {left right : Target} {method : Method} {route : Route}
    (first : left.route? method = some route) (second : right.route? method = some route) :
    left = right := by
  cases left <;> cases right <;> cases method <;> simp [Target.route?] at first second <;>
    subst first <;> simpa using second.symm

def pathOf (special : Bool) (base tail : List (List Char)) : List Char :=
  ((base ++ tail).map (Url.escape (Url.segmentEscapes special))).flatMap ('/' :: ·)

section

variable {special : Bool} {basePath : String} {base : List (List Char)}
  (same : routeBase basePath = (base.map matchedText).flatMap ('/' :: ·))
  (openApiEnabled : Bool) (method : Method)

include same

theorem route?_pathOf (tail : List (List Char)) :
    route? basePath openApiEnabled method (pathOf special base tail) =
      if method = .get ∧ ((base ++ tail).map matchedText).flatMap ('/' :: ·) = healthPath then
        some .health
      else if method = .get ∧ openApiEnabled = true ∧
          (tail.map matchedText).flatMap ('/' :: ·) = documentPath then some .document
      else (targetOf tail).bind (·.route? method) := by
  have cut : ((base ++ tail).map matchedText).flatMap ('/' :: ·) =
      routeBase basePath ++ (tail.map matchedText).flatMap ('/' :: ·) := by
    rw [same, List.map_append, List.flatMap_append]
  rw [route?, pathOf, matchedPath_of_texts]
  split
  next => rfl
  next =>
    rw [cut, afterBase?_append]
    change (if _ then _ else (target? _).bind _) = _
    rw [target?_of_texts]

-- The fixed paths have one segment only.
theorem route?_record (slug id : List Char) (filled : slug ≠ [] ∧ id ≠ []) :
    route? basePath openApiEnabled method (pathOf special base [slug, id]) =
      (Target.record (.ofList slug) (.ofList id)).route? method := by
  have health : ((base ++ [slug, id]).map matchedText).flatMap ('/' :: ·) ≠ healthPath := by
    intro equal
    have slashes := count_slash (base ++ [slug, id])
    have one : healthPath.count '/' = 1 := by decide
    rw [equal, one, List.length_append, List.length_cons, List.length_singleton] at slashes
    omega
  have document : ([slug, id].map matchedText).flatMap ('/' :: ·) ≠ documentPath := by
    intro equal
    have slashes := count_slash [slug, id]
    have one : documentPath.count '/' = 1 := by decide
    rw [equal, one, List.length_cons, List.length_singleton] at slashes
    omega
  rw [route?_pathOf same, if_neg fun taken => health taken.2, if_neg fun taken => document taken.2.2,
    targetOf, if_neg (not_or.2 filled)]
  rfl

theorem targetOf_of_route? {tail : List (List Char)} {target : Target} {route : Route}
    (named : target.route? method = some route)
    (taken : route? basePath openApiEnabled method (pathOf special base tail) = some route) :
    targetOf tail = some target := by
  rw [route?_pathOf same] at taken
  have apart : route ≠ .health ∧ route ≠ .document := by
    cases target <;> cases method <;> simp [Target.route?] at named <;> simp [← named]
  split at taken
  next => exact absurd (Option.some.inj taken).symm apart.1
  next =>
    split at taken
    next => exact absurd (Option.some.inj taken).symm apart.2
    next =>
      obtain ⟨other, found, routed⟩ := Option.bind_eq_some_iff.1 taken
      rw [found, Target.eq_of_route? routed named]

end

end RowGate.Service
