import RowGate.Client.Basic
import RowGate.Proofs.Grammar
import RowGate.Proofs.Service.Path

set_option autoImplicit false

namespace RowGate.Client

def isBaseChar (c : Char) : Bool :=
  isIdentifierChar c || c = '-' || 0x80 ≤ c.toNat

def isBaseName (text : List Char) : Bool :=
  !text.isEmpty && text.all isBaseChar

def withoutSlash : List Char → List Char
  | '/' :: rest => rest
  | rest => rest

def baseNames (basePath : String) : List (List Char) :=
  match OpenApi.trimSlashes basePath.toList with
  | [] => []
  | path => Text.pieces '/' (withoutSlash path)

-- Nothing, or names between slashes; a slash may stand in front and slashes behind.
def isBasePath (basePath : String) : Bool :=
  (baseNames basePath).all isBaseName

theorem routeBase_eq (basePath : String) :
    Service.routeBase basePath = (baseNames basePath).flatMap ('/' :: ·) := by
  unfold Service.routeBase baseNames
  cases OpenApi.trimSlashes basePath.toList with
  | nil => rfl
  | cons c rest =>
    rw [Text.flatMap_pieces]
    by_cases slash : c = '/'
    next =>
      subst slash
      rfl
    next => simp [withoutSlash, slash]

theorem exists_append_trimSlashes (path : List Char) :
    ∃ slashes, path = OpenApi.trimSlashes path ++ slashes ∧ ∀ c ∈ slashes, c = '/' := by
  refine ⟨(path.reverse.takeWhile (· = '/')).reverse, ?_, ?_⟩
  next =>
    rw [OpenApi.trimSlashes, ← List.reverse_append, List.takeWhile_append_dropWhile, List.reverse_reverse]
  next =>
    intro c member
    simpa using List.mem_takeWhile_imp (List.mem_reverse.1 member)

theorem filter_pieces_slashes (path slashes : List Char) (all : ∀ c ∈ slashes, c = '/') :
    (Text.pieces '/' (path ++ slashes)).filter (· ≠ []) = (Text.pieces '/' path).filter (· ≠ []) := by
  induction slashes generalizing path with
  | nil => rw [List.append_nil]
  | cons c rest ih =>
    obtain rfl := all c List.mem_cons_self
    have blank := ih [] fun d member => all d (List.mem_cons_of_mem _ member)
    rw [List.nil_append] at blank
    rw [Text.pieces_append, List.filter_append, blank]
    simp [Text.pieces]

theorem filter_pieces_withoutSlash (path : List Char) :
    (Text.pieces '/' (withoutSlash path)).filter (· ≠ []) = (Text.pieces '/' path).filter (· ≠ []) := by
  unfold withoutSlash
  split
  next rest => simp [Text.pieces]
  next => rfl

theorem filter_baseNames (basePath : String) :
    (Text.pieces '/' basePath.toList).filter (· ≠ []) = (baseNames basePath).filter (· ≠ []) := by
  obtain ⟨slashes, shape, all⟩ := exists_append_trimSlashes basePath.toList
  rw [shape, filter_pieces_slashes _ slashes all, baseNames]
  split
  next empty =>
    rw [empty]
    rfl
  next => rw [filter_pieces_withoutSlash]

theorem baseNames_proper (basePath : String) (valid : isBasePath basePath = true) (name : List Char)
    (member : name ∈ baseNames basePath) : name ≠ [] ∧ ∀ c ∈ name, isBaseChar c = true := by
  simpa [isBaseName] using List.all_eq_true.1 valid name member

theorem basePathSegments_eq (basePath : String) (valid : isBasePath basePath = true) :
    basePathSegments basePath = (baseNames basePath).map .ofList := by
  have filled : (baseNames basePath).filter (· ≠ []) = baseNames basePath := by
    refine List.filter_eq_self.2 ?_
    intro name member
    exact decide_eq_true (baseNames_proper basePath valid name member).1
  rw [basePathSegments, filter_baseNames, filled]

theorem isBaseChar_of_isIdentifierChar (c : Char) (inside : isIdentifierChar c = true) :
    isBaseChar c = true := by
  simp [isBaseChar, inside]

theorem ne_of_isBaseChar (c mark : Char) (inside : isBaseChar c = true)
    (strange : isBaseChar mark = false) : c ≠ mark := by
  rintro rfl
  simp [strange] at inside

theorem isName_of_forall (text : List Char) (nonempty : text ≠ [])
    (plain : ∀ c ∈ text, isBaseChar c = true) : Url.IsName text := by
  refine ⟨nonempty, ?_⟩
  intro c member
  have apart := fun mark => ne_of_isBaseChar c mark (plain c member)
  have unbroken : Url.isBreak c = false := by
    simp [Url.isBreak, apart '\t' (by decide), apart '\n' (by decide), apart '\r' (by decide)]
  exact ⟨unbroken, apart '.' (by decide), apart ':' (by decide), apart '|' (by decide)⟩

theorem matchedText_of_forall (text : List Char) (plain : ∀ c ∈ text, isBaseChar c = true) :
    Service.matchedText text = text := by
  apply Service.matchedText_eq_self
  intro c member
  have apart := fun mark => ne_of_isBaseChar c mark (plain c member)
  exact ⟨apart '%' (by decide), apart '/' (by decide)⟩

theorem map_matchedText_baseNames (basePath : String) (valid : isBasePath basePath = true) :
    (baseNames basePath).map Service.matchedText = baseNames basePath := by
  refine (List.map_congr_left ?_).trans (List.map_id _)
  intro name member
  exact matchedText_of_forall name (baseNames_proper basePath valid name member).2

-- The texts that the URL of a record has behind the base path.
def recordTexts (resource id : String) : List (List Char) :=
  let text := Url.withoutBreaks id.toList
  if id = "." ∨ id = ".." then [resource.toList]
  else if text = ['.', '.'] then [[]]
  else if text = ['.'] then [resource.toList, []]
  else [resource.toList, text]

/-- An id that a URL can hold. -/
structure IsNameable (id : String) : Prop where
  nonempty : id ≠ ""
  dotless : id ≠ "." ∧ id ≠ ".."
  unbroken : ∀ c ∈ id.toList, Url.isBreak c = false

theorem recordTexts_of_isNameable (resource id : String) (nameable : IsNameable id) :
    recordTexts resource id = [resource.toList, id.toList] := by
  have whole := Url.withoutBreaks_eq_self id.toList nameable.unbroken
  have walks : id.toList ≠ ['.', '.'] ∧ id.toList ≠ ['.'] :=
    ⟨fun same => nameable.dotless.2 (String.toList_inj.1 same),
      fun same => nameable.dotless.1 (String.toList_inj.1 same)⟩
  simp only [recordTexts, whole, if_neg (not_or.2 nameable.dotless), if_neg walks.1, if_neg walks.2]

theorem targetOf_recordTexts (resource id : String)
    (record : Service.targetOf (recordTexts resource id) = some (.record resource id)) :
    IsNameable id := by
  simp only [recordTexts] at record
  split at record
  next => simp [Service.targetOf] at record
  next dots =>
    split at record
    next => simp [Service.targetOf] at record
    next =>
      split at record
      next => simp [Service.targetOf] at record
      next =>
        simp only [Service.targetOf] at record
        split at record
        next => cases record
        next filled =>
          have kept : String.ofList (Url.withoutBreaks id.toList) = id := by
            simpa using record
          have whole : Url.withoutBreaks id.toList = id.toList := by
            rw [← String.toList_ofList (l := Url.withoutBreaks id.toList), kept]
          refine ⟨?_, not_or.1 dots, ?_⟩
          next =>
            rintro rfl
            exact filled (.inr rfl)
          next =>
            intro c member
            simpa using List.filter_eq_self.1 whole c member

theorem recordTexts_eq_iff (resource id : String) (proper : Url.IsName resource.toList) :
    recordTexts resource id = [resource.toList] ↔ id = "." ∨ id = ".." := by
  simp only [recordTexts]
  split
  next dots => simp [dots]
  next dots =>
    simp only [dots, iff_false]
    split
    next => simpa using proper.nonempty.symm
    next => split <;> simp

def isSpecial (client : Client) : Bool :=
  Url.isSpecial client.base.scheme

def StandsUnder (client : Client) (basePath : String) : Prop :=
  Url.parts client.base.segments =
    (baseNames basePath).map (Url.escape (Url.segmentEscapes client.isSpecial))

theorem ofConfig_standsUnder (config : ClientConfig) (client : Client) (url : Url)
    (made : ofConfig config = .ok client) (read : Url.read config.baseUrl.toList = .ok (some url))
    (bare : url.segments = [] ∨ url.segments = [[]]) (valid : isBasePath config.basePath = true) :
    client.StandsUnder config.basePath := by
  have still : url.popBlank = url := by
    rw [Url.popBlank, if_neg]
    rcases bare with root | root <;> simp [root]
  have empty : Url.parts url.segments = [] := by
    rcases bare with root | root <;> simp [Url.parts, root]
  simp only [ofConfig, read, still, Except.ok.injEq] at made
  subst made
  have proper : ∀ name ∈ basePathSegments config.basePath, Url.IsName name.toList := by
    rw [basePathSegments_eq config.basePath valid]
    intro name member
    obtain ⟨text, inside, rfl⟩ := List.mem_map.1 member
    obtain ⟨nonempty, plain⟩ := baseNames_proper config.basePath valid text inside
    rw [String.toList_ofList]
    exact isName_of_forall text nonempty plain
  rw [StandsUnder, isSpecial, Url.scheme_foldl_push,
    Url.parts_foldl_push _ url proper (by simp [empty]), empty, List.nil_append,
    basePathSegments_eq config.basePath valid, List.map_map]
  refine List.map_congr_left ?_
  intro text _
  rw [Function.comp_apply, String.toList_ofList]

section

variable {client : Client} {basePath resource : String} (under : client.StandsUnder basePath)
  (valid : isBasePath basePath = true) (proper : Url.IsName resource.toList)

include valid proper

theorem texts_filled : ∀ text ∈ baseNames basePath ++ [resource.toList], text ≠ [] := by
  intro text member
  rcases List.mem_append.1 member with member | member
  next => exact (baseNames_proper basePath valid text member).1
  next => rw [List.mem_singleton.1 member]; exact proper.nonempty

include under

theorem segments_rowsUrl :
    (client.resourceUrl resource none).segments =
      (baseNames basePath ++ [resource.toList]).map
        (Url.escape (Url.segmentEscapes client.isSpecial)) := by
  have filled : ∀ part ∈ Url.parts client.base.segments, part ≠ [] := by
    rw [under]
    exact Url.map_escape_filled _ _ fun name member => (baseNames_proper basePath valid name member).1
  change (client.base.push resource).segments = _
  rw [Url.segments_push_name client.base resource proper filled, under, List.map_append]
  rfl

theorem segments_recordUrl (id : String) :
    (client.resourceUrl resource (some id)).segments =
      (baseNames basePath ++ recordTexts resource id).map
        (Url.escape (Url.segmentEscapes client.isSpecial)) := by
  have rows := segments_rowsUrl under valid proper
  change ((client.resourceUrl resource none).push id).segments = _
  by_cases dots : id = "." ∨ id = ".."
  next => rw [Url.push, if_pos dots, rows, recordTexts, if_pos dots]
  next =>
    have written := Url.escape_ne_nil client.isSpecial resource.toList proper.nonempty
    have whole : Url.parts (client.resourceUrl resource none).segments =
        (baseNames basePath ++ [resource.toList]).map
          (Url.escape (Url.segmentEscapes client.isSpecial)) := by
      rw [rows, List.map_append]
      exact Url.parts_concat _ _ written
    have filled : ∀ part ∈ Url.parts (client.resourceUrl resource none).segments, part ≠ [] := by
      rw [whole]
      exact Url.map_escape_filled _ _ (texts_filled valid proper)
    have scheme : Url.isSpecial (client.resourceUrl resource none).scheme = client.isSpecial :=
      congrArg Url.isSpecial (Url.scheme_push client.base resource)
    rw [Url.segments_push _ id (not_or.1 dots) filled (by simp [whole]), whole, scheme, List.map_append,
      List.map_singleton, List.map_append]
    simp only [Url.walk, recordTexts, if_neg dots, Url.shorten_concat _ _ (proper.isDrive_escape _)]
    split
    next => simp
    next => split <;> simp

theorem path_recordUrl (id : String) :
    (client.resourceUrl resource (some id)).path =
      Service.pathOf client.isSpecial (baseNames basePath) (recordTexts resource id) := by
  rw [Url.path, segments_recordUrl under valid proper id, Service.pathOf]

theorem resourceUrl_inj {left right : String}
    (same : client.resourceUrl resource (some left) = client.resourceUrl resource (some right)) :
    recordTexts resource left = recordTexts resource right := by
  have segments := congrArg Url.segments same
  rw [segments_recordUrl under valid proper left, segments_recordUrl under valid proper right] at segments
  exact List.append_cancel_left (Url.map_escape_injective client.isSpecial segments)

theorem resourceUrl_eq_rows_iff (id : String) :
    client.resourceUrl resource (some id) = client.resourceUrl resource none ↔ id = "." ∨ id = ".." := by
  constructor
  next =>
    intro same
    have segments := congrArg Url.segments same
    rw [segments_recordUrl under valid proper id, segments_rowsUrl under valid proper] at segments
    have texts := List.append_cancel_left (Url.map_escape_injective client.isSpecial segments)
    exact (recordTexts_eq_iff resource id proper).1 texts
  next =>
    intro dots
    exact if_pos dots

end

/-- The URLs of the records of a resource, as a service under the base path reads them. -/
structure Addresses (client : Client) (basePath resource : String) : Prop where
  named : ∀ id, IsNameable id → ∀ openApiEnabled method,
    Service.route? basePath openApiEnabled method (client.resourceUrl resource (some id)).path =
      (Service.Target.record resource id).route? method
  only : ∀ id openApiEnabled method route,
    (Service.Target.record resource id).route? method = some route →
      Service.route? basePath openApiEnabled method (client.resourceUrl resource (some id)).path =
        some route → IsNameable id
  distinct : ∀ left right, IsNameable left → IsNameable right →
    client.resourceUrl resource (some left) = client.resourceUrl resource (some right) → left = right
  rows : ∀ id,
    client.resourceUrl resource (some id) = client.resourceUrl resource none ↔ id = "." ∨ id = ".."

/-- A client whose base URL has no path of its own names, with an id that a URL can hold, the record with
that id, and with no other id. -/
theorem ofConfig_addresses (config : ClientConfig) (client : Client) (url : Url)
    (made : ofConfig config = .ok client) (read : Url.read config.baseUrl.toList = .ok (some url))
    (bare : url.segments = [] ∨ url.segments = [[]]) (valid : isBasePath config.basePath = true)
    (resource : String) (identifier : isIdentifier resource = true) :
    client.Addresses config.basePath resource := by
  have under := ofConfig_standsUnder config client url made read bare valid
  have nonempty := ne_nil_of_isIdentifierText resource.toList identifier
  have proper : Url.IsName resource.toList := isName_of_forall _ nonempty fun c member =>
    isBaseChar_of_isIdentifierChar c (isIdentifierChar_of_mem _ identifier c member)
  have base : Service.routeBase config.basePath =
      ((baseNames config.basePath).map Service.matchedText).flatMap ('/' :: ·) := by
    rw [map_matchedText_baseNames config.basePath valid, routeBase_eq]
  constructor
  next =>
    intro id nameable openApiEnabled method
    have filled : id.toList ≠ [] := fun empty => nameable.nonempty (String.toList_inj.1 empty)
    rw [path_recordUrl under valid proper id,
      recordTexts_of_isNameable resource id nameable,
      Service.route?_record base _ _ _ _ ⟨nonempty, filled⟩, String.ofList_toList, String.ofList_toList]
  next =>
    intro id openApiEnabled method route named taken
    rw [path_recordUrl under valid proper id] at taken
    exact targetOf_recordTexts resource id (Service.targetOf_of_route? base _ _ named taken)
  next =>
    intro left right first second same
    have texts := resourceUrl_inj under valid proper same
    rw [recordTexts_of_isNameable resource left first, recordTexts_of_isNameable resource right second]
      at texts
    exact String.toList_inj.1 (by simpa using texts)
  next => exact resourceUrl_eq_rows_iff under valid proper

def localConfig : ClientConfig where
  baseUrl := "http://localhost:3000"
  basePath := "/api/v-1/"

def localUrl : Url where
  scheme := "http".toList
  authority := some { host := "localhost".toList, port := some 3000 }
  segments := [[]]

def localClient : Client where
  base := { localUrl with segments := ["api".toList, "v-1".toList] }

-- An id of marks, one of them an escape that is not one.
theorem ofConfig_addresses_marks :
    Service.route? "/api/v-1/" true .get (localClient.resourceUrl "users" (some "a/b %2e+é?")).path =
      some (.fetch "users" "a/b %2e+é?") :=
  (ofConfig_addresses localConfig localClient localUrl rfl rfl (.inr rfl) (by decide) "users"
    (by decide)).named "a/b %2e+é?" ⟨by decide, by decide, by simp [Url.isBreak]⟩ true .get

theorem resourceUrl_of_marks :
    localClient.resourceUrl "users" (some "a\tb") = localClient.resourceUrl "users" (some "ab") ∧
      localClient.resourceUrl "users" (some ".") = localClient.resourceUrl "users" none := by
  decide

end RowGate.Client
