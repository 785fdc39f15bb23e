import RowGate.Proofs.Client.Addressing
import RowGate.Proofs.OpenApi.Document
import RowGate.Proofs.Service.Segments
import RowGate.Service.Standalone

set_option autoImplicit false

namespace RowGate

namespace OpenApi

/-- The document has an operation with this method under this path. -/
def Document.Documents (document : Document) (method : Method) (path : String) : Prop :=
  ∃ operations, (path, operations) ∈ document.paths ∧
    ∃ operation ∈ operations, operation.method = method

def idSegment : List Char := "\x7bid\x7d".toList

def filled (template : String) (id : List Char) : List (List Char) :=
  (Text.pieces '/' template.toList).map fun piece => if piece = idSegment then id else piece

def instantiate (template : String) (segment : List Char) : List Char :=
  Text.join '/' (filled template segment)

end OpenApi

namespace Service

open Client (baseNames isBasePath)

namespace Target

def slug : Target → String
  | .rows slug => slug
  | .record slug _ => slug

def id? : Target → Option String
  | .rows _ => none
  | .record _ id => some id

def template (base : String) : Target → String
  | .rows slug => OpenApi.listPath base slug
  | .record slug _ => OpenApi.recordPath base slug

def segments (id : List Char) : Target → List (List Char)
  | .rows slug => [slug.toList]
  | .record slug _ => [slug.toList, id]

theorem template_toList (base : String) (target : Target) :
    (target.template base).toList =
      base.toList ++ (target.segments OpenApi.idSegment).flatMap ('/' :: ·) := by
  cases target with
  | rows slug => simp [template, segments, OpenApi.listPath_toList]
  | record slug id => simp [template, segments, OpenApi.recordPath_toList, OpenApi.idSegment]

theorem slash_not_mem_segments (target : Target) (named : isIdentifier target.slug = true)
    (id : List Char) (single : '/' ∉ id) (part : List Char) (member : part ∈ target.segments id) :
    '/' ∉ part := by
  have solid := not_mem_of_isIdentifierText _ named '/' (by decide)
  cases target with
  | rows slug =>
    obtain rfl := List.mem_singleton.mp member
    exact solid
  | record slug _ =>
    rcases List.mem_cons.mp member with rfl | last
    next => exact solid
    next =>
      obtain rfl := List.mem_singleton.mp last
      exact single

theorem ne_fixed_of_route? {target : Target} {method : Method} {handler : Route}
    (handled : target.route? method = some handler) : handler ≠ .health ∧ handler ≠ .document := by
  cases target <;> cases method <;> simp [route?] at handled <;> simp [← handled]

theorem segments_of_target? (rest : List Char) (target : Target) (found : target? rest = some target) :
    ∃ parts : List (List Char), (∀ part ∈ parts, '/' ∉ part) ∧ rest = parts.flatMap ('/' :: ·) ∧
      parts.map decodeSegment =
        (target.segments (target.id?.getD "").toList).map String.ofList := by
  unfold target? at found
  split at found
  next more =>
    refine ⟨Text.pieces '/' more, Text.not_mem_of_mem_pieces '/' more,
      (Text.flatMap_pieces '/' more).symm, ?_⟩
    split at found
    next slug cut =>
      split at found
      next => cases found
      next =>
        cases found
        simp [cut, segments]
    next slug id cut =>
      split at found
      next => cases found
      next =>
        cases found
        simp [cut, segments, id?]
    next => cases found
  next => cases found

theorem target?_segments (target : Target) (named : isIdentifier target.slug = true) (id : List Char)
    (single : '/' ∉ id) (nonempty : id ≠ []) (decoded : ∀ text ∈ target.id?, text = decodeSegment id) :
    target? ((target.segments id).flatMap ('/' :: ·)) = some target := by
  have cut := Text.pieces_join '/' (target.segments id) (by cases target <;> simp [segments])
    (target.slash_not_mem_segments named id single)
  have filled := ne_nil_of_isIdentifierText _ named
  have plain := decode_of_unescaped _ (not_mem_of_isIdentifierText _ named '%' (by decide))
  cases target with
  | rows slug =>
    change slug.toList ≠ [] at filled
    change Text.Percent.decode slug.toList = slug.toList at plain
    simp only [segments] at cut ⊢
    rw [Text.flatMap_separator, target?, cut]
    simp [filled, decodeSegment, plain]
  | record slug text =>
    change slug.toList ≠ [] at filled
    change Text.Percent.decode slug.toList = slug.toList at plain
    obtain rfl := decoded text rfl
    simp only [segments] at cut ⊢
    rw [Text.flatMap_separator, target?, cut]
    simp [filled, nonempty, decodeSegment, plain]

end Target

theorem eq_append_of_afterBase? (base path rest : List Char) (after : afterBase? base path = some rest) :
    path = base ++ rest := by
  fun_induction afterBase? base path with
  | case1 path => exact Option.some.inj after
  | case2 => cases after
  | case3 base c path ih => rw [ih after, List.cons_append]
  | case4 => cases after

theorem baseText_toList (basePath : String) (led : ∀ c ∈ basePath.toList.head?, c = '/') :
    (OpenApi.baseText basePath).toList = routeBase basePath := by
  obtain ⟨slashes, shape, -⟩ := Client.exists_append_trimSlashes basePath.toList
  rw [OpenApi.baseText, String.toList_ofList, routeBase]
  cases trimmed : OpenApi.trimSlashes basePath.toList with
  | nil => rfl
  | cons c rest =>
    rw [trimmed, List.cons_append] at shape
    obtain rfl := led c (by rw [shape]; rfl)
    rfl

section

variable (basePath : String) (valid : isBasePath basePath = true)

include valid

theorem not_mem_baseNames (name : List Char) (member : name ∈ baseNames basePath) (mark : Char)
    (special : Client.isBaseChar mark = false) : mark ∉ name := by
  intro inside
  have plain := (Client.baseNames_proper basePath valid name member).2 mark inside
  rw [special] at plain
  cases plain

theorem map_matchedPath_baseNames : (baseNames basePath).map matchedPath = baseNames basePath := by
  refine (List.map_congr_left fun name member => ?_).trans (List.map_id _)
  exact matchedPath_of_unescaped name (not_mem_baseNames basePath valid name member '%' (by decide))

theorem map_decodeSegment_baseNames :
    (baseNames basePath).map decodeSegment = (baseNames basePath).map String.ofList := by
  refine List.map_congr_left fun name member => ?_
  rw [decodeSegment,
    decode_of_unescaped name (not_mem_baseNames basePath valid name member '%' (by decide))]

variable (target : Target) (named : isIdentifier target.slug = true)

include named

theorem slash_not_mem_path (id : List Char) (single : '/' ∉ id) :
    ∀ part ∈ baseNames basePath ++ target.segments id, '/' ∉ part := by
  intro part member
  rcases List.mem_append.mp member with name | segment
  next => exact not_mem_baseNames basePath valid part name '/' (by decide)
  next => exact target.slash_not_mem_segments named id single part segment

-- The fixed path has one segment, so no path of a record is the same.
theorem path_eq_healthPath_iff (led : ∀ c ∈ basePath.toList.head?, c = '/') (id : List Char)
    (single : '/' ∉ id) :
    (baseNames basePath ++ target.segments id).flatMap ('/' :: ·) = healthPath ↔
      target.template (OpenApi.baseText basePath) = "/health" := by
  have text := target.template_toList (OpenApi.baseText basePath)
  rw [baseText_toList basePath led, Client.routeBase_eq, ← List.flatMap_append] at text
  rw [← String.toList_inj, text]
  have apart (slug : String) (other : List Char)
      (parts : ∀ part ∈ baseNames basePath ++ [slug.toList, other], '/' ∉ part) :
      (baseNames basePath ++ [slug.toList, other]).flatMap ('/' :: ·) ≠ healthPath := by
    intro same
    have cut := Text.pieces_flatMap '/' _ parts
    have one : (Text.pieces '/' healthPath).length = 2 := by decide
    rw [same] at cut
    rw [cut] at one
    simp at one
  cases target with
  | rows slug => rfl
  | record slug _ =>
    have here := apart slug id (slash_not_mem_path basePath valid _ named id single)
    have listed := apart slug OpenApi.idSegment
      (slash_not_mem_path basePath valid _ named OpenApi.idSegment (by decide))
    exact iff_of_false here listed

theorem filled_template (led : ∀ c ∈ basePath.toList.head?, c = '/') (id : List Char) :
    OpenApi.filled (target.template (OpenApi.baseText basePath)) id =
      [] :: (baseNames basePath ++ target.segments id) := by
  have single : '/' ∉ OpenApi.idSegment := by decide
  have names : ∀ name ∈ baseNames basePath, name ≠ OpenApi.idSegment := by
    rintro name member rfl
    exact not_mem_baseNames basePath valid _ member '\x7b' (by decide) (by decide)
  have slug : target.slug.toList ≠ OpenApi.idSegment := by
    intro same
    exact not_mem_of_isIdentifierText _ named '\x7b' (by decide) (same ▸ by decide)
  have kept : (baseNames basePath).map
      (fun piece => if piece = OpenApi.idSegment then id else piece) = baseNames basePath := by
    refine (List.map_congr_left fun name member => ?_).trans (List.map_id _)
    rw [if_neg (names name member), id_eq]
  have behind : (target.segments OpenApi.idSegment).map
      (fun piece => if piece = OpenApi.idSegment then id else piece) = target.segments id := by
    cases target <;> simp only [Target.slug] at slug <;> simp [Target.segments, slug]
  have apart := slash_not_mem_path basePath valid target named _ single
  rw [OpenApi.filled, Target.template_toList, baseText_toList basePath led, Client.routeBase_eq,
    ← List.flatMap_append, Text.pieces_flatMap '/' _ apart, List.map_cons, List.map_append, kept, behind]
  rfl

theorem matchedPath_instantiate (led : ∀ c ∈ basePath.toList.head?, c = '/') (segment : List Char) :
    matchedPath (OpenApi.instantiate (target.template (OpenApi.baseText basePath)) segment) =
      (baseNames basePath ++ target.segments (matchedPath segment)).flatMap ('/' :: ·) := by
  have slug := matchedPath_of_unescaped _ (not_mem_of_isIdentifierText _ named '%' (by decide))
  have behind : (target.segments segment).map matchedPath = target.segments (matchedPath segment) := by
    cases target <;> simpa [Target.segments, Target.slug] using slug
  rw [OpenApi.instantiate, filled_template basePath valid target named led, Text.join_nil_cons,
    matchedPath_flatMap, List.map_append, map_matchedPath_baseNames basePath valid, behind]

theorem route?_instantiate (led : ∀ c ∈ basePath.toList.head?, c = '/') (openApiEnabled : Bool)
    (method : Method) (handler : Route) (handled : target.route? method = some handler)
    (segment : List Char) (nonempty : segment ≠ []) (single : '/' ∉ segment)
    (decoded : ∀ text ∈ target.id?, text = segmentText segment) :
    route? basePath openApiEnabled method
        (OpenApi.instantiate (target.template (OpenApi.baseText basePath)) segment) =
      if method = .get ∧ target.template (OpenApi.baseText basePath) = "/health" then some .health
      else some handler := by
  have apart := slash_not_mem_matchedPath segment single
  have health := path_eq_healthPath_iff basePath valid target named led (matchedPath segment) apart
  have document : (target.segments (matchedPath segment)).flatMap ('/' :: ·) ≠ documentPath := by
    intro same
    have cut := Text.pieces_flatMap '/' _ (target.slash_not_mem_segments named _ apart)
    have whole : Text.pieces '/' documentPath = [[], "openapi.json".toList] := by decide
    rw [same, whole] at cut
    cases target with
    | rows slug =>
      obtain same : "openapi.json".toList = slug.toList := by simpa [Target.segments] using cut
      exact not_mem_of_isIdentifierText _ named '.' (by decide) (same ▸ by decide)
    | record slug id => simp [Target.segments] at cut
  rw [route?, matchedPath_instantiate basePath valid target named led]
  simp only [health]
  split
  next => rfl
  next =>
    rw [List.flatMap_append, ← Client.routeBase_eq, afterBase?_append]
    change (if _ then _ else (target? _).bind _) = _
    rw [if_neg fun taken => document taken.2.2,
      target.target?_segments named _ apart (matchedPath_ne_nil segment nonempty) decoded]
    exact handled

theorem segmentTexts_of_route? (led : ∀ c ∈ basePath.toList.head?, c = '/') (openApiEnabled : Bool)
    (method : Method) (handler : Route) (handled : target.route? method = some handler)
    (path : List Char) (taken : route? basePath openApiEnabled method path = some handler) :
    segmentTexts path =
      (OpenApi.filled (target.template (OpenApi.baseText basePath)) (target.id?.getD "").toList).map
        String.ofList := by
  obtain ⟨notHealth, notDocument⟩ := Target.ne_fixed_of_route? handled
  simp only [route?] at taken
  split at taken
  next => exact absurd (Option.some.inj taken).symm notHealth
  next =>
    obtain ⟨rest, after, taken⟩ := Option.bind_eq_some_iff.mp taken
    split at taken
    next => exact absurd (Option.some.inj taken).symm notDocument
    next =>
      obtain ⟨other, found, routed⟩ := Option.bind_eq_some_iff.mp taken
      obtain rfl := Target.eq_of_route? routed handled
      obtain ⟨parts, apart, rfl, decoded⟩ := Target.segments_of_target? rest other found
      have whole := eq_append_of_afterBase? _ _ _ after
      rw [Client.routeBase_eq, ← List.flatMap_append] at whole
      have single : ∀ part ∈ baseNames basePath ++ parts, '/' ∉ part := by
        intro part member
        rcases List.mem_append.mp member with name | segment
        next => exact not_mem_baseNames basePath valid part name '/' (by decide)
        next => exact apart part segment
      rw [segmentTexts_eq, whole, Text.pieces_flatMap '/' _ single,
        filled_template basePath valid other named led, List.map_cons, List.map_append,
        map_decodeSegment_baseNames basePath valid, decoded, List.map_cons, List.map_append]
      rfl

end

theorem documents_iff (registry : Registry) (made : registry.Made) (basePath : String)
    (method : Method) (path id : String) :
    (OpenApi.document registry basePath).Documents method path ↔
      ∃ (target : Target) (handler : Route) (resource : Resource),
        registry.get target.slug = .ok resource ∧
          target.template (OpenApi.baseText basePath) = path ∧
          (∀ text ∈ target.id?, text = id) ∧ target.route? method = some handler := by
  have listed := OpenApi.mem_paths_iff registry basePath made path
  constructor
  next =>
    rintro ⟨operations, member, operation, stated, rfl⟩
    obtain ⟨resource, present, entry⟩ := (listed operations).mp member
    have registered := (made.get_eq_ok_iff _ _).mpr ⟨present, rfl⟩
    rcases List.mem_cons.mp entry with same | last
    next =>
      cases same
      simp only [OpenApi.listOperations, List.mem_cons, List.not_mem_nil, or_false] at stated
      rcases stated with rfl | rfl <;>
        exact ⟨.rows resource.slug, _, resource, registered, rfl, by simp [Target.id?], rfl⟩
    next =>
      cases List.mem_singleton.mp last
      simp only [OpenApi.recordOperations, List.mem_cons, List.not_mem_nil, or_false] at stated
      rcases stated with rfl | rfl | rfl | rfl <;>
        exact ⟨.record resource.slug id, _, resource, registered, rfl, by simp [Target.id?], rfl⟩
  next =>
    rintro ⟨target, handler, resource, registered, rfl, -, handled⟩
    obtain ⟨present, slug⟩ := (made.get_eq_ok_iff _ _).mp registered
    cases target with
    | rows name =>
      obtain rfl : resource.slug = name := slug
      refine ⟨OpenApi.listOperations resource,
        (listed _).mpr ⟨resource, present, List.mem_cons_self⟩, ?_⟩
      cases method <;> simp [Target.route?] at handled <;> simp [OpenApi.listOperations]
    | record name _ =>
      obtain rfl : resource.slug = name := slug
      refine ⟨OpenApi.recordOperations resource,
        (listed _).mpr ⟨resource, present, List.mem_cons_of_mem _ List.mem_cons_self⟩, ?_⟩
      cases method <;> simp [Target.route?] at handled <;> simp [OpenApi.recordOperations]

/-- Every documented operation is routed to its handler with the slug and the id of its path, unless it
shares its path with the health check; and whatever is routed to a resource is documented. -/
theorem documented_routes (host : Host) (config : Config) (service : Service) (initial : Store)
    (started : start host config = .ok (service, initial))
    (valid : isBasePath config.service.basePath = true)
    (led : ∀ c ∈ config.service.basePath.toList.head?, c = '/') :
    let document := OpenApi.document service.registry service.basePath
    let base := OpenApi.baseText service.basePath
    let routed := route? service.basePath service.openApiEnabled
    (∀ method template segment, document.Documents method template → segment ≠ [] → '/' ∉ segment →
      ∃ (target : Target) (handler : Route) (resource : Resource),
        service.registry.get target.slug = .ok resource ∧
        target.template base = template ∧
        (∀ id ∈ target.id?, id = segmentText segment ∧ ('%' ∉ segment → id = .ofList segment)) ∧
        target.route? method = some handler ∧
        routed method (OpenApi.instantiate template segment) =
          if method = .get ∧ template = "/health" then some .health else some handler) ∧
    ∀ method path (target : Target) handler resource, target.route? method = some handler →
      routed method path = some handler → service.registry.get target.slug = .ok resource →
      document.Documents method (target.template base) ∧
        segmentTexts path =
          (OpenApi.filled (target.template base) (target.id?.getD "").toList).map .ofList := by
  obtain ⟨registry, read, started⟩ := (bind_eq_ok_iff _ _ _).mp started
  cases started
  have made := Registry.made_of_ofConfigs config.resources registry read
  intro document base routed
  constructor
  next =>
    intro method template segment documented nonempty single
    obtain ⟨target, handler, resource, registered, rfl, decoded, handled⟩ :=
      (documents_iff registry made _ method template (segmentText segment)).mp documented
    have named := registry.isIdentifier_of_get _ _ registered
    refine ⟨target, handler, resource, registered, rfl, fun id stated => ⟨decoded id stated, ?_⟩, handled,
      route?_instantiate config.service.basePath valid target named led _ method handler handled
        segment nonempty single decoded⟩
    intro plain
    rw [decoded id stated, segmentText_of_unescaped segment plain]
  next =>
    intro method path target handler resource handled taken registered
    have named := registry.isIdentifier_of_get _ _ registered
    have only : ∀ text ∈ target.id?, text = target.id?.getD "" := by
      intro text stated
      rw [Option.mem_def.mp stated, Option.getD_some]
    exact ⟨(documents_iff registry made _ method _ _).mpr
        ⟨target, handler, resource, registered, rfl, only, handled⟩,
      segmentTexts_of_route? config.service.basePath valid target named led _ method handler handled
        path taken⟩

def healthConfig (basePath : String) : Config where
  service := { basePath }
  resources := [{ slug := "health" }]

def healthService (basePath : String) : Service where
  host := .standalone
  registry := { resources := [("health", { slug := "health" })] }
  basePath := basePath

def healthStore : Store where
  newKey := Store.keyText
  tables := [("health", { schema := { name := "health" } })]

theorem documented_routes_health :
    (∃ (target : Target) (handler : Route), target.template "/api" = "/api/health/\x7bid\x7d" ∧
      target.route? .patch = some handler ∧
      route? "/api" true .patch "/api/health/a%20b".toList = some handler) ∧
    (OpenApi.document (healthService "/api").registry "/api").Documents .get "/api/health/\x7bid\x7d" ∧
    segmentTexts "/api/he%61lth/7".toList = ["", "api", "health", "7"] := by
  obtain ⟨forward, backward⟩ := documented_routes .standalone (healthConfig "/api")
    (healthService "/api") healthStore rfl (by decide) (by simp [healthConfig])
  have made : (healthService "/api").registry.Made := .register {} _ { slug := "health" } .empty rfl
  have documented := (documents_iff _ made "/api" .patch "/api/health/\x7bid\x7d" "").mpr
    ⟨.record "health" "", _, { slug := "health" }, rfl, by decide, by simp [Target.id?], rfl⟩
  obtain ⟨target, handler, resource, -, listed, -, handled, routed⟩ :=
    forward .patch _ "a%20b".toList documented (by decide) (by decide)
  obtain ⟨described, texts⟩ := backward .get "/api/he%61lth/7".toList (.record "health" "7") _
    { slug := "health" } rfl (by decide +kernel) rfl
  exact ⟨⟨target, handler, listed, handled, routed⟩, described, texts⟩

theorem health_of_documented :
    start .standalone (healthConfig "") = .ok (healthService "", healthStore) ∧
      isBasePath "" = true ∧
      (OpenApi.document (healthService "").registry "").Documents .get "/health" ∧
      Target.route? (.rows "health") .get = some (.list "health") ∧
      OpenApi.instantiate "/health" ['1'] = "/health".toList ∧
      route? "" true .get "/health".toList = some .health := by
  have made : (healthService "").registry.Made := .register {} _ { slug := "health" } .empty rfl
  have documented := (documents_iff _ made "" .get "/health" "").mpr
    ⟨.rows "health", _, { slug := "health" }, rfl, by decide, by simp [Target.id?], rfl⟩
  exact ⟨rfl, by decide, documented, rfl, by decide, by decide +kernel⟩

end Service

end RowGate
