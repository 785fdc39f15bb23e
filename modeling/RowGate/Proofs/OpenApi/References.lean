import RowGate.OpenApi.Json
import RowGate.Proofs.OpenApi.Document

set_option autoImplicit false

namespace RowGate

namespace Json

mutual

def references : Json → List String
  | .array items => itemReferences items
  | .object fields => fieldReferences fields
  | _ => []

def itemReferences : List Json → List String
  | [] => []
  | item :: rest => references item ++ itemReferences rest

def fieldReferences : List (String × Json) → List String
  | [] => []
  | (key, value) :: rest =>
    (if key = "$ref" then value.asString?.toList else []) ++ references value ++ fieldReferences rest

end

def fieldReference (field : String × Json) : List String :=
  (if field.1 = "$ref" then field.2.asString?.toList else []) ++ field.2.references

theorem references_array (items : List Json) :
    (Json.array items).references = items.flatMap references := by
  rw [references]
  induction items with
  | nil => rfl
  | cons item rest ih => rw [itemReferences, ih, List.flatMap_cons]

theorem references_object (fields : List (String × Json)) :
    (Json.object fields).references = fields.flatMap fieldReference := by
  rw [references]
  induction fields with
  | nil => rfl
  | cons field rest ih =>
    obtain ⟨key, value⟩ := field
    rw [fieldReferences, ih, List.flatMap_cons, fieldReference]

theorem references_object_map {Item : Type} (items : List Item) (field : Item → String × Json)
    (silent : ∀ item, fieldReference (field item) = []) : (object (items.map field)).references = [] := by
  rw [references_object, List.flatMap_map, List.flatMap_eq_nil_iff]
  intro item _
  exact silent item

@[simp] theorem references_string (text : String) : (Json.string text).references = [] := by
  rw [references] <;> simp

@[simp] theorem references_bool (value : Bool) : (Json.bool value).references = [] := by
  rw [references] <;> simp

theorem fieldReference_object (key : String) (fields : List (String × Json)) :
    fieldReference (key, .object fields) = (Json.object fields).references := by
  simp [fieldReference, asString?]

theorem fieldReference_array (key : String) (items : List Json) :
    fieldReference (key, .array items) = items.flatMap references := by
  simp [fieldReference, asString?, references_array]

theorem fieldReference_bool (key : String) (value : Bool) : fieldReference (key, .bool value) = [] := by
  simp [fieldReference, asString?]

theorem fieldReference_string (key text : String) (plain : key ≠ "$ref") :
    fieldReference (key, .string text) = [] := by
  rw [fieldReference, if_neg plain, references_string, List.append_nil]

theorem references_strings (items : List String) : (Json.strings items).references = [] := by
  rw [strings, references_array]
  simp

-- The entries may repeat a key, of which `ofFields` keeps one value.
theorem references_ofFields_eq_nil (entries : List (String × Json))
    (silent : ∀ entry ∈ entries, fieldReference entry = []) : (ofFields entries).references = [] := by
  rw [ofFields, references_object, List.flatMap_eq_nil_iff]
  intro entry member
  exact silent entry (Keyed.mem_of_mem_ofEntries entries entry member)

end Json

/-- The relation is the last of its name. -/
def Schema.Shows (schema : Schema) (relation : Relation) : Prop :=
  schema.relations.reverse.find? (·.name = relation.name) = some relation

instance (schema : Schema) (relation : Relation) : Decidable (schema.Shows relation) :=
  inferInstanceAs (Decidable (_ = _))

theorem Schema.Shows.mem {schema : Schema} {relation : Relation} (shown : schema.Shows relation) :
    relation ∈ schema.relations :=
  List.mem_reverse.mp (List.mem_of_find?_eq_some shown)

namespace OpenApi

open Json

def referenceText (name : String) : String :=
  "#/components/schemas/" ++ name

theorem referenceText_inj (left right : String) (same : referenceText left = referenceText right) :
    left = right := by
  unfold referenceText at same
  have texts := congrArg String.toList same
  rw [String.toList_append, String.toList_append] at texts
  exact String.toList_inj.mp (List.append_cancel_left texts)

theorem references_columnSchema (column : Column) : (columnSchema column).references = [] := by
  refine references_ofFields_eq_nil _ ?_
  have described : ∀ entry ∈ column.description.toList.map fun text =>
      ("description", Json.string text), fieldReference entry = [] := by
    simp [fieldReference_string]
  have formatted : ∀ entry ∈ (format? column.dataType).toList.map fun text =>
      ("format", Json.string text), fieldReference entry = [] := by
    simp [fieldReference_string]
  simp only [List.forall_mem_append]
  refine ⟨⟨⟨?_, described⟩, formatted⟩, ?_⟩
  next => simp [fieldReference_string]
  next => split <;> simp [fieldReference_bool]

theorem references_relationSchema (relation : Relation) :
    (relationSchema relation).references = [referenceText relation.table] := by
  have reference : (schemaReference relation.table).references = [referenceText relation.table] := by
    rw [schemaReference, ofFields, references_object]
    rfl
  unfold relationSchema
  split
  next =>
    have sorted : ofFields [("type", .string "array"), ("items", schemaReference relation.table)] =
        .object [("items", schemaReference relation.table), ("type", .string "array")] := by
      refine congrArg object (Keyed.ofEntries_eq_of_perm _ _ ?_ (.swap _ _ _))
      simp only [Keyed.Sorted, Keyed.keys, List.map]
      decide
    rw [sorted, references_object]
    simp [fieldReference_string, schemaReference, ofFields, fieldReference_object]
    exact reference
  next => exact reference

def columnEntry (column : Column) : String × Json :=
  (column.name, columnSchema column)

def relationEntry (relation : Relation) : String × Json :=
  (relation.name, relationSchema relation)

theorem get?_relationEntries (relations : List Relation) (key : String) :
    Keyed.get? (relations.map relationEntry) key =
      (relations.find? (·.name = key)).map relationSchema := by
  induction relations with
  | nil => rfl
  | cons relation rest ih =>
    by_cases same : relation.name = key <;> simp [relationEntry, Keyed.get?, same, ih]

theorem get?_columnEntries (columns : List Column) (key : String) (value : Json)
    (found : Keyed.get? (columns.map columnEntry) key = some value) :
    ∃ column ∈ columns, value = columnSchema column := by
  have member := Keyed.mem_keys_of_get? _ key value found
  obtain ⟨column, listed, made⟩ := List.mem_map.mp member
  cases made
  exact ⟨column, listed, rfl⟩

theorem mem_references_properties (schema : Schema) (text : String) :
    text ∈ (ofFields (schema.columns.map columnEntry ++ schema.relations.map relationEntry)).references ↔
      ∃ relation, schema.Shows relation ∧ referenceText relation.table = text := by
  have sorted := Keyed.sorted_ofEntries
    (schema.columns.map columnEntry ++ schema.relations.map relationEntry)
  have looked (key : String) : Keyed.get? (Keyed.ofEntries
      (schema.columns.map columnEntry ++ schema.relations.map relationEntry)) key =
      ((schema.relations.reverse.find? (·.name = key)).map relationSchema).or
        (Keyed.get? (schema.columns.reverse.map columnEntry) key) := by
    rw [Keyed.get?_ofEntries, List.reverse_append, Keyed.get?_append, ← List.map_reverse,
      ← List.map_reverse, get?_relationEntries]
  have stated (relation : Relation) :
      fieldReference (relation.name, relationSchema relation) = [referenceText relation.table] := by
    obtain ⟨fields, object⟩ : ∃ fields, relationSchema relation = .object fields := by
      unfold relationSchema
      split <;> exact ⟨_, rfl⟩
    rw [object, fieldReference_object, ← object, references_relationSchema]
  rw [ofFields, references_object, List.mem_flatMap]
  constructor
  next =>
    rintro ⟨⟨key, value⟩, member, stood⟩
    have found := sorted.get?_of_mem key value member
    rw [looked] at found
    rcases Option.or_eq_some_iff.mp found with declared | ⟨-, plain⟩
    next =>
      obtain ⟨relation, last, rfl⟩ := Option.map_eq_some_iff.mp declared
      obtain rfl : relation.name = key := by simpa using List.find?_some last
      rw [stated, List.mem_singleton] at stood
      exact ⟨relation, last, stood.symm⟩
    next =>
      obtain ⟨column, -, rfl⟩ := get?_columnEntries schema.columns.reverse key value plain
      have silent : fieldReference (key, columnSchema column) = [] :=
        (fieldReference_object key _).trans (references_columnSchema column)
      rw [silent] at stood
      cases stood
  next =>
    rintro ⟨relation, shown, rfl⟩
    have found := looked relation.name
    rw [shown, Option.map_some, Option.some_or] at found
    refine ⟨_, Keyed.mem_keys_of_get? _ _ _ found, ?_⟩
    rw [stated]
    exact List.mem_singleton.mpr rfl

theorem mem_references_tableSchema (schema : Schema) (text : String) :
    text ∈ (tableSchema schema).references ↔
      ∃ relation, schema.Shows relation ∧ referenceText relation.table = text := by
  have sorted (kind properties needed : Json) :
      ofFields [("type", kind), ("properties", properties), ("required", needed)] =
        .object [("properties", properties), ("required", needed), ("type", kind)] := by
    refine congrArg object (Keyed.ofEntries_eq_of_perm _ _ ?_ (List.perm_append_singleton _ [_, _]))
    simp only [Keyed.Sorted, Keyed.keys, List.map]
    decide
  rw [← mem_references_properties, tableSchema, sorted, references_object]
  simp only [List.flatMap_cons, List.flatMap_nil, List.append_nil]
  rw [fieldReference_string "type" _ (by decide), strings, fieldReference_array, ← references_array,
    ← strings, references_strings, List.append_nil, List.append_nil]
  rw [ofFields, fieldReference_object]
  rfl

theorem references_parameter (parameter : Parameter) : parameter.toJson.references = [] := by
  have typed : (ofFields [("type", .string parameter.dataType)]).references = [] :=
    references_ofFields_eq_nil _ (by simp [fieldReference_string])
  rw [ofFields, ← fieldReference_object "schema"] at typed
  rw [Parameter.toJson, references_object]
  cases parameter.description <;>
    simp [fieldReference_string, fieldReference_bool, ofFields, typed]

theorem references_operation (operation : Operation) : operation.toJson.references = [] := by
  rw [Operation.toJson, references_object]
  simp only [List.flatMap_cons, List.flatMap_nil, List.append_nil]
  rw [fieldReference_string "summary" _ (by decide), strings, fieldReference_array, ← references_array,
    ← strings, references_strings, fieldReference_array, fieldReference_object, references_object_map]
  next => simp [references_parameter]
  next =>
    intro response
    rw [fieldReference_object, references_object]
    simp [fieldReference_string]

theorem fieldReference_operation (key : String) (operation : Operation) :
    fieldReference (key, operation.toJson) = [] := by
  have silent := references_operation operation
  rw [Operation.toJson, ← fieldReference_object key] at silent
  exact silent

theorem references_document (document : Document) :
    document.toJson.references = document.schemas.flatMap fieldReference := by
  have titles : information.references = [] := by
    rw [information, references_object]
    simp [fieldReference_string]
  rw [Document.toJson, references_object]
  simp only [List.flatMap_cons, List.flatMap_nil, List.append_nil]
  rw [fieldReference_string "openapi" _ (by decide), information, fieldReference_object, ← information,
    titles, fieldReference_object, references_object_map, fieldReference_object, references_object]
  next =>
    simp only [List.flatMap_cons, List.flatMap_nil, List.append_nil, List.nil_append]
    rw [fieldReference_object, references_object]
  next =>
    intro entry
    rw [fieldReference_object]
    exact references_object_map _ _ fun operation => fieldReference_operation _ operation

theorem mem_references_document (registry : Registry) (made : registry.Made) (basePath text : String) :
    text ∈ (document registry basePath).toJson.references ↔
      ∃ resource ∈ registry.models, ∃ relation, resource.schema.Shows relation ∧
        referenceText relation.table = text := by
  have field (name : String) (schema : Schema) :
      fieldReference (name, tableSchema schema) = (tableSchema schema).references := by
    rw [tableSchema, ofFields, fieldReference_object]
  rw [references_document, List.mem_flatMap]
  constructor
  next =>
    rintro ⟨⟨name, schema⟩, listed, stated⟩
    obtain ⟨resource, member, rfl, rfl⟩ := (mem_schemas_iff registry basePath made name schema).mp listed
    rw [field, mem_references_tableSchema] at stated
    exact ⟨resource, member, stated⟩
  next =>
    rintro ⟨resource, member, stated⟩
    refine ⟨(resource.slug, tableSchema resource.schema), ?_, ?_⟩
    next => exact (mem_schemas_iff registry basePath made _ _).mpr ⟨resource, member, rfl, rfl⟩
    next =>
      rw [field, mem_references_tableSchema]
      exact stated

theorem has_schemas_iff (registry : Registry) (made : registry.Made) (basePath name : String) :
    (document registry basePath).schemas.has name = true ↔
      ∃ resource ∈ registry.models, resource.slug = name := by
  have sorted : (document registry basePath).schemas.Sorted := by
    rw [schemas_document]
    exact Keyed.sorted_ofEntries _
  rw [Keyed.has, Option.isSome_iff_exists]
  constructor
  next =>
    rintro ⟨schema, found⟩
    have listed := Keyed.mem_keys_of_get? _ name schema found
    obtain ⟨resource, member, same, -⟩ := (mem_schemas_iff registry basePath made name schema).mp listed
    exact ⟨resource, member, same⟩
  next =>
    rintro ⟨resource, member, same⟩
    have listed := (mem_schemas_iff registry basePath made name _).mpr ⟨resource, member, same, rfl⟩
    exact ⟨_, sorted.get?_of_mem name _ listed⟩

/-- The document refers to the tables of relations and lists its schemas under slugs, so every reference
finds its schema just where the tables of relations are slugs. -/
theorem document_references (registry : Registry) (made : registry.Made) (basePath : String) :
    let document := document registry basePath
    (∀ text, text ∈ document.toJson.references ↔
      ∃ resource ∈ registry.models, ∃ relation, resource.schema.Shows relation ∧
        referenceText relation.table = text) ∧
    (∀ name, document.schemas.has name = true ↔ ∃ resource ∈ registry.models, resource.slug = name) ∧
    ((∀ name, referenceText name ∈ document.toJson.references → document.schemas.has name = true) ↔
      ∀ resource ∈ registry.models, ∀ relation, resource.schema.Shows relation →
        ∃ other ∈ registry.models, other.slug = relation.table) := by
  intro document
  have referred := mem_references_document registry made basePath
  have listed := has_schemas_iff registry made basePath
  refine ⟨referred, listed, ?_⟩
  constructor
  next =>
    intro found resource member relation shown
    have stated := (referred _).mpr ⟨resource, member, relation, shown, rfl⟩
    exact (listed relation.table).mp (found relation.table stated)
  next =>
    intro slugged name stated
    obtain ⟨resource, member, relation, shown, same⟩ := (referred _).mp stated
    obtain rfl := referenceText_inj _ _ same
    exact (listed relation.table).mpr (slugged resource member relation shown)

def postsResource : Resource where
  slug := "posts"
  relations := [{ name := "author", table := "users", localKey := "author_id", foreignKey := "id" }]

def usersRegistry : Registry where
  resources := [("posts", postsResource), ("users", { slug := "users" })]

theorem made_usersRegistry : usersRegistry.Made := by
  have posts := Registry.Made.register {} { resources := [("posts", postsResource)] } postsResource
    .empty rfl
  exact Registry.Made.register _ usersRegistry { slug := "users" } posts rfl

theorem document_references_users :
    referenceText "users" ∈ (document usersRegistry "/api").toJson.references ∧
      (document usersRegistry "/api").schemas.has "users" = true := by
  obtain ⟨referred, -, found⟩ := document_references usersRegistry made_usersRegistry "/api"
  have slugged : ∀ resource ∈ usersRegistry.models, ∀ relation ∈ resource.relations,
      ∃ other ∈ usersRegistry.models, other.slug = relation.table := by decide
  have stated := (referred (referenceText "users")).mpr
    ⟨postsResource, by decide, postsResource.relations.head (by decide), by decide, rfl⟩
  have reaches := found.mpr fun resource member relation shown =>
    slugged resource member relation shown.mem
  exact ⟨stated, reaches "users" stated⟩

def peopleRegistry : Registry where
  resources := [("people", { slug := "people", table := "users" }), ("posts", postsResource)]

theorem not_has_schemas_people :
    Registry.ofConfigs
        [{ slug := "people", table := some "users" },
          { slug := "posts", relations := postsResource.relations }] = .ok peopleRegistry ∧
      (∀ resource ∈ peopleRegistry.models, ∀ relation ∈ resource.relations,
        ∃ other ∈ peopleRegistry.models, other.table = relation.table) ∧
      referenceText "users" ∈ (document peopleRegistry "/api").toJson.references ∧
      (document peopleRegistry "/api").schemas.has "users" = false :=
  ⟨rfl, by decide, by decide +kernel, by decide +kernel⟩

end OpenApi

end RowGate
