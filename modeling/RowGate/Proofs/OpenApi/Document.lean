import Mathlib.Data.List.Nodup
import RowGate.OpenApi.Document
import RowGate.Proofs.Grammar
import RowGate.Proofs.Resource.Registry

set_option autoImplicit false

namespace RowGate.OpenApi

def baseText (basePath : String) : String :=
  .ofList (trimSlashes basePath.toList)

def schemaEntry (resource : Resource) : String × Json :=
  (resource.slug, tableSchema resource.schema)

def pathEntries (base : String) (resource : Resource) : List (String × List Operation) :=
  [(listPath base resource.slug, listOperations resource),
    (recordPath base resource.slug, recordOperations resource)]

theorem foldl_add (base : String) (resources : List Resource) (document : Document) :
    (resources.foldl (Document.add base) document).schemas =
        (resources.map schemaEntry).foldl (fun built entry => built.insert entry.1 entry.2)
          document.schemas ∧
      (resources.foldl (Document.add base) document).paths =
        (resources.flatMap (pathEntries base)).foldl (fun built entry => built.insert entry.1 entry.2)
          document.paths := by
  induction resources generalizing document with
  | nil => exact ⟨rfl, rfl⟩
  | cons resource rest ih => exact ih (document.add base resource)

section

variable (registry : Registry) (basePath : String)

theorem schemas_document :
    (document registry basePath).schemas = Keyed.ofEntries (registry.models.map schemaEntry) :=
  (foldl_add (baseText basePath) registry.models {}).1

theorem paths_document :
    (document registry basePath).paths =
      Keyed.ofEntries (registry.models.flatMap (pathEntries (baseText basePath))) :=
  (foldl_add (baseText basePath) registry.models {}).2

theorem listPath_toList (base slug : String) :
    (listPath base slug).toList = base.toList ++ '/' :: slug.toList := by
  simp [listPath]

theorem recordPath_toList (base slug : String) :
    (recordPath base slug).toList = base.toList ++ '/' :: (slug.toList ++ "/\x7bid\x7d".toList) := by
  simp [recordPath, listPath]

theorem listPath_inj (base left right : String) (same : listPath base left = listPath base right) :
    left = right := by
  have texts := congrArg String.toList same
  rw [listPath_toList, listPath_toList] at texts
  exact String.toList_inj.mp (List.cons.inj (List.append_cancel_left texts)).2

theorem recordPath_inj (base left right : String)
    (same : recordPath base left = recordPath base right) : left = right := by
  have texts := congrArg String.toList same
  rw [recordPath_toList, recordPath_toList] at texts
  exact String.toList_inj.mp (List.append_cancel_right (List.cons.inj (List.append_cancel_left texts)).2)

theorem listPath_ne_recordPath (base left right : String) (named : isIdentifier left = true) :
    listPath base left ≠ recordPath base right := by
  intro same
  have texts := congrArg String.toList same
  rw [listPath_toList, recordPath_toList] at texts
  have slug := (List.cons.inj (List.append_cancel_left texts)).2
  refine not_mem_of_isIdentifierText left.toList named '/' (by decide) ?_
  rw [slug]
  simp

variable (made : registry.Made)

include made

theorem mem_schemas_iff (name : String) (schema : Json) :
    (name, schema) ∈ (document registry basePath).schemas ↔
      ∃ resource ∈ registry.models, resource.slug = name ∧ tableSchema resource.schema = schema := by
  have distinct : (Keyed.keys (registry.models.map schemaEntry)).Nodup := by
    rw [Keyed.keys, List.map_map]
    exact made.nodup_slugs
  rw [schemas_document, Keyed.mem_ofEntries_iff _ distinct]
  simp [schemaEntry]

theorem nodup_paths (base : String) :
    (Keyed.keys (registry.models.flatMap (pathEntries base))).Nodup := by
  have apart := List.pairwise_map.mp made.nodup_slugs
  have identified := made.identified_of_mem
  rw [Keyed.keys, List.map_flatMap, List.nodup_flatMap]
  refine ⟨?_, ?_⟩
  next =>
    intro resource member
    simpa [pathEntries] using listPath_ne_recordPath base _ _ (identified resource member)
  next =>
    refine apart.imp_of_mem fun {left right} first second differ => ?_
    have lists := mt (listPath_inj base left.slug right.slug) differ
    have records := mt (recordPath_inj base left.slug right.slug) differ
    have mixed := listPath_ne_recordPath base left.slug right.slug (identified left first)
    have other := listPath_ne_recordPath base right.slug left.slug (identified right second)
    simp [Function.onFun, List.Disjoint, pathEntries, lists, records, mixed, other.symm]

theorem mem_paths_iff (path : String) (operations : List Operation) :
    (path, operations) ∈ (document registry basePath).paths ↔
      ∃ resource ∈ registry.models, (path, operations) ∈ pathEntries (baseText basePath) resource := by
  rw [paths_document, Keyed.mem_ofEntries_iff _ (nodup_paths registry made _), List.mem_flatMap]

end

end RowGate.OpenApi
