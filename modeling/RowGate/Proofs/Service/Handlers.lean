import RowGate.Proofs.Outcome
import RowGate.Service.Basic

set_option autoImplicit false

namespace RowGate.Service

theorem nonempty_eq_ok_iff (values result : Row) :
    nonempty values = .ok result ↔ values ≠ [] ∧ values = result := by
  cases values <;> simp [nonempty]

theorem eq_of_list (service : Service) (store after : Store) (slug queryText : String)
    (response : Response) (listed : service.list store slug queryText = .ok (response, after)) :
    after = store := by
  obtain ⟨resource, _, listed⟩ := (bind_eq_ok_iff _ _ _).mp listed
  obtain ⟨query, _, listed⟩ := (bind_eq_ok_iff _ _ _).mp listed
  obtain ⟨rows, _, listed⟩ := (bind_eq_ok_iff _ _ _).mp listed
  split at listed <;>
    obtain ⟨count, _, listed⟩ := (bind_eq_ok_iff _ _ _).mp listed <;>
    simp only [Except.ok.injEq, Prod.mk.injEq] at listed <;>
    exact listed.2.symm

theorem fetch_cases (service : Service) (store after : Store) (slug id : String)
    (response : Response) (fetched : service.fetch store slug id = .ok (response, after)) :
    ∃ resource row, service.registry.get slug = .ok resource ∧
      store.find resource.table id = .ok (some row) ∧ response = withData 200 (.object row) ∧
      after = store := by
  obtain ⟨resource, registered, fetched⟩ := (bind_eq_ok_iff _ _ _).mp fetched
  obtain ⟨row?, found, fetched⟩ := (bind_eq_ok_iff _ _ _).mp fetched
  cases row? with
  | none => simp at fetched
  | some row =>
    simp only [Except.ok.injEq, Prod.mk.injEq] at fetched
    exact ⟨resource, row, registered, found, fetched.1.symm, fetched.2.symm⟩

theorem create_cases (service : Service) (store after : Store) (slug : String) (body : List UInt8)
    (response : Response) (created : service.create store slug body = .ok (response, after)) :
    ∃ resource fields row, service.registry.get slug = .ok resource ∧ service.bodyRow body = .ok fields ∧
      resource.fill fields ≠ [] ∧
      store.insert resource.table (resource.fill fields) = .ok (row, after) ∧
      response = withData 201 (.object row) := by
  obtain ⟨resource, registered, created⟩ := (bind_eq_ok_iff _ _ _).mp created
  obtain ⟨fields, read, created⟩ := (bind_eq_ok_iff _ _ _).mp created
  obtain ⟨values, filled, created⟩ := (bind_eq_ok_iff _ _ _).mp created
  obtain ⟨some, rfl⟩ := (nonempty_eq_ok_iff _ _).mp filled
  obtain ⟨⟨row, changed⟩, inserted, created⟩ := (bind_eq_ok_iff _ _ _).mp created
  simp only [Except.ok.injEq, Prod.mk.injEq] at created
  obtain ⟨rfl, rfl⟩ := created
  exact ⟨resource, fields, row, registered, read, some, inserted, rfl⟩

theorem update_cases (service : Service) (store after : Store) (slug id : String)
    (body : List UInt8) (response : Response)
    (updated : service.update store slug id body = .ok (response, after)) :
    ∃ resource fields row, service.registry.get slug = .ok resource ∧ service.bodyRow body = .ok fields ∧
      (resource.fill fields).erase resource.primaryKey ≠ [] ∧
      store.update resource.table id ((resource.fill fields).erase resource.primaryKey) =
        .ok (some row, after) ∧
      response = withData 200 (.object row) := by
  obtain ⟨resource, registered, updated⟩ := (bind_eq_ok_iff _ _ _).mp updated
  obtain ⟨fields, read, updated⟩ := (bind_eq_ok_iff _ _ _).mp updated
  obtain ⟨values, filled, updated⟩ := (bind_eq_ok_iff _ _ _).mp updated
  obtain ⟨some, rfl⟩ := (nonempty_eq_ok_iff _ _).mp filled
  obtain ⟨⟨row?, changed⟩, written, updated⟩ := (bind_eq_ok_iff _ _ _).mp updated
  cases row? with
  | none => simp at updated
  | some row =>
    simp only [Except.ok.injEq, Prod.mk.injEq] at updated
    obtain ⟨rfl, rfl⟩ := updated
    exact ⟨resource, fields, row, registered, read, some, written, rfl⟩

theorem delete_cases (service : Service) (store after : Store) (slug id : String)
    (response : Response) (deleted : service.delete store slug id = .ok (response, after)) :
    ∃ resource, service.registry.get slug = .ok resource ∧
      store.delete resource.table id = .ok (true, after) ∧ response = .noContent := by
  obtain ⟨resource, registered, deleted⟩ := (bind_eq_ok_iff _ _ _).mp deleted
  obtain ⟨⟨found, changed⟩, removed, deleted⟩ := (bind_eq_ok_iff _ _ _).mp deleted
  cases found with
  | false => simp at deleted
  | true =>
    simp only [Except.ok.injEq, Prod.mk.injEq] at deleted
    obtain ⟨rfl, rfl⟩ := deleted
    exact ⟨resource, registered, removed, rfl⟩

def Route.methods : Route → List Method
  | .create _ => [.post]
  | .update _ _ => [.put, .patch]
  | .delete _ _ => [.delete]
  | _ => [.get]

theorem Target.mem_methods_of_route? (target : Target) (method : Method) (route : Route)
    (found : target.route? method = some route) : method ∈ route.methods := by
  cases target <;> cases method <;> simp only [Target.route?, Option.some.injEq, reduceCtorEq] at found
  all_goals subst found; simp [Route.methods]

theorem mem_methods_of_route? (basePath : String) (openApiEnabled : Bool) (method : Method)
    (path : List Char) (route : Route)
    (found : route? basePath openApiEnabled method path = some route) : method ∈ route.methods := by
  rw [route?] at found
  split at found
  next health =>
    simp only [Option.some.injEq] at found
    subst found
    simp [Route.methods, health.1]
  next =>
    obtain ⟨rest, _, found⟩ := Option.bind_eq_some_iff.mp found
    split at found
    next document =>
      simp only [Option.some.injEq] at found
      subst found
      simp [Route.methods, document.1]
    next =>
      obtain ⟨target, _, found⟩ := Option.bind_eq_some_iff.mp found
      exact target.mem_methods_of_route? method route found

end RowGate.Service
