import RowGate.Resource.Basic

set_option autoImplicit false

namespace RowGate

structure Registry where
  resources : Keyed Resource := []

namespace Registry

def register (registry : Registry) (resource : Resource) : Except Error Registry := do
  if !isIdentifier resource.slug then
    .error (.configuration (Error.invalidIdentifier resource.slug).message)
  else if registry.resources.has resource.slug then
    .error (.configuration ("resource '" ++ resource.slug ++ "' registered twice"))
  else .ok { resources := registry.resources.insert resource.slug resource }

def ofConfigs (configs : List ResourceConfig) : Except Error Registry :=
  configs.foldlM (fun registry config => do registry.register (← Resource.ofConfig config)) {}

-- The resource at a slug; text that is no identifier is refused before it is looked up.
def get (registry : Registry) (slug : String) : Except Error Resource := do
  checkIdentifier slug
  match registry.resources.get? slug with
  | some resource => .ok resource
  | none => .error (.resourceNotFound slug)

def models (registry : Registry) : List Resource :=
  registry.resources.map (·.2)

def size (registry : Registry) : Nat :=
  registry.resources.length

end Registry

end RowGate
