import RowGate.Json.Basic

set_option autoImplicit false

namespace RowGate.Json

def record? (names : List String) : Json → Option Row
  | .object fields => some fields
  | .array items => if items.length ≤ names.length then some (names.zip items) else none
  | _ => none

def fullRecord? (names : List String) : Json → Option Row
  | .array items => if items.length = names.length then some (names.zip items) else none
  | value => value.record? names

section

variable {α : Type}

def required (members : Row) (name : String) (decode : Json → Option α) : Option α :=
  (members.get? name).bind decode

def optional (members : Row) (name : String) (default : α) (decode : Json → Option α) : Option α :=
  match members.get? name with
  | some value => decode value
  | none => some default

def nullable (decode : Json → Option α) : Json → Option (Option α)
  | .null => some none
  | value => (decode value).map some

def listOf (decode : Json → Option α) (value : Json) : Option (List α) :=
  value.asArray?.bind (·.mapM decode)

end

def stringList (value : Json) : Option (List String) :=
  listOf asString? value

def boundedNat (most : Nat) (value : Json) : Option Nat :=
  value.asNat?.filter (· ≤ most)

end RowGate.Json
