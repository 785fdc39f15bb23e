import RowGate.Keyed
import RowGate.Number.Double

set_option autoImplicit false

namespace RowGate

inductive Number where
  | integer (value : Int)
  | double (value : Double)
  deriving DecidableEq

def Number.toDouble : Number → Double
  | .integer n => .ofInt n
  | .double x => x

inductive Json where
  | null
  | bool (value : Bool)
  | number (value : Number)
  | string (value : String)
  | array (items : List Json)
  | object (fields : List (String × Json))
  deriving Inhabited

abbrev Row := Keyed Json

namespace Json

def nat (n : Nat) : Json := .number (.integer n)

def strings (items : List String) : Json := .array (items.map .string)

def ofOption {α : Type} (f : α → Json) : Option α → Json
  | none => .null
  | some value => f value

def ofFields (fields : List (String × Json)) : Json := .object (Keyed.ofEntries fields)

def isNull : Json → Bool
  | .null => true
  | _ => false

def asBool? : Json → Option Bool
  | .bool value => some value
  | _ => none

def asString? : Json → Option String
  | .string value => some value
  | _ => none

def asArray? : Json → Option (List Json)
  | .array items => some items
  | _ => none

def asFields? : Json → Option Row
  | .object fields => some fields
  | _ => none

def asInt? : Json → Option Int
  | .number (.integer value) => some value
  | _ => none

def asNat? : Json → Option Nat
  | .number (.integer (.ofNat value)) => some value
  | _ => none

def field? (value : Json) (key : String) : Option Json :=
  value.asFields?.bind (·.get? key)

end Json

end RowGate
