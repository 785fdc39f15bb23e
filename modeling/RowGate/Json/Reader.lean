import RowGate.Json.Token
import RowGate.Text.Utf8

set_option autoImplicit false

namespace RowGate.Json

inductive Draft where
  | scalar (value : Option Json)
  | array (items : List Draft)
  | object (entries : List (Option String × Draft))

namespace Draft

-- A container that is not closed yet, its members in reverse.
inductive Frame where
  | array (items : List Draft)
  | object (entries : List (Option String × Draft))
  | member (entries : List (Option String × Draft)) (key : Option String)

inductive Awaiting where
  | value
  | firstItem
  | firstKey
  | key
  | colon (key : Option String)
  | after (value : Draft)

def startValue? (stack : List Frame) : Token → Option (List Frame × Awaiting)
  | .scalar value => some (stack, .after (.scalar value))
  | .string text => some (stack, .after (.scalar (text.map .string)))
  | .arrayStart => some (.array [] :: stack, .firstItem)
  | .objectStart => some (.object [] :: stack, .firstKey)
  | _ => none

def step? : Awaiting → List Frame → Token → Option (List Frame × Awaiting)
  | .value, stack, token => startValue? stack token
  | .firstItem, .array _ :: stack, .arrayEnd => some (stack, .after (.array []))
  | .firstItem, stack, token => startValue? stack token
  | .firstKey, .object _ :: stack, .objectEnd => some (stack, .after (.object []))
  | .firstKey, stack, .string key => some (stack, .colon key)
  | .key, stack, .string key => some (stack, .colon key)
  | .colon key, .object entries :: stack, .colon => some (.member entries key :: stack, .value)
  | .after value, .array items :: stack, .comma => some (.array (value :: items) :: stack, .value)
  | .after value, .array items :: stack, .arrayEnd =>
    some (stack, .after (.array (value :: items).reverse))
  | .after value, .member entries key :: stack, .comma =>
    some (.object ((key, value) :: entries) :: stack, .key)
  | .after value, .member entries key :: stack, .objectEnd =>
    some (stack, .after (.object ((key, value) :: entries).reverse))
  | _, _, _ => none

def ofTokens? : Awaiting → List Frame → List Token → Option Draft
  | .after value, [], [] => some value
  | _, _, [] => none
  | awaiting, stack, token :: rest =>
    match step? awaiting stack token with
    | some (stack, next) => ofTokens? next stack rest
    | none => none

def ofText? (text : List Char) : Option Draft :=
  (tokens? text).bind (ofTokens? .value [])

mutual

-- The value, if it nests at most `levels` containers.
def meaning? : Nat → Draft → Option Json
  | _, .scalar value => value
  | 0, .array _ => none
  | levels + 1, .array items => (items? levels items).map .array
  | 0, .object _ => none
  | levels + 1, .object entries => (entries? levels entries).map ofFields

def items? : Nat → List Draft → Option (List Json)
  | _, [] => some []
  | levels, item :: rest => do
    let value ← meaning? levels item
    let values ← items? levels rest
    some (value :: values)

def entries? : Nat → List (Option String × Draft) → Option (List (String × Json))
  | _, [] => some []
  | levels, (key, item) :: rest => do
    let key ← key
    let value ← meaning? levels item
    let values ← entries? levels rest
    some ((key, value) :: values)

end

end Draft

def maxDepth : Nat := 127

def read? (text : List Char) : Option Json :=
  (Draft.ofText? text).bind (Draft.meaning? maxDepth)

def readBytes? (bytes : List UInt8) : Option Json :=
  (Text.Utf8.decode bytes).bind read?

end RowGate.Json
