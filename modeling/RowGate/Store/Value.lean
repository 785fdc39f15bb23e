import RowGate.Json.Writer
import RowGate.Number.Reading
import RowGate.Text.Blank

set_option autoImplicit false

namespace RowGate

def compareTexts (left right : String) : Ordering :=
  compare left right

def compareBools (left right : Bool) : Ordering :=
  compare left.toNat right.toNat

def compareValues : Json → Json → Ordering
  | .null, .null => .eq
  | .null, _ => .gt
  | _, .null => .lt
  | .number left, .number right => left.toDouble.order right.toDouble
  | .string left, .string right => compareTexts left right
  | .bool left, .bool right => compareBools left right
  | left, right => compareTexts left.text right.text

-- Null is the same as nothing, not even as null.
def sameValue (left right : Json) : Bool :=
  !left.isNull && !right.isNull && compareValues left right == .eq

namespace Json

-- A string as it is, any other value as its JSON text.
def plainText : Json → String
  | .string s => s
  | value => value.text

-- A boolean between blanks, in any case.
def boolOfText? (text : String) : Option Bool :=
  let word := (Text.trim text.toList).map Char.toLower
  if [['t', 'r', 'u', 'e'], ['t'], ['1']].contains word then some true
  else if [['f', 'a', 'l', 's', 'e'], ['f'], ['0']].contains word then some false
  else none

-- How a value stands to the text of a query, where they can be compared.
def orderText? (field : Json) (text : String) : Option Ordering :=
  match field with
  | .number n => (Reading.ofText? (Text.trim text.toList)).bind (Reading.order? n.toDouble)
  | .string s => some (compareTexts s text)
  | .bool b => (boolOfText? text).map (compareBools b)
  | _ => none

def equalsText (field : Json) (text : String) : Bool :=
  match field with
  | .string s => s = text
  | .number _ => orderText? field text == some .eq
  | .bool b => boolOfText? text == some b
  | .null => false
  | value => value.text = text

end Json

end RowGate
