import RowGate.Domain.Bidi
import RowGate.Domain.Joining
import RowGate.Domain.Table
import RowGate.Text.Punycode

set_option autoImplicit false

namespace RowGate.Domain

def isControl (c : Char) : Bool :=
  c.toNat < 0x20 || c.toNat == 0x7F

def isForbidden (c : Char) : Bool :=
  ['\x00', '\t', '\n', '\r', ' ', '#', '/', ':', '<', '>', '?', '@', '[', '\\', ']', '^', '|'].contains c

-- What a character stands for; `none` if it may not stand in a domain name.
def mapChar? (c : Char) : Option (List Char) :=
  if Text.isAscii c then some [c.toLower]
  else
    match Text.moved? moves c, spellings.lookup c.toNat with
    | some moved, _ => some [moved]
    | none, some spelled => some spelled
    | none, none =>
      if ignored.has c then some []
      else if refused.has c then none
      else some [c]

def map? (text : List Char) : Option (List Char) :=
  (text.mapM mapChar?).map fun mapped => Text.compose mapped.flatten

def isMapped (text : List Char) : Bool :=
  map? text = some text

def punycodeMark : List Char := "xn--".toList

def mostCharacters : Nat := 1000

def mostDigits : Nat := 2000

-- The label that stands in Punycode behind its mark.
def ofPunycode? (text : List Char) : Option (List Char) :=
  if text = [] ∨ text.getLast? = some '-' ∨ mostDigits < text.length then none
  else (Text.Punycode.decode? text).filter isMapped

def isLabel (label : List Char) : Bool :=
  label.all Text.isAscii ||
    (label.head?.all (!Text.isMark ·) && joinersFit label && label.length ≤ mostCharacters)

def label? (text : List Char) : Option (List Char) :=
  let label :=
    if punycodeMark.isPrefixOf text then ofPunycode? (text.drop punycodeMark.length) else some text
  label.filter isLabel

def writeLabel (label : List Char) : List Char :=
  if label.all Text.isAscii then label else punycodeMark ++ Text.Punycode.encode label

def labels? (domain : List Char) : Option (List (List Char)) := do
  let text ← map? domain
  let labels ← (Text.pieces '.' text).mapM label?
  if text.any fun c => isForbidden c || isControl c || c = '%' then none
  else if labels.any (·.any isRightToLeft) && !labels.all keepsDirection then none
  else some labels

def ascii? (domain : List Char) : Option (List Char) :=
  (labels? domain).map fun labels => Text.join '.' (labels.map writeLabel)

end RowGate.Domain
