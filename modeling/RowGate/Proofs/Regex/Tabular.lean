import RowGate.Proofs.Regex.Meaning
import RowGate.Regex.Tabular

set_option autoImplicit false

namespace RowGate.Regex

section

variable (accepts : Flags → Expression → Bool) (refusal : String)

-- What the characters of an item's spelling are read as.
def Item.symbols : Item → List Symbol
  | .start => [.start]
  | .finish => [.finish]
  | .one atom => [.atom atom]
  | .many atom => [.atom atom, .star]

end

section

variable (flags : Flags)

def answer (items : Expression) (atStart : Bool) (text : List Char) : Bool :=
  (places flags items atStart text).headD false

section

variable (items : Expression) (atStart : Bool) (c : Char) (text : List Char)

variable (atom : Atom)

end

end

end RowGate.Regex
