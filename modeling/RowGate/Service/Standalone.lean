import RowGate.Regex.Tabular
import RowGate.Service.Basic

set_option autoImplicit false

namespace RowGate

def Host.standalone : Host where
  engine := Regex.unlimited
  jsonFault := fun _ => "the text is not JSON"
  newKey := Store.keyText

end RowGate
